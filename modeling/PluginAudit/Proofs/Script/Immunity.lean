import Mathlib
import PluginAudit.Proofs.Script.Respacing
import PluginAudit.Proofs.Script.Seam

namespace PluginAudit.Script

inductive LiteralBody (mark : Char) : List Char → Prop where
  | nil : LiteralBody mark []
  | escape (c : Char) {rest : List Char} (body : LiteralBody mark rest) : LiteralBody mark ('\\' :: c :: rest)
  | plain {c : Char} {rest : List Char} (notBackslash : c ≠ '\\') (notMark : c ≠ mark) (body : LiteralBody mark rest) :
      LiteralBody mark (c :: rest)

/-- One complete comment or literal, by the mode that it is read in. -/
inductive Span : Mode → List Char → Prop where
  | block {body : List Char} (inside : ¬ ['*', '/'] <:+: body) : Span .block ('/' :: '*' :: body ++ ['*', '/'])
  | line {body : List Char} (inside : '\n' ∉ body) : Span .line ('/' :: '/' :: body)
  | literal {kind : Literal} {body : List Char} (inside : LiteralBody kind.mark body) :
      Span (.literal kind) (kind.mark :: body ++ [kind.mark])

theorem blockEnd?_body {body : List Char} (inside : ¬ ['*', '/'] <:+: body) (rest : List Char) :
    blockEnd? (body ++ '*' :: '/' :: rest) = some (body.length + 2) := by
  induction body with
  | nil => rfl
  | cons c body ih =>
    have tail : ¬ ['*', '/'] <:+: body := fun within => inside (within.trans (List.suffix_cons c body).isInfix)
    rw [List.cons_append, blockEnd?, ih tail]
    · rfl
    · rintro later rfl split
      cases body with
      | nil => cases split
      | cons d body =>
        cases split
        exact inside ⟨[], body, rfl⟩

theorem quoteEnd?_body {mark : Char} (plain : mark ≠ '\\') {body : List Char} (inside : LiteralBody mark body)
    (rest : List Char) : quoteEnd? mark (body ++ mark :: rest) = some (body.length + 1) := by
  induction inside with
  | nil => rw [List.nil_append, quoteEnd?_cons plain, if_pos rfl, List.length_nil]
  | escape c _ ih =>
    rw [List.cons_append, List.cons_append, quoteEnd?_escape, ih]
    rfl
  | plain notBackslash notMark _ ih =>
    rw [List.cons_append, quoteEnd?_cons notBackslash, if_neg notMark, ih]
    rfl

/-- A complete span is recognized as a whole. A line comment goes on to the end of its line. -/
theorem Span.spanLength_append {mode : Mode} {span : List Char} (complete : Span mode span) {rest : List Char}
    (lineEnd : mode = .line → rest = [] ∨ rest.head? = some '\n') : spanLength (span ++ rest) = span.length := by
  cases complete with
  | @block body inside =>
    have found := blockEnd?_body inside rest
    simp [spanLength, found]
  | @line body inside =>
    have stop : rest.takeWhile (· != '\n') = [] := by
      rcases lineEnd rfl with rfl | newline
      · rfl
      · obtain ⟨later, rfl⟩ := List.head?_eq_some_iff.mp newline
        rfl
    simp [spanLength, takeWhile_line inside, stop]
  | @literal kind body inside =>
    have plain : kind.mark ≠ '\\' := by cases kind <;> decide
    have found := quoteEnd?_body plain inside rest
    simp [spanLength_quote kind.isQuote_mark, found]

theorem Span.nonempty {mode : Mode} {span : List Char} (complete : Span mode span) : span ≠ [] := by
  cases complete <;> simp

theorem Span.blankChars_append {mode : Mode} {span : List Char} (complete : Span mode span) {rest : List Char}
    (lineEnd : mode = .line → rest = [] ∨ rest.head? = some '\n') :
    blankChars (span ++ rest) = List.replicate span.length ' ' ++ blankChars rest := by
  have length := complete.spanLength_append lineEnd
  have positive := List.length_pos_iff.mpr complete.nonempty
  rw [blankChars_span (by omega), length, List.drop_left]

theorem respaced_replicate {n m : Nat} (positive : 0 < n) (otherPositive : 0 < m) (rest : List Char) :
    Respaced (List.replicate n ' ' ++ rest) (List.replicate m ' ' ++ rest) := by
  obtain ⟨n, rfl⟩ := Nat.exists_eq_add_one.mpr positive
  obtain ⟨m, rfl⟩ := Nat.exists_eq_add_one.mpr otherPositive
  have blank : ∀ n, ∀ c ∈ ' ' :: List.replicate n ' ', Text.isBlank c = true := by
    intro n c member
    rw [← List.replicate_succ] at member
    rw [List.eq_of_mem_replicate member]
    rfl
  exact .blanks (blank n) (blank m) (.refl rest)

/-- Behind a closed script, a complete comment or literal is blanked as a whole, and any other in its place gives the
same overrides. -/
theorem span_immune {before span other rest : String} {mode otherMode : Mode} (closed : Closed before.toList)
    (last : (blank before).toList.getLast? ≠ some '/') (complete : Span mode span.toList)
    (otherComplete : Span otherMode other.toList)
    (lineEnd : mode = .line ∨ otherMode = .line → rest = "" ∨ rest.toList.head? = some '\n') :
    blank (before ++ span ++ rest) =
        blank before ++ String.ofList (List.replicate span.length ' ') ++ blank rest ∧
      signatures (before ++ span ++ rest) = signatures (before ++ other ++ rest) := by
  -- Said of any span, since it is needed of both.
  have blanked : ∀ {mode : Mode} {span : String}, Span mode span.toList →
      (mode = .line → rest = "" ∨ rest.toList.head? = some '\n') →
      blankChars (before ++ span ++ rest).toList =
        blankChars before.toList ++ (List.replicate span.length ' ' ++ blankChars rest.toList) := by
    intro mode span complete lineEnd
    have start : (blankChars before.toList).getLast? ≠ some '/' := by simpa [blank] using last
    have stop : mode = .line → rest.toList = [] ∨ rest.toList.head? = some '\n' := by simpa using lineEnd
    rw [String.toList_append, String.toList_append, List.append_assoc, blankChars_append closed start,
      complete.blankChars_append stop, String.length_toList]
  have first := blanked complete fun line => lineEnd (.inl line)
  have second := blanked otherComplete fun line => lineEnd (.inr line)
  constructor
  · rw [blank, first, String.ofList_append, String.ofList_append, ← String.append_assoc]
    rfl
  · have positive := List.length_pos_iff.mpr complete.nonempty
    have otherPositive := List.length_pos_iff.mpr otherComplete.nonempty
    rw [String.length_toList] at positive otherPositive
    rw [signatures, signatures, first, second]
    exact ((respaced_replicate positive otherPositive _).append_left _).signatures

/-- A literal with an opener and an escaped mark, and a line comment with an override, between a member and the sign
that assigns to it. -/
theorem span_immune_member :
    Closed "A.prototype.b".toList ∧ (blank "A.prototype.b").toList.getLast? ≠ some '/' ∧
      Span (.literal .single) "'/*\\''".toList ∧ Span .line "// C.prototype.d=".toList ∧
      blank "A.prototype.b'/*\\''\n=" = "A.prototype.b      \n=" ∧
      signatures "A.prototype.b'/*\\''\n=" = signatures "A.prototype.b// C.prototype.d=\n=" ∧
      signatures "A.prototype.b// C.prototype.d=\n=" = ["A.prototype.b"] := by
  have literal : Span (.literal .single) "'/*\\''".toList :=
    .literal (.plain (by decide) (by decide) (.plain (by decide) (by decide) (.escape _ .nil)))
  have line : Span .line "// C.prototype.d=".toList := .line (by decide)
  have immune := @span_immune "A.prototype.b" _ _ "\n=" _ _ (by decide) (by decide) literal line fun _ => .inr rfl
  exact ⟨by decide, by decide, literal, line, immune.1.trans (by decide), immune.2, by decide⟩

end PluginAudit.Script
