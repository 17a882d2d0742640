import Mathlib
import PluginAudit.Proofs.Script.Alias
import PluginAudit.Proofs.Script.Immunity

namespace PluginAudit.Script

open Text Override

/-- A complete span at the start of a text. A line comment goes on to the end of its line. -/
structure Starts (mode : Mode) (span rest : List Char) : Prop where
  complete : Span mode span
  lineEnd : mode = .line → rest = [] ∨ rest.head? = some '\n'

/-- The places of a text that lie in a comment or a literal, where the text is read from left to right. What opens a
span and does not end it is code. -/
inductive Covered : List Char → Nat → Prop where
  | inside {mode : Mode} {span rest : List Char} {place : Nat} (starts : Starts mode span rest)
      (within : place < span.length) : Covered (span ++ rest) place
  | behind {mode : Mode} {span rest : List Char} {place : Nat} (starts : Starts mode span rest)
      (later : Covered rest place) : Covered (span ++ rest) (span.length + place)
  | code {c : Char} {rest : List Char} {place : Nat}
      (unopened : ∀ mode span behind, c :: rest = span ++ behind → ¬ Starts mode span behind)
      (later : Covered rest place) : Covered (c :: rest) (place + 1)

theorem exists_block_body {text : List Char} {n : Nat} (found : blockEnd? text = some n) :
    ∃ body rest, text = body ++ '*' :: '/' :: rest ∧ ¬ ['*', '/'] <:+: body := by
  induction text using blockEnd?.induct generalizing n with
  | case1 => cases found
  | case2 rest => exact ⟨[], rest, rfl, by simp⟩
  | case3 c rest other ih =>
    rw [blockEnd?] at found
    · obtain ⟨m, foundRest, -⟩ := Option.map_eq_some_iff.mp found
      obtain ⟨body, behind, rfl, inside⟩ := ih foundRest
      refine ⟨c :: body, behind, rfl, ?_⟩
      intro within
      rcases List.infix_cons_iff.mp within with first | later
      · -- The mark would start here, and the search would have ended.
        obtain ⟨more, same⟩ := first
        cases same
        exact other _ rfl rfl
      · exact inside later
    · exact other

theorem exists_literal_body {mark : Char} {text : List Char} {n : Nat} (found : quoteEnd? mark text = some n) :
    ∃ body rest, text = body ++ mark :: rest ∧ LiteralBody mark body := by
  induction text using quote_induction generalizing n with
  | nil => cases found
  | last => cases found
  | escape c rest ih =>
    rw [quoteEnd?_escape] at found
    obtain ⟨m, foundRest, -⟩ := Option.map_eq_some_iff.mp found
    obtain ⟨body, behind, rfl, inside⟩ := ih foundRest
    exact ⟨'\\' :: c :: body, behind, rfl, .escape c inside⟩
  | plain c rest other ih =>
    rw [quoteEnd?_cons other] at found
    split at found
    · rename_i isMark
      subst isMark
      exact ⟨[], rest, rfl, .nil⟩
    · rename_i notMark
      obtain ⟨m, foundRest, -⟩ := Option.map_eq_some_iff.mp found
      obtain ⟨body, behind, rfl, inside⟩ := ih foundRest
      exact ⟨c :: body, behind, rfl, .plain other notMark inside⟩

theorem Starts.line (text : List Char) :
    Starts .line ('/' :: '/' :: text.takeWhile (· != '\n')) (text.dropWhile (· != '\n')) := by
  constructor
  · apply Span.line
    intro newline
    have other := List.mem_takeWhile_imp newline
    simp at other
  · intro _
    cases behind : text.dropWhile (· != '\n') with
    | nil => exact .inl rfl
    | cons c rest =>
      have stop := List.head?_dropWhile_not (· != '\n') text
      rw [behind] at stop
      right
      simpa using stop

theorem exists_starts {text : List Char} (positive : 0 < spanLength text) :
    ∃ mode span rest, text = span ++ rest ∧ Starts mode span rest := by
  rcases spanLength_cases positive with ⟨behind, n, rfl, found, -⟩ | ⟨behind, rfl, -⟩ |
    ⟨mark, behind, n, quote, rfl, found, -⟩
  · obtain ⟨body, rest, rfl, inside⟩ := exists_block_body found
    exact ⟨.block, _, rest, by simp, .block inside, nofun⟩
  · refine ⟨.line, _, _, ?_, Starts.line behind⟩
    rw [List.cons_append, List.cons_append, List.takeWhile_append_dropWhile]
  · obtain ⟨body, rest, rfl, inside⟩ := exists_literal_body found
    obtain ⟨kind, rfl⟩ := Literal.exists_mark quote
    exact ⟨.literal kind, _, rest, by simp, .literal inside, nofun⟩

theorem Starts.spanLength_pos {mode : Mode} {span rest : List Char} (starts : Starts mode span rest) :
    0 < spanLength (span ++ rest) := by
  rw [starts.complete.spanLength_append starts.lineEnd]
  exact List.length_pos_iff.mpr starts.complete.nonempty

theorem Starts.blankChars {mode : Mode} {span rest : List Char} (starts : Starts mode span rest) :
    blankChars (span ++ rest) = List.replicate span.length ' ' ++ blankChars rest :=
  starts.complete.blankChars_append starts.lineEnd

theorem spanLength_eq_zero_iff {text : List Char} :
    spanLength text = 0 ↔ ∀ mode span behind, text = span ++ behind → ¬ Starts mode span behind := by
  constructor
  · rintro zero mode span behind rfl starts
    have positive := starts.spanLength_pos
    omega
  · intro unopened
    by_contra nonzero
    obtain ⟨mode, span, rest, same, starts⟩ := exists_starts (Nat.pos_of_ne_zero nonzero)
    exact unopened mode span rest same starts

theorem Covered.blanked {text : List Char} {place : Nat} (covered : Covered text place) :
    (blankChars text)[place]? = some ' ' := by
  induction covered with
  | @inside mode span rest place starts within =>
    rw [starts.blankChars, List.getElem?_append_left (by simpa using within)]
    exact List.getElem?_replicate_of_lt within
  | @behind mode span rest place starts _ ih =>
    rw [starts.blankChars, List.getElem?_append_right (by simp)]
    simpa using ih
  | code unopened _ ih =>
    rw [blankChars_keep (spanLength_eq_zero_iff.mpr unopened), List.getElem?_cons_succ]
    exact ih

theorem getElem?_blankChars {text : List Char} {place : Nat} (visible : ¬ Covered text place) :
    (blankChars text)[place]? = text[place]? := by
  induction text using blank_induction generalizing place with
  | nil => rfl
  | keep c rest none ih =>
    rw [blankChars_keep none]
    cases place with
    | zero => rfl
    | succ place =>
      rw [List.getElem?_cons_succ, List.getElem?_cons_succ]
      apply ih
      intro later
      exact visible (.code (spanLength_eq_zero_iff.mp none) later)
  | span text positive ih =>
    obtain ⟨mode, span, rest, rfl, starts⟩ := exists_starts positive
    have outside : span.length ≤ place := by
      by_contra within
      exact visible (.inside starts (by omega))
    obtain ⟨further, rfl⟩ := Nat.exists_eq_add_of_le outside
    rw [starts.complete.spanLength_append starts.lineEnd, List.drop_left] at ih
    rw [starts.blankChars, List.getElem?_append_right (by simp), List.getElem?_append_right (by simp)]
    simp only [List.length_replicate, Nat.add_sub_cancel_left]
    apply ih
    intro later
    exact visible (.behind starts later)

theorem Rule.signature_infix {rule : Rule} {text rest : List Char} {override : Override}
    (found : rule.find? text = some (override, rest)) : override.signature.toList <:+: text := by
  obtain ⟨owner, method⟩ := override
  have parts : (Override.signature ⟨owner, method⟩).toList = owner ++ (Signature.marker ++ method) := by
    simp [Override.signature, Signature.toList_make]
  have marker : ".prototype.".toList = Signature.marker := rfl
  rw [parts]
  cases rule with
  | direct =>
    obtain ⟨behind, member, -⟩ := direct?_eq_some_iff.mp found
    obtain ⟨rfl, -⟩ := member?_iff_text.mp member
    refine ⟨[], behind, ?_⟩
    simp only [marker, List.nil_append, List.append_assoc]
  | aliased =>
    obtain ⟨taken, rfl, declares⟩ := aliased?_iff_declares.mp found
    cases declares with
    | @intro keyword gap name beforeSign behindSign _ _ beforeStop stop =>
      refine ⟨keyword ++ (gap ++ (name ++ (beforeSign ++ '=' :: behindSign))), beforeStop ++ stop :: rest, ?_⟩
      simp only [marker, List.append_assoc, List.cons_append, List.nil_append]

theorem signature_infix_blankChars {source signature : String} (member : signature ∈ signatures source) :
    signature.toList <:+: blankChars source.toList := by
  obtain ⟨rule, _, found⟩ := List.mem_flatMap.mp (mem_distinct.mp member)
  obtain ⟨override, listed, rfl⟩ := List.mem_map.mp found
  obtain ⟨here, rest, suffix, hit⟩ := Rule.exists_of_mem_overrides listed
  exact (Rule.signature_infix hit).trans suffix.isInfix

theorem Override.IsWordText.not_space {text : List Char} (word : IsWordText text) : ' ' ∉ text := by
  intro member
  have space := word.2 ' ' member
  revert space
  decide

theorem Signature.space_not_mem {owner method : String} (isOwner : IsWordText owner.toList)
    (isMethod : IsWordText method.toList) : ' ' ∉ (make owner method).toList := by
  rw [toList_make, List.mem_append, List.mem_append]
  rintro (inOwner | inMarker | inMethod)
  · exact isOwner.not_space inOwner
  · revert inMarker
    decide
  · exact isMethod.not_space inMethod

/-- What stands in the blanked text and has no blank stands in the text at the same place, and none of it is covered. -/
theorem stands_of_blanked {text word : List Char} {offset : Nat} (visible : ' ' ∉ word)
    (stands : word <+: (blankChars text).drop offset) :
    word <+: text.drop offset ∧ ∀ place, offset ≤ place → place < offset + word.length → ¬ Covered text place := by
  have blanked : ∀ i (bound : i < word.length), (blankChars text)[offset + i]? = some word[i] := by
    intro i bound
    have same := List.prefix_iff_getElem?.mp stands i bound
    rwa [List.getElem?_drop] at same
  have uncovered : ∀ i, i < word.length → ¬ Covered text (offset + i) := by
    intro i bound covered
    have space := (blanked i bound).symm.trans covered.blanked
    apply visible
    rw [← Option.some.inj space]
    exact List.getElem_mem bound
  constructor
  · apply List.prefix_iff_getElem?.mpr
    intro i bound
    rw [List.getElem?_drop, ← getElem?_blankChars (uncovered i bound)]
    exact blanked i bound
  · intro place start stop
    obtain ⟨i, rfl⟩ := Nat.exists_eq_add_of_le start
    exact uncovered i (by omega)

/-- Blanking keeps the length of a script and changes places in comments and literals only, to blanks. A signature is
listed once, stands in the script and in the blanked script at one place outside of comments and literals, and splits
into the two words that it is made of. -/
theorem signatures_stand (source : String) :
    (blank source).length = source.length ∧
      (∀ place, ((blank source).toList[place]? ≠ source.toList[place]? → Covered source.toList place) ∧
        (Covered source.toList place → (blank source).toList[place]? = some ' ')) ∧
      (signatures source).Nodup ∧
      ∀ signature ∈ signatures source,
        (∃ offset, signature.toList <+: source.toList.drop offset ∧
          signature.toList <+: (blank source).toList.drop offset ∧
          ∀ place, offset ≤ place → place < offset + signature.length → ¬ Covered source.toList place) ∧
        ∃ owner method, Signature.split signature = (owner, method) ∧ IsWordText owner.toList ∧
          IsWordText method.toList ∧ Signature.make owner method = signature := by
  have blanked : (blank source).toList = blankChars source.toList := String.toList_ofList
  rw [← String.length_toList, ← String.length_toList, blanked]
  refine ⟨length_blankChars source.toList, ?_, nodup_signatures source, ?_⟩
  · intro place
    constructor
    · intro changed
      by_contra visible
      exact changed (getElem?_blankChars visible)
    · exact Covered.blanked
  · intro signature member
    obtain ⟨owner, method, isOwner, isMethod, rfl⟩ := exists_of_mem_signatures member
    constructor
    · obtain ⟨before, behind, whole⟩ := signature_infix_blankChars member
      have stands : (Signature.make owner method).toList <+: (blankChars source.toList).drop before.length := by
        rw [← whole, List.append_assoc, List.drop_left]
        exact List.prefix_append _ behind
      obtain ⟨inSource, uncovered⟩ := stands_of_blanked (Signature.space_not_mem isOwner isMethod) stands
      rw [String.length_toList] at uncovered
      exact ⟨before.length, inSource, stands, uncovered⟩
    · exact ⟨owner, method, Signature.split_make isOwner.not_dot method, isOwner, isMethod, rfl⟩

/-- Overrides in a comment, in a literal, in code, and behind a mark that opens a literal and does not end it. -/
def unendedScript : String :=
  "/* A.prototype.b = */ 'C.prototype.d =' E.prototype.f = \"G.prototype.h = 1;"

theorem signatures_stand_unended :
    signatures unendedScript = ["E.prototype.f", "G.prototype.h"] ∧ Covered unendedScript.toList 3 ∧
      (∃ offset, "G.prototype.h".toList <+: unendedScript.toList.drop offset ∧
        "G.prototype.h".toList <+: (blank unendedScript).toList.drop offset ∧
        ∀ place, offset ≤ place → place < offset + "G.prototype.h".length → ¬ Covered unendedScript.toList place) ∧
      ∃ owner method, Signature.split "G.prototype.h" = (owner, method) ∧ IsWordText owner.toList ∧
        IsWordText method.toList ∧ Signature.make owner method = "G.prototype.h" := by
  have found : signatures unendedScript = ["E.prototype.f", "G.prototype.h"] := by decide +kernel
  have stands := signatures_stand unendedScript
  refine ⟨found, ?_, stands.2.2.2 "G.prototype.h" (by rw [found]; decide)⟩
  apply (stands.2.1 3).1
  decide

end PluginAudit.Script
