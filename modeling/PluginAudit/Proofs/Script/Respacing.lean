import Mathlib
import PluginAudit.Proofs.Script.Parallel

namespace PluginAudit.Script

open Text Override

/-- Two texts with the same characters, but with other runs of blanks in some places where both have blanks. -/
inductive Respaced : List Char → List Char → Prop where
  | nil : Respaced [] []
  | cons (c : Char) {a b : List Char} (rest : Respaced a b) : Respaced (c :: a) (c :: b)
  | blanks {c d : Char} {run other a b : List Char} (blank : ∀ x ∈ c :: run, isBlank x = true)
      (otherBlank : ∀ x ∈ d :: other, isBlank x = true) (rest : Respaced a b) :
      Respaced (c :: run ++ a) (d :: other ++ b)

namespace Respaced

theorem refl (text : List Char) : Respaced text text := by
  induction text with
  | nil => exact .nil
  | cons c rest ih => exact ih.cons c

theorem append_left (front : List Char) {a b : List Char} (respaced : Respaced a b) :
    Respaced (front ++ a) (front ++ b) := by
  induction front with
  | nil => exact respaced
  | cons c front ih => exact ih.cons c

variable {a b : List Char}

/-- The first characters agree on all that is true of no blank. -/
theorem head?_any {kind : Char → Bool} (visible : ∀ c, isBlank c = true → kind c = false) (respaced : Respaced a b) :
    a.head?.any kind = b.head?.any kind := by
  cases respaced with
  | nil => rfl
  | cons c _ => rfl
  | blanks blank otherBlank _ =>
    have first := visible _ (blank _ List.mem_cons_self)
    have second := visible _ (otherBlank _ List.mem_cons_self)
    simp [first, second]

theorem startsWord_eq (respaced : Respaced a b) : startsWord a = startsWord b :=
  respaced.head?_any fun _ blank => not_isWord_of_isBlank blank

theorem skipBlanks (respaced : Respaced a b) : Respaced (skipBlanks a) (skipBlanks b) := by
  unfold Override.skipBlanks
  induction respaced with
  | nil => exact .nil
  | @cons c a b rest ih =>
    by_cases blank : isBlank c = true
    · simpa [blank] using ih
    · simpa [blank] using rest.cons c
  | blanks blank otherBlank _ ih =>
    rwa [List.dropWhile_append_of_pos blank, List.dropWhile_append_of_pos otherBlank]

theorem takeWhile_isWord (respaced : Respaced a b) :
    a.takeWhile isWord = b.takeWhile isWord ∧ Respaced (a.dropWhile isWord) (b.dropWhile isWord) := by
  induction respaced with
  | nil => exact ⟨rfl, .nil⟩
  | @cons c a b rest ih =>
    by_cases word : isWord c = true
    · simpa [word] using ih
    · simpa [word] using rest.cons c
  | blanks blank otherBlank rest _ =>
    have first := not_isWord_of_isBlank (blank _ List.mem_cons_self)
    have second := not_isWord_of_isBlank (otherBlank _ List.mem_cons_self)
    simpa [first, second] using Respaced.blanks blank otherBlank rest

theorem dropChain (respaced : Respaced a b) : Respaced (dropChain a) (dropChain b) := by
  induction respaced with
  | nil => exact .nil
  | @cons c a b rest ih =>
    have next : a.head?.any isWord = b.head?.any isWord := rest.startsWord_eq
    simp only [Override.dropChain, next]
    split
    · exact ih
    · exact rest.cons c
  | @blanks c d run other a b blank otherBlank rest _ =>
    have stops : ∀ x later, isBlank x = true → Override.dropChain (x :: later) = x :: later := by
      intro x later blank
      have dot : x ≠ '.' := by
        rintro rfl
        cases blank
      simp [Override.dropChain, not_isWord_of_isBlank blank, dot]
    rw [List.cons_append, List.cons_append, stops c _ (blank c List.mem_cons_self),
      stops d _ (otherBlank d List.mem_cons_self)]
    exact .blanks blank otherBlank rest

theorem isPrefixOf? {lexeme : List Char} (visible : ∀ c ∈ lexeme, isBlank c = false) (respaced : Respaced a b) :
    Option.Rel Respaced (lexeme.isPrefixOf? a) (lexeme.isPrefixOf? b) := by
  induction lexeme generalizing a b with
  | nil => exact .some respaced
  | cons sign lexeme ih =>
    have differs : ∀ c, isBlank c = true → (sign == c) = false := by
      intro c blank
      rw [beq_eq_false_iff_ne]
      rintro rfl
      simp [visible sign List.mem_cons_self] at blank
    cases respaced with
    | nil => exact .none
    | @cons c a b rest =>
      simp only [List.isPrefixOf?]
      split
      · exact ih (List.forall_mem_cons.mp visible).2 rest
      · exact .none
    | @blanks c d run other a b blank otherBlank _ =>
      simp only [List.cons_append, List.isPrefixOf?, differs c (blank c List.mem_cons_self),
        differs d (otherBlank d List.mem_cons_self)]
      exact .none

theorem expect? (lexeme : String) (visible : lexeme.toList.any isBlank = false) (respaced : Respaced a b) :
    Option.Rel Respaced (expect? lexeme a) (expect? lexeme b) :=
  respaced.isPrefixOf? (by simpa using visible)

theorem takeWord? (respaced : Respaced a b) : Alike Respaced (takeWord? a) (takeWord? b) := by
  obtain ⟨word, rest⟩ := respaced.takeWhile_isWord
  unfold Override.takeWord?
  rw [word]
  split
  · exact .none
  · exact .some ⟨rfl, rest⟩

theorem skipSomeBlanks? (respaced : Respaced a b) :
    Option.Rel Respaced (skipSomeBlanks? a) (skipSomeBlanks? b) := by
  cases respaced with
  | nil => exact .none
  | @cons c a b rest =>
    simp only [Override.skipSomeBlanks?]
    split
    · exact .some rest.skipBlanks
    · exact .none
  | @blanks c d run other a b blank otherBlank rest =>
    have behind : Respaced (Override.skipBlanks (c :: run ++ a)) (Override.skipBlanks (d :: other ++ b)) :=
      (Respaced.blanks blank otherBlank rest).skipBlanks
    have first := blank c List.mem_cons_self
    have second := otherBlank d List.mem_cons_self
    simp only [Override.skipSomeBlanks?, List.cons_append, first, second, if_true]
    simp only [Override.skipBlanks, List.cons_append, List.dropWhile_cons, first, second, if_true] at behind
    exact .some behind

theorem assigns? (respaced : Respaced a b) : Option.Rel Respaced (assigns? a) (assigns? b) := by
  have sign : ∀ c, isBlank c = true → c ≠ '=' := by
    rintro c blank rfl
    cases blank
  cases respaced with
  | nil => exact .none
  | @cons c a b rest =>
    by_cases equals : c = '='
    · subst equals
      have visible : ∀ c, isBlank c = true → (c == '=' || c == '>') = false := by
        intro c blank
        have arrow : c ≠ '>' := by
          rintro rfl
          cases blank
        simp [sign c blank, arrow]
      have next := rest.head?_any visible
      rw [assigns?_sign, assigns?_sign, next]
      split
      · exact .none
      · exact .some rest
    · rw [assigns?_other equals, assigns?_other equals]
      exact .none
  | @blanks c d run other a b blank otherBlank rest =>
    rw [List.cons_append, List.cons_append, assigns?_other (sign c (blank c List.mem_cons_self)),
      assigns?_other (sign d (otherBlank d List.mem_cons_self))]
    exact .none

theorem stop? (respaced : Respaced a b) : Option.Rel Respaced (stop? a) (stop? b) := by
  have other : ∀ c rest, isBlank c = true → Override.stop? (c :: rest) = none := by
    intro c rest blank
    rw [Option.eq_none_iff_forall_ne_some]
    intro later found
    rcases stop?_eq_some_iff.mp found with sign | sign <;> cases sign <;> cases blank
  cases respaced with
  | nil => exact .none
  | @cons c a b rest =>
    by_cases semicolon : c = ';'
    · subst semicolon
      exact .some rest
    · by_cases comma : c = ','
      · subst comma
        exact .some rest
      · simp [Override.stop?, semicolon, comma]
  | @blanks c d run later a b blank otherBlank rest =>
    rw [List.cons_append, List.cons_append, other c _ (blank c List.mem_cons_self),
      other d _ (otherBlank d List.mem_cons_self)]
    exact .none

theorem respected : Respected Respaced Respaced where
  skipBlanks := skipBlanks
  skipSomeBlanks? := skipSomeBlanks?
  dropChain := dropChain
  takeWord? := takeWord?
  expect? {lexeme} _ _ known respaced := by
    have visible : ∀ lexeme ∈ ["const", "let", "var", "=", ".prototype."], lexeme.toList.any isBlank = false := by decide
    exact respaced.expect? lexeme (visible lexeme known)
  assigns? := assigns?
  stop? := stop?

theorem search (rule : Rule) {previous other : Option Char} (same : previous.any isWord = other.any isWord)
    (respaced : Respaced a b) : rule.search previous a = rule.search other b := by
  rw [rule.search_previous same]
  clear same previous
  -- The search goes through both texts in step: by a character that both have, by what the rule takes of each, or by a
  -- run of blanks of each. The length of the first text falls with every step, since a rule may take much at once.
  induction size : a.length using Nat.strong_induction_on generalizing a b other with
  | _ size ih =>
    subst size
    cases respaced with
    | nil => rfl
    | @cons c a b rest =>
      rcases respected.search_cons rule other (rest.cons c) with ⟨missed, otherMissed⟩ |
        ⟨override, x, y, found, otherFound, behind, shorter⟩
      · rw [missed, otherMissed]
        exact ih a.length (by simp) rest rfl
      · rw [found, otherFound]
        exact congrArg (override :: ·) (ih x.length (by simpa using Nat.lt_succ_of_le shorter) behind rfl)
    | @blanks c d run later a b blank otherBlank rest =>
      rw [rule.search_outside_append other (by simp) fun x member => not_isWord_of_isBlank (blank x member),
        rule.search_outside_append other (by simp) fun x member => not_isWord_of_isBlank (otherBlank x member)]
      exact ih a.length (by simp) rest rfl

theorem signatures {rules : List Rule} (respaced : Respaced a b) : signaturesIn rules a = signaturesIn rules b := by
  have overrides : ∀ rule : Rule, rule.overrides a = rule.overrides b := fun rule => respaced.search rule rfl
  simp only [signaturesIn, overrides]

end Respaced

end PluginAudit.Script
