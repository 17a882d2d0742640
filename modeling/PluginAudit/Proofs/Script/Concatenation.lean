import Mathlib
import PluginAudit.Proofs.Script.Parallel
import PluginAudit.Proofs.Script.Seam
import PluginAudit.Proofs.Text.Distinct

namespace PluginAudit.Script

open Text Override

/-- Two texts that agree up to a semicolon, with which the second ends and behind which the first goes on. -/
inductive Continued (more : List Char) : List Char → List Char → Prop where
  | stop : Continued more (';' :: more) [';']
  | cons (c : Char) {a b : List Char} (rest : Continued more a b) : Continued more (c :: a) (c :: b)

namespace Continued

variable {more a b : List Char}

def Left (more a b : List Char) : Prop :=
  Continued more a b ∨ (a = more ∧ b = [])

theorem append (front more : List Char) : Continued more (front ++ ';' :: more) (front ++ [';']) := by
  induction front with
  | nil => exact .stop
  | cons c front ih => exact .cons c ih

theorem head?_eq (continued : Continued more a b) : a.head? = b.head? := by
  cases continued <;> rfl

theorem skipBlanks (continued : Continued more a b) : Continued more (skipBlanks a) (skipBlanks b) := by
  unfold Override.skipBlanks
  induction continued with
  | stop => exact .stop
  | @cons c a b rest ih =>
    by_cases blank : isBlank c = true
    · simpa [blank] using ih
    · simpa [blank] using rest.cons c

theorem skipSomeBlanks? (continued : Continued more a b) :
    Option.Rel (Continued more) (skipSomeBlanks? a) (skipSomeBlanks? b) := by
  cases continued with
  | stop => exact .none
  | @cons c a b rest =>
    simp only [Override.skipSomeBlanks?]
    split
    · exact .some rest.skipBlanks
    · exact .none

theorem takeWhile_isWord (continued : Continued more a b) :
    a.takeWhile isWord = b.takeWhile isWord ∧ Continued more (a.dropWhile isWord) (b.dropWhile isWord) := by
  induction continued with
  | stop => exact ⟨rfl, .stop⟩
  | @cons c a b rest ih =>
    by_cases word : isWord c = true
    · simpa [word] using ih
    · simpa [word] using rest.cons c

theorem takeWord? (continued : Continued more a b) : Alike (Continued more) (takeWord? a) (takeWord? b) := by
  obtain ⟨word, rest⟩ := continued.takeWhile_isWord
  unfold Override.takeWord?
  rw [word]
  split
  · exact .none
  · exact .some ⟨rfl, rest⟩

theorem dropChain (continued : Continued more a b) : Continued more (dropChain a) (dropChain b) := by
  induction continued with
  | stop => exact .stop
  | @cons c a b rest ih =>
    simp only [Override.dropChain, rest.head?_eq]
    split
    · exact ih
    · exact rest.cons c

theorem isPrefixOf? {lexeme : List Char} (inside : ';' ∉ lexeme) (continued : Continued more a b) :
    Option.Rel (Continued more) (lexeme.isPrefixOf? a) (lexeme.isPrefixOf? b) := by
  induction lexeme generalizing a b with
  | nil => exact .some continued
  | cons sign lexeme ih =>
    rw [List.mem_cons, not_or] at inside
    cases continued with
    | stop =>
      have differs : (sign == ';') = false := by simpa using Ne.symm inside.1
      simp only [List.isPrefixOf?, differs]
      exact .none
    | @cons c a b rest =>
      simp only [List.isPrefixOf?]
      split
      · exact ih inside.2 rest
      · exact .none

theorem assigns? (continued : Continued more a b) : Option.Rel (Left more) (assigns? a) (assigns? b) := by
  cases continued with
  | stop => exact .none
  | @cons c a b rest =>
    by_cases sign : c = '='
    · subst sign
      rw [assigns?_sign, assigns?_sign, rest.head?_eq]
      split
      · exact .none
      · exact .some (.inl rest)
    · rw [assigns?_other sign, assigns?_other sign]
      exact .none

theorem stop? (continued : Continued more a b) : Option.Rel (Left more) (stop? a) (stop? b) := by
  cases continued with
  | stop => exact .some (.inr ⟨rfl, rfl⟩)
  | @cons c a b rest =>
    by_cases semicolon : c = ';'
    · subst semicolon
      exact .some (.inl rest)
    · by_cases comma : c = ','
      · subst comma
        exact .some (.inl rest)
      · simp [Override.stop?, semicolon, comma]

theorem respected (more : List Char) : Respected (Continued more) (Left more) where
  skipBlanks := skipBlanks
  skipSomeBlanks? := skipSomeBlanks?
  dropChain := dropChain
  takeWord? := takeWord?
  expect? {lexeme} _ _ known continued := by
    have inside : ∀ lexeme ∈ ["const", "let", "var", "=", ".prototype."], ';' ∉ lexeme.toList := by decide
    exact continued.isPrefixOf? (inside lexeme known)
  assigns? := assigns?
  stop? := stop?

theorem search (rule : Rule) (previous : Option Char) (continued : Continued more a b) :
    rule.search previous a = rule.search previous b ++ rule.search none more := by
  -- A rule may take much at once, so the induction is on what is left of the text that goes on.
  induction size : a.length using Nat.strong_induction_on generalizing a b previous with
  | _ size ih =>
    subst size
    cases continued with
    | stop =>
      rw [rule.search_outside previous rfl, rule.search_outside previous rfl]
      rfl
    | @cons c a b rest =>
      rcases (respected more).search_cons rule previous (rest.cons c) with ⟨missed, otherMissed⟩ |
        ⟨override, x, y, found, otherFound, behind, shorter⟩
      · rw [missed, otherMissed]
        exact ih a.length (by simp) (some c) rest rfl
      · rw [found, otherFound, List.cons_append]
        refine congrArg (override :: ·) ?_
        rcases behind with behind | ⟨rfl, rfl⟩
        · exact ih x.length (by simpa using Nat.lt_succ_of_le shorter) none behind rfl
        · rfl

end Continued

theorem overrides_append (rule : Rule) (front more : List Char) :
    rule.overrides (front ++ [';', '\n'] ++ more) = rule.overrides (front ++ [';', '\n']) ++ rule.overrides more := by
  have split : ∀ rest, rule.overrides (front ++ ';' :: '\n' :: rest) =
      rule.overrides (front ++ [';']) ++ rule.overrides rest := by
    intro rest
    have continued := (Continued.append front ('\n' :: rest)).search rule none
    rwa [rule.search_outside none rfl] at continued
  have nothing : rule.overrides [] = [] := rfl
  rw [List.append_assoc, List.cons_append, List.cons_append, List.nil_append, split, split, nothing, List.append_nil]

/-- Behind a script that is closed and ends a statement and a line, any other script adds just what it overrides alone. -/
theorem signatures_append {source front : String} (closed : Closed source.toList) (ends : blank source = front ++ ";\n")
    (more : String) :
    (∀ signature, signature ∈ signatures (source ++ more) ↔
      signature ∈ signatures source ∨ signature ∈ signatures more) ∧
      ∀ rule : Rule, signaturesIn [rule] (blank (source ++ more)).toList =
        (signaturesIn [rule] (blank source).toList ++ signaturesIn [rule] (blank more).toList).eraseDups := by
  have ended : blankChars source.toList = front.toList ++ [';', '\n'] := by
    have chars := congrArg String.toList ends
    simpa [blank] using chars
  have last : (blankChars source.toList).getLast? ≠ some '/' := by simp [ended]
  have found : ∀ rule : Rule, rule.overrides (blankChars (source ++ more).toList) =
      rule.overrides (blankChars source.toList) ++ rule.overrides (blankChars more.toList) := by
    intro rule
    rw [String.toList_append, blankChars_append closed last, ended, overrides_append]
  constructor
  · intro signature
    simp only [signatures, signaturesIn, mem_distinct, List.mem_flatMap, found, List.map_append, List.mem_append]
    constructor
    · rintro ⟨rule, known, here | there⟩
      · exact .inl ⟨rule, known, here⟩
      · exact .inr ⟨rule, known, there⟩
    · rintro (⟨rule, known, here⟩ | ⟨rule, known, there⟩)
      · exact ⟨rule, known, .inl here⟩
      · exact ⟨rule, known, .inr there⟩
  · intro rule
    simp only [blank, String.toList_ofList, signaturesIn, List.flatMap_singleton, found, List.map_append]
    rw [← distinct_eq_eraseDups, distinct_append_distinct]

def statementScript : String :=
  "const a=A.prototype.b;// ;\nB.prototype.c='//';\n"

def brokenScript : String :=
  ".d=\x60C.prototype.e="

theorem signatures_append_broken :
    Closed statementScript.toList ∧ blank statementScript = "const a=A.prototype.b;    \nB.prototype.c=    " ++ ";\n" ∧
      (∀ signature, signature ∈ signatures (statementScript ++ brokenScript) ↔
        signature ∈ signatures statementScript ∨ signature ∈ signatures brokenScript) ∧
      signaturesIn [.direct] (blank (statementScript ++ brokenScript)).toList = ["B.prototype.c", "C.prototype.e"] := by
  have closed : Closed statementScript.toList := by decide
  have ends : blank statementScript = "const a=A.prototype.b;    \nB.prototype.c=    " ++ ";\n" := by decide
  obtain ⟨union, each⟩ := signatures_append closed ends brokenScript
  refine ⟨closed, ends, union, ?_⟩
  rw [each .direct]
  decide +kernel

end PluginAudit.Script
