import Mathlib
import PluginAudit.Proofs.Script.Search

namespace PluginAudit.Script

open Text Override

def Alike {α : Type} (related : List Char → List Char → Prop) :
    Option (α × List Char) → Option (α × List Char) → Prop :=
  Option.Rel fun x y => x.1 = y.1 ∧ related x.2 y.2

theorem Alike.cases {α : Type} {related : List Char → List Char → Prop} {x y : Option (α × List Char)}
    (alike : Alike related x y) :
    (x = none ∧ y = none) ∨ ∃ value a b, x = some (value, a) ∧ y = some (value, b) ∧ related a b := by
  cases alike with
  | none => exact .inl ⟨rfl, rfl⟩
  | @some x y same => exact .inr ⟨x.1, x.2, y.2, rfl, congrArg some (Prod.ext same.1.symm rfl), same.2⟩

theorem rel_bind {α β γ δ : Type} {related : α → β → Prop} {after : γ → δ → Prop} {x : Option α} {y : Option β}
    {f : α → Option γ} {g : β → Option δ} (first : Option.Rel related x y)
    (second : ∀ a b, related a b → Option.Rel after (f a) (g b)) : Option.Rel after (x >>= f) (y >>= g) := by
  cases first with
  | none => exact .none
  | some same => exact second _ _ same

/-- A relation between texts that no part of a rule can tell apart. What the last sign of a rule leaves is related by
`left`. -/
structure Respected (related left : List Char → List Char → Prop) : Prop where
  skipBlanks : ∀ {a b}, related a b → related (skipBlanks a) (skipBlanks b)
  skipSomeBlanks? : ∀ {a b}, related a b → Option.Rel related (skipSomeBlanks? a) (skipSomeBlanks? b)
  dropChain : ∀ {a b}, related a b → related (dropChain a) (dropChain b)
  takeWord? : ∀ {a b}, related a b → Alike related (takeWord? a) (takeWord? b)
  expect? : ∀ {lexeme a b}, lexeme ∈ ["const", "let", "var", "=", ".prototype."] → related a b →
    Option.Rel related (expect? lexeme a) (expect? lexeme b)
  assigns? : ∀ {a b}, related a b → Option.Rel left (assigns? a) (assigns? b)
  stop? : ∀ {a b}, related a b → Option.Rel left (stop? a) (stop? b)

namespace Respected

variable {related left : List Char → List Char → Prop} {a b : List Char}

theorem member? (respected : Respected related left) (both : related a b) : Alike related (member? a) (member? b) := by
  unfold Override.member?
  refine rel_bind (respected.takeWord? both) ?_
  rintro ⟨owner, a⟩ ⟨_, b⟩ ⟨rfl, both⟩
  refine rel_bind (respected.expect? (by decide) both) ?_
  intro a b both
  refine rel_bind (respected.takeWord? both) ?_
  rintro ⟨method, a⟩ ⟨_, b⟩ ⟨rfl, both⟩
  exact .some ⟨rfl, both⟩

theorem findSome? (respected : Respected related left) {lexemes : List String}
    (known : lexemes ⊆ ["const", "let", "var", "=", ".prototype."]) (both : related a b) :
    Option.Rel related (lexemes.findSome? (Override.expect? · a)) (lexemes.findSome? (Override.expect? · b)) := by
  induction lexemes with
  | nil => exact .none
  | cons lexeme lexemes ih =>
    obtain ⟨firstKnown, othersKnown⟩ := List.cons_subset.mp known
    have first := respected.expect? firstKnown both
    have others := ih othersKnown
    simp only [List.findSome?_cons]
    generalize Override.expect? lexeme a = x at first
    generalize Override.expect? lexeme b = y at first
    cases first with
    | none => exact others
    | some both => exact .some both

theorem find? (respected : Respected related left) (rule : Rule) (both : related a b) :
    Alike left (rule.find? a) (rule.find? b) := by
  cases rule with
  | direct =>
    refine rel_bind (respected.member? both) ?_
    rintro ⟨override, a⟩ ⟨_, b⟩ ⟨rfl, both⟩
    refine rel_bind (respected.assigns? (respected.skipBlanks (respected.dropChain both))) ?_
    intro a b both
    exact .some ⟨rfl, both⟩
  | aliased =>
    rw [Rule.find?, aliased?_eq, aliased?_eq]
    refine rel_bind (respected.findSome? (by decide) both) ?_
    intro a b both
    refine rel_bind (respected.skipSomeBlanks? both) ?_
    intro a b both
    refine rel_bind (respected.takeWord? both) ?_
    rintro ⟨name, a⟩ ⟨_, b⟩ ⟨rfl, both⟩
    refine rel_bind (respected.expect? (by decide) (respected.skipBlanks both)) ?_
    intro a b both
    refine rel_bind (respected.member? (respected.skipBlanks both)) ?_
    rintro ⟨override, a⟩ ⟨_, b⟩ ⟨rfl, both⟩
    refine rel_bind (respected.stop? (respected.skipBlanks both)) ?_
    intro a b both
    exact .some ⟨rfl, both⟩

/-- At a character that both texts have, the search goes on behind it in both, or finds the same in both. -/
theorem search_cons (respected : Respected related left) (rule : Rule) (previous : Option Char) {c : Char}
    (both : related (c :: a) (c :: b)) :
    (rule.search previous (c :: a) = rule.search (some c) a ∧ rule.search previous (c :: b) = rule.search (some c) b) ∨
      ∃ override x y, rule.search previous (c :: a) = override :: rule.search none x ∧
        rule.search previous (c :: b) = override :: rule.search none y ∧ left x y ∧ x.length ≤ a.length := by
  by_cases inside : previous.any isWord = true
  · exact .inl ⟨rule.search_missed (.inl inside), rule.search_missed (.inl inside)⟩
  · have outside : previous.any isWord = false := by simpa using inside
    rcases (respected.find? rule both).cases with ⟨missed, otherMissed⟩ | ⟨override, x, y, found, otherFound, behind⟩
    · exact .inl ⟨rule.search_missed (.inr missed), rule.search_missed (.inr otherMissed)⟩
    · obtain ⟨sign, -, suffix⟩ := Rule.find?_suffix found
      have shorter : x.length ≤ a.length := by simpa using suffix.length_le
      exact .inr ⟨override, x, y, Rule.search_found outside found, Rule.search_found outside otherFound, behind, shorter⟩

end Respected

end PluginAudit.Script
