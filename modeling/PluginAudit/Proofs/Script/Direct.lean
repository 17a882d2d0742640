import Mathlib
import PluginAudit.Proofs.Script.Chain
import PluginAudit.Proofs.Text.Distinct

namespace PluginAudit

namespace Script

open Text Override

/-- Whether a text assigns to what stands before it: after blanks, by a sign that starts no comparison and no arrow. -/
def Assigning (text : List Char) : Prop :=
  ∃ blanks rest, text = blanks ++ '=' :: rest ∧ (∀ c ∈ blanks, isBlank c = true) ∧
    rest.head? ≠ some '=' ∧ rest.head? ≠ some '>'

theorem assigns?_skipBlanks_eq_some_iff {text rest : List Char} :
    assigns? (skipBlanks text) = some rest ↔
      ∃ blanks, text = blanks ++ '=' :: rest ∧ (∀ c ∈ blanks, isBlank c = true) ∧
        rest.head? ≠ some '=' ∧ rest.head? ≠ some '>' := by
  rw [assigns?_eq_some_iff, skipBlanks]
  constructor
  · rintro ⟨behind, next⟩
    refine ⟨text.takeWhile isBlank, ?_, fun c member => List.mem_takeWhile_imp member, next⟩
    rw [← behind, List.takeWhile_append_dropWhile]
  · rintro ⟨blanks, rfl, blank, next⟩
    refine ⟨?_, next⟩
    rw [List.dropWhile_append_of_pos blank]
    rfl

theorem assigning_iff (text : List Char) : Assigning text ↔ (assigns? (skipBlanks text)).isSome = true := by
  rw [Option.isSome_iff_exists]
  constructor
  · rintro ⟨blanks, rest, found⟩
    exact ⟨rest, assigns?_skipBlanks_eq_some_iff.mpr ⟨blanks, found⟩⟩
  · rintro ⟨rest, found⟩
    obtain ⟨blanks, found⟩ := assigns?_skipBlanks_eq_some_iff.mp found
    exact ⟨blanks, rest, found⟩

instance (text : List Char) : Decidable (Assigning text) :=
  decidable_of_iff' _ (assigning_iff text)

namespace Chain

def prototype : List Char :=
  "prototype".toList

/-- The place of the first `prototype` among the words that are neither the first nor the last one. -/
def marker? (words : List (List Char)) : Option Nat :=
  (List.range' 1 (words.length - 2)).find? (words[·]? = some prototype)

def around? (words : List (List Char)) (place : Nat) : Option Override := do
  let owner ← words[place - 1]?
  let method ← words[place + 1]?
  return ⟨owner, method⟩

/-- The override that a chain makes, if it is assigned to. -/
def override? (chain : Chain) : Option Override :=
  if Assigning chain.behind then (marker? chain.words).bind (around? chain.words) else none

example : (all "x.A.prototype.prototype.b = y.prototype.z == C.prototype.d=1".toList).filterMap override? =
    [⟨"A".toList, "prototype".toList⟩, ⟨"C".toList, "d".toList⟩] := by decide

variable {first : List Char} {further : List (List Char)} {behind : List Char}

theorem takeWord?_chain (nonempty : first ≠ []) (ended : Ended first further behind) :
    takeWord? (first ++ linked further behind) = some (first, linked further behind) :=
  takeWord?_eq_some_iff.mpr ⟨rfl, nonempty, ended.first, ended.startsWord_linked⟩

theorem dropChain_word {word : List Char} (all : ∀ c ∈ word, isWord c = true) (rest : List Char) :
    dropChain (word ++ rest) = dropChain rest := by
  induction word with
  | nil => rfl
  | cons c word ih =>
    obtain ⟨head, tail⟩ := List.forall_mem_cons.mp all
    rw [List.cons_append, dropChain, if_pos (by simp [head]), ih tail]

theorem dropChain_linked (ended : Ended first further behind) : dropChain (linked further behind) = behind := by
  induction further generalizing first with
  | nil =>
    rw [linked]
    cases behind with
    | nil => rfl
    | cons c rest =>
      have outside : isWord c = false := ended.stop
      have single : (c == '.' && rest.head?.any isWord) = false := ended.dot
      rw [dropChain, outside, single]
      rfl
  | cons word words ih =>
    have next : (word ++ linked words behind).head?.any isWord = true := ended.startsWord_next
    rw [linked, dropChain, if_pos (by rw [next]; rfl), dropChain_word ended.tail.first, ih ended.tail]

theorem takeWord?_isSome {text : List Char} {word rest : List Char} (found : takeWord? text = some (word, rest)) :
    startsWord text = true := by
  obtain ⟨rfl, nonempty, all, -⟩ := takeWord?_eq_some_iff.mp found
  obtain ⟨c, word, rfl⟩ := List.exists_cons_of_ne_nil nonempty
  exact all c List.mem_cons_self

theorem expect?_linked (ended : Ended first further behind) {rest : List Char} (word : startsWord rest = true) :
    expect? ".prototype." (linked further behind) = some rest ↔
      ∃ method words, further = prototype :: method :: words ∧ rest = method ++ linked words behind := by
  rw [expect?_eq_some_iff]
  have marker : ".prototype.".toList ++ rest = '.' :: (prototype ++ '.' :: rest) := rfl
  rw [marker]
  constructor
  · intro same
    cases further with
    | nil =>
      rw [linked] at same
      have dotted : startsDotted behind = true := by
        rw [same]
        rfl
      rw [ended.dot] at dotted
      cases dotted
    | cons second words =>
      rw [linked, List.cons.injEq] at same
      have stop : startsWord ('.' :: rest) = false := rfl
      have whole : ∀ c ∈ prototype, isWord c = true := List.all_eq_true.mp rfl
      obtain ⟨taken, left⟩ := span_word ended.tail.first ended.tail.startsWord_linked
      obtain ⟨otherTaken, otherLeft⟩ := span_word whole stop
      rw [same.2] at taken left
      have name : second = prototype := taken.symm.trans otherTaken
      have link : linked words behind = '.' :: rest := left.symm.trans otherLeft
      subst name
      cases words with
      | nil =>
        rw [linked] at link
        have dotted : startsDotted behind = true := by
          rw [link]
          simpa [startsDotted] using word
        rw [ended.dot] at dotted
        cases dotted
      | cons method words =>
        rw [linked, List.cons.injEq] at link
        exact ⟨method, words, rfl, link.2.symm⟩
  · rintro ⟨method, words, rfl, rfl⟩
    rfl

theorem member?_chain (nonempty : first ≠ []) (ended : Ended first further behind) {override : Override}
    {rest : List Char} :
    member? (first ++ linked further behind) = some (override, rest) ↔
      ∃ method words, further = prototype :: method :: words ∧ override = ⟨first, method⟩ ∧
        rest = linked words behind := by
  rw [member?_eq_some_iff, takeWord?_chain nonempty ended]
  constructor
  · rintro ⟨behindOwner, behindMarker, owner, marker, name⟩
    cases owner
    obtain ⟨method, words, rfl, rfl⟩ := (expect?_linked ended (takeWord?_isSome name)).mp marker
    rw [takeWord?_chain ended.tail.nonempty ended.tail.tail] at name
    cases name
    exact ⟨_, words, rfl, rfl, rfl⟩
  · rintro ⟨method, words, rfl, rfl, rfl⟩
    exact ⟨_, _, rfl, (expect?_linked ended ended.tail.startsWord_next).mpr ⟨method, words, rfl, rfl⟩,
      takeWord?_chain ended.tail.nonempty ended.tail.tail⟩

theorem find?_chain (nonempty : first ≠ []) (ended : Ended first further behind) {override : Override}
    {rest : List Char} :
    Rule.direct.find? (first ++ linked further behind) = some (override, rest) ↔
      ∃ method words, further = prototype :: method :: words ∧ override = ⟨first, method⟩ ∧
        assigns? (skipBlanks behind) = some rest := by
  rw [Rule.find?, direct?_eq_some_iff]
  constructor
  · rintro ⟨text, member, assigned⟩
    obtain ⟨method, words, rfl, rfl, rfl⟩ := (member?_chain nonempty ended).mp member
    rw [dropChain_linked ended.tail.tail] at assigned
    exact ⟨method, words, rfl, rfl, assigned⟩
  · rintro ⟨method, words, rfl, rfl, assigned⟩
    refine ⟨linked words behind, (member?_chain nonempty ended).mpr ⟨method, words, rfl, rfl, rfl⟩, ?_⟩
    rwa [dropChain_linked ended.tail.tail]

def firstMember? : List (List Char) → Option Override
  | owner :: marker :: method :: words =>
    if marker = prototype then some ⟨owner, method⟩ else firstMember? (marker :: method :: words)
  | _ => none

theorem search_stop (rule : Rule) {text : List Char} (stop : startsWord text = false) (previous : Option Char) :
    rule.search previous text = rule.search none text := by
  cases text with
  | nil => rfl
  | cons c rest => rw [rule.search_outside previous stop, rule.search_outside none stop]

theorem search_word (rule : Rule) {previous : Option Char} {word rest : List Char} (nonempty : word ≠ [])
    (all : ∀ c ∈ word, isWord c = true) (missed : rule.find? (word ++ rest) = none) (stop : startsWord rest = false) :
    rule.search previous (word ++ rest) = rule.search none rest := by
  obtain ⟨c, word, rfl⟩ := List.exists_cons_of_ne_nil nonempty
  obtain ⟨head, tail⟩ := List.forall_mem_cons.mp all
  have inside : (some c).any isWord = true := head
  rw [List.cons_append] at missed ⊢
  rw [rule.search_missed (.inr missed), rule.search_inside inside tail, search_stop rule stop]

/-- Along a chain the direct rule finds the first member, if the chain is assigned to. -/
theorem search_chain (nonempty : first ≠ []) (ended : Ended first further behind) :
    Rule.direct.search none (first ++ linked further behind) =
      (if Assigning behind then firstMember? (first :: further) else none).toList ++
        Rule.direct.search none behind := by
  induction further generalizing first with
  | nil =>
    have missed : Rule.direct.find? (first ++ linked [] behind) = none := by
      rw [Option.eq_none_iff_forall_ne_some]
      rintro ⟨override, rest⟩ found
      obtain ⟨method, words, none, -⟩ := (find?_chain nonempty ended).mp found
      cases none
    rw [search_word _ nonempty ended.first missed ended.startsWord_linked]
    simp [firstMember?, linked]
  | cons marker words ih =>
    have next : Rule.direct.search none (linked (marker :: words) behind) =
        Rule.direct.search none (marker ++ linked words behind) :=
      Rule.direct.search_outside none (by decide) _
    cases found : Rule.direct.find? (first ++ linked (marker :: words) behind) with
    | none =>
      -- No member starts the chain, so the first one is that of the words behind the first word.
      have same : Assigning behind → firstMember? (first :: marker :: words) = firstMember? (marker :: words) := by
        intro assigning
        obtain ⟨rest, assigned⟩ := Option.isSome_iff_exists.mp ((assigning_iff behind).mp assigning)
        cases words with
        | nil => rfl
        | cons method words =>
          rw [firstMember?, if_neg]
          rintro rfl
          have hit := (find?_chain nonempty ended).mpr ⟨method, words, rfl, rfl, assigned⟩
          rw [found] at hit
          cases hit
      rw [search_word _ nonempty ended.first found ended.startsWord_linked, next, ih ended.nonempty ended.tail]
      split
      · rename_i assigning
        rw [same assigning]
      · rfl
    | some hit =>
      obtain ⟨override, rest⟩ := hit
      obtain ⟨method, words, same, rfl, assigned⟩ := (find?_chain nonempty ended).mp found
      cases same
      have assigning : Assigning behind := (assigning_iff behind).mpr (by rw [assigned]; rfl)
      -- What the rule takes behind the chain has no words, so the search may as well start right behind the chain.
      have skipped : Rule.direct.search none behind = Rule.direct.search none rest := by
        obtain ⟨blanks, rfl, blank, -⟩ := assigns?_skipBlanks_eq_some_iff.mp assigned
        have outside : ∀ c ∈ blanks ++ ['='], isWord c = false := by
          intro c member
          rcases List.mem_append.mp member with member | member
          · exact not_isWord_of_isBlank (blank c member)
          · rw [List.mem_singleton.mp member]
            rfl
        rw [List.append_cons, Rule.direct.search_outside_append none (by simp) outside]
      rw [Rule.search_found rfl found, if_pos assigning, firstMember?, if_pos rfl, skipped]
      rfl

theorem marker?_cons {marker : List Char} (other : marker ≠ prototype) (first method : List Char)
    (words : List (List Char)) :
    marker? (first :: marker :: method :: words) = (marker? (marker :: method :: words)).map (· + 1) := by
  have places : List.range' 1 (words.length + 1) = 1 :: (List.range' 1 words.length).map (1 + ·) := by
    rw [List.range'_succ, List.map_add_range']
  simp [marker?, places, other, List.find?_map, Nat.add_comm 1]

theorem firstMember?_eq (words : List (List Char)) : firstMember? words = (marker? words).bind (around? words) := by
  fun_induction firstMember? words with
  | case1 owner method words => simp [marker?, around?, List.range'_succ]
  | case2 owner marker method words other ih =>
    rw [ih, marker?_cons other]
    cases found : marker? (marker :: method :: words) with
    | none => rfl
    | some place =>
      have positive : 1 ≤ place := (List.mem_range'_1.mp (List.mem_of_find?_eq_some found)).1
      obtain ⟨place, rfl⟩ := Nat.exists_eq_add_of_le' positive
      simp [around?]
  | case3 words short =>
    match words with
    | [] => rfl
    | [_] => rfl
    | [_, _] => rfl
    | owner :: marker :: method :: words => exact absurd rfl (short owner marker method words)

/-- The search of the direct rule goes from chain to chain, where it starts between two chains. -/
theorem search_eq_filterMap {before text : List Char} (apart : joined before text = false) :
    Rule.direct.search none text = (allFrom before text).filterMap override? := by
  induction size : text.length using Nat.strong_induction_on generalizing before text with
  | _ size ih =>
    subst size
    cases text with
    | nil => rfl
    | cons c rest =>
      by_cases word : isWord c = true
      · obtain ⟨first, further, behind, same, ended, start⟩ := exists_ended (c :: rest)
        have nonempty := start word
        have shorter : behind.length < (c :: rest).length := by
          have positive := List.length_pos_iff.mpr nonempty
          have suffix := (linked_suffix further behind).length_le
          rw [same, List.length_append]
          omega
        rw [same] at apart ⊢
        have made : override? ⟨before, first, further, behind⟩ =
            if Assigning behind then firstMember? (first :: further) else none := by
          rw [firstMember?_eq]
          rfl
        rw [search_chain nonempty ended, ← made, allFrom_chain nonempty ended apart, List.filterMap_cons,
          ih behind.length shorter (joined_behind before nonempty ended) rfl]
        cases override? ⟨before, first, further, behind⟩ <;> rfl
      · have outside : isWord c = false := by simpa using word
        rw [Rule.direct.search_outside none outside, allFrom_outside outside]
        exact ih rest.length (by simp) (joined_concat outside apart) rfl

end Chain

/-- The direct rule goes through the chains of a text in the order of their places, and finds what each of them
overrides. The signatures of a text under this rule are those of its chains, without later duplicates. -/
theorem overrides_direct (text : List Char) :
    (∀ chain, chain ∈ Chain.all text ↔ chain.StandsIn text) ∧
      (Chain.all text).Pairwise (fun a b => a.before.length < b.before.length) ∧
      Rule.direct.overrides text = (Chain.all text).filterMap Chain.override? ∧
      signaturesIn [.direct] text =
        (((Chain.all text).filterMap Chain.override?).map Override.signature).eraseDups := by
  have found : Rule.direct.overrides text = (Chain.all text).filterMap Chain.override? := Chain.search_eq_filterMap rfl
  refine ⟨fun chain => ?_, Chain.pairwise_allFrom [] text, found, ?_⟩
  · rw [Chain.all, Chain.mem_allFrom_iff]
    exact and_iff_right List.nil_prefix
  · rw [signaturesIn, distinct_eq_eraseDups, List.flatMap_singleton, found]

end Script

end PluginAudit
