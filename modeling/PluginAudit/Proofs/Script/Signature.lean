import Mathlib
import PluginAudit.Proofs.Script.Codec
import PluginAudit.Proofs.Script.Search

namespace PluginAudit

namespace Text.Finder

variable {α : Type} {find : Finder α}

theorem exists_of_mem_allFrom {found : α} {previous : Option Char} {skip : Nat} {text : List Char}
    (member : found ∈ allFrom find previous skip text) :
    ∃ before here taken, here <:+ text ∧ find before here = some (found, taken) := by
  have further {c : Char} {rest : List Char}
      (later : ∃ before here taken, here <:+ rest ∧ find before here = some (found, taken)) :
      ∃ before here taken, here <:+ c :: rest ∧ find before here = some (found, taken) := by
    obtain ⟨before, here, taken, suffix, finds⟩ := later
    exact ⟨before, here, taken, suffix.trans (List.suffix_cons c rest), finds⟩
  fun_induction allFrom find previous skip text with
  | case1 => cases member
  | case2 _ _ _ _ ih => exact further (ih member)
  | case3 previous c rest first taken here ih =>
    rcases List.mem_cons.mp member with rfl | later
    · exact ⟨previous, c :: rest, taken, List.suffix_rfl, here⟩
    · exact further (ih later)
  | case4 _ _ _ _ ih => exact further (ih member)

end Text.Finder

namespace Script

open Text

namespace Override

/-- A text of word characters. -/
def IsWordText (text : List Char) : Prop :=
  text ≠ [] ∧ ∀ c ∈ text, isWord c = true

theorem IsWordText.not_dot {text : List Char} (word : IsWordText text) : '.' ∉ text := by
  intro member
  have dot := word.2 '.' member
  revert dot
  decide

theorem words_of_member? {text rest : List Char} {override : Override} (found : member? text = some (override, rest)) :
    IsWordText override.owner ∧ IsWordText override.method := by
  obtain ⟨_, _, owner, _, method⟩ := member?_eq_some_iff.mp found
  obtain ⟨_, ownerNonempty, ownerWord, _⟩ := takeWord?_eq_some_iff.mp owner
  obtain ⟨_, methodNonempty, methodWord, _⟩ := takeWord?_eq_some_iff.mp method
  exact ⟨⟨ownerNonempty, ownerWord⟩, methodNonempty, methodWord⟩

end Override

open Override

theorem Rule.words_of_find? {rule : Rule} {text rest : List Char} {override : Override}
    (found : rule.find? text = some (override, rest)) : IsWordText override.owner ∧ IsWordText override.method := by
  cases rule with
  | direct =>
    obtain ⟨_, member, _⟩ := direct?_eq_some_iff.mp found
    exact words_of_member? member
  | aliased =>
    obtain ⟨_, _, _, _, _, _, _, _, _, _, _, _, member, _⟩ := aliased?_eq_some_iff.mp found
    exact words_of_member? member

theorem Rule.exists_of_mem_overrides {rule : Rule} {blanked : List Char} {override : Override}
    (member : override ∈ rule.overrides blanked) :
    ∃ here rest, here <:+ blanked ∧ rule.find? here = some (override, rest) := by
  obtain ⟨before, here, taken, suffix, found⟩ := Finder.exists_of_mem_allFrom member
  unfold atWord at found
  split at found
  · cases found
  · obtain ⟨⟨_, rest⟩, hit, same⟩ := Option.map_eq_some_iff.mp found
    cases same
    exact ⟨here, rest, suffix, hit⟩

theorem Rule.words_of_mem {rule : Rule} {blanked : List Char} {override : Override}
    (member : override ∈ rule.overrides blanked) : IsWordText override.owner ∧ IsWordText override.method := by
  obtain ⟨_, _, _, found⟩ := exists_of_mem_overrides member
  exact words_of_find? found

theorem exists_of_mem_signatures {source signature : String} (member : signature ∈ signatures source) :
    ∃ owner method, IsWordText owner.toList ∧ IsWordText method.toList ∧ signature = Signature.make owner method := by
  obtain ⟨rule, _, found⟩ := List.mem_flatMap.mp (mem_distinct.mp member)
  obtain ⟨override, here, rfl⟩ := List.mem_map.mp found
  obtain ⟨owner, method⟩ := Rule.words_of_mem here
  exact ⟨_, _, by rwa [String.toList_ofList], by rwa [String.toList_ofList], rfl⟩

end Script

end PluginAudit
