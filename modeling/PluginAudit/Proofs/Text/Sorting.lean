import Mathlib

namespace PluginAudit

variable {α : Type} {le : α → α → Bool} {rank : α → Int} {name : α → String}

def SortsBy (le : α → α → Bool) (rank : α → Int) (name : α → String) : Prop :=
  ∀ a b, le a b = true ↔ rank a < rank b ∨ (rank a = rank b ∧ name a ≤ name b)

namespace SortsBy

theorem trans (sorts : SortsBy le rank name) (a b c : α) (first : le a b = true) (second : le b c = true) :
    le a c = true := by
  rw [sorts] at *
  rcases first with first | ⟨first, low⟩ <;> rcases second with second | ⟨second, high⟩
  · left; omega
  · left; omega
  · left; omega
  · right; exact ⟨by omega, String.le_trans low high⟩

theorem total (sorts : SortsBy le rank name) (a b : α) : (le a b || le b a) = true := by
  rw [Bool.or_eq_true, sorts, sorts]
  have names := String.le_total (name a) (name b)
  rcases Int.lt_trichotomy (rank a) (rank b) with less | same | greater
  · exact .inl (.inl less)
  · rcases names with low | high
    · exact .inl (.inr ⟨same, low⟩)
    · exact .inr (.inr ⟨same.symm, high⟩)
  · exact .inr (.inl greater)

theorem pairwise (sorts : SortsBy le rank name) {items : List α} (nodup : (items.map name).Nodup) :
    (items.mergeSort le).Pairwise fun a b => rank a < rank b ∨ (rank a = rank b ∧ name a < name b) := by
  have sorted : (items.mergeSort le).Pairwise fun a b => le a b = true :=
    List.pairwise_mergeSort sorts.trans sorts.total items
  have different : (items.mergeSort le).Pairwise fun a b => name a ≠ name b :=
    List.pairwise_map.mp (((List.mergeSort_perm items le).map name).nodup_iff.mpr nodup)
  refine sorted.imp₂ ?_ different
  intro a b ordered different
  rcases (sorts a b).mp ordered with less | ⟨same, low⟩
  · exact .inl less
  · exact .inr ⟨same, String.not_le.mp fun high => different (String.le_antisymm low high)⟩

end SortsBy

end PluginAudit
