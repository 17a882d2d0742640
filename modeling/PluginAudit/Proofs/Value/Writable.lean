import Mathlib
import PluginAudit.Value.Text

namespace PluginAudit

theorem Number.digitCount_le_iff (n : Int) : digitCount n ≤ digitLimit ↔ n.natAbs < 10 ^ digitLimit :=
  Nat.length_toDigits_le_iff (by decide) (by decide)

namespace Value

theorem isWritable_int_iff (n : Int) : (int n).isWritable = true ↔ n.natAbs < 10 ^ Number.digitLimit := by
  rw [isWritable, decide_eq_true_iff, Number.digitCount_le_iff]

theorem not_isWritable_power : (int (10 ^ Number.digitLimit)).isWritable = false := by
  have same : ∀ digits, ¬ Int.natAbs (10 ^ digits) < 10 ^ digits := fun digits => by simp [Int.natAbs_pow]
  rw [Bool.eq_false_iff, ne_eq, isWritable_int_iff]
  exact same _

theorem isWritable_bare (v : Value) : v.bare.isWritable = v.isWritable := by
  induction v using bare.induct with
  | case1 origin v ih => rw [bare, ih, isWritable]
  | case2 v plain => rw [bare]; exact plain

section

variable {v : Value}

theorem display_of_isWritable (writable : v.isWritable = true) : v.display = .ok v.displayText :=
  if_pos writable

theorem shown_of_isWritable (writable : v.isWritable = true) : v.shown = .ok v.shownText :=
  if_pos writable

theorem display_of_not_isWritable (long : v.isWritable = false) :
    v.display = .error (.unwritableInteger Number.digitLimit) :=
  if_neg (Bool.eq_false_iff.mp long)

theorem shown_of_not_isWritable (long : v.isWritable = false) :
    v.shown = .error (.unwritableInteger Number.digitLimit) :=
  if_neg (Bool.eq_false_iff.mp long)

end

theorem mapM_display_text (items : List String) : (items.map text).mapM display = .ok items := by
  induction items with
  | nil => rfl
  | cons item rest ih =>
    rw [List.map_cons, List.mapM_cons, ih]
    rfl

end Value

end PluginAudit
