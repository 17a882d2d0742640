import Mathlib
import PluginAudit.Script.Signature

namespace PluginAudit.Script.Signature

theorem marker_eq : marker = ".prototype".toList ++ ['.'] := rfl

theorem toList_make (owner method : String) :
    (make owner method).toList = owner.toList ++ (marker ++ method.toList) := by
  simp [make]

theorem cut?_marker (method : List Char) : cut? (marker ++ method) = some ([], method) := by
  obtain ⟨later, starts⟩ : ∃ later, marker = '.' :: later := ⟨_, rfl⟩
  have here : marker.isPrefixOf? (marker ++ method) = some method := List.isPrefixOf?_eq_some_iff_append_eq.mpr rfl
  rw [starts, List.cons_append] at here ⊢
  rw [cut?, starts, here]

theorem cut?_cons {c : Char} {rest : List Char} (elsewhere : ¬ marker <+: c :: rest) :
    cut? (c :: rest) = (cut? rest).map fun parts => (c :: parts.1, parts.2) := by
  rw [← List.isPrefixOf_iff_prefix, ← List.isSome_isPrefixOf?_eq_isPrefixOf, Option.not_isSome_iff_eq_none] at elsewhere
  rw [cut?, elsewhere]

theorem cut?_eq_none_iff {text : List Char} : cut? text = none ↔ ¬ marker <:+: text := by
  induction text with
  | nil =>
    refine iff_of_true rfl fun inside => ?_
    rw [marker_eq, List.infix_nil] at inside
    exact List.append_ne_nil_of_right_ne_nil _ (List.cons_ne_nil '.' []) inside
  | cons c rest ih =>
    by_cases starts : marker <+: c :: rest
    · have found : cut? (c :: rest) ≠ none := by
        obtain ⟨method, whole⟩ := starts
        rw [← whole, cut?_marker]
        exact Option.some_ne_none _
      exact iff_of_false found (not_not_intro starts.isInfix)
    · rw [cut?_cons starts, Option.map_eq_none_iff, ih, List.infix_cons_iff, or_iff_right starts]

theorem append_of_cut? {text owner method : List Char} (found : cut? text = some (owner, method)) :
    owner ++ (marker ++ method) = text := by
  fun_induction cut? text generalizing owner with
  | case1 => cases found
  | case2 c rest behind here =>
    cases found
    rw [List.nil_append]
    exact List.append_eq_of_isPrefixOf?_eq_some here
  | case3 c rest elsewhere ih =>
    obtain ⟨⟨before, behind⟩, later, same⟩ := Option.map_eq_some_iff.mp found
    cases same
    rw [List.cons_append, ih later]

/-- A marker that starts in the class ends before the marker behind the class does. -/
theorem marker_starts_iff {owner : List Char} (nonempty : owner ≠ []) (method : List Char) :
    marker <+: owner ++ (marker ++ method) ↔ marker <+: owner ++ ".prototype".toList := by
  have begins : owner ++ ".prototype".toList <+: owner ++ (marker ++ method) := by
    rw [marker_eq, List.append_assoc, ← List.append_assoc]
    exact List.prefix_append _ _
  constructor
  · intro starts
    apply List.prefix_of_prefix_length_le starts begins
    have := List.length_pos_iff.mpr nonempty
    rw [marker_eq, List.length_append, List.length_append, List.length_singleton]
    omega
  · intro starts
    exact starts.trans begins

/-- The first marker of a signature is the one behind the class, unless one starts in the class. -/
theorem cut?_append_eq_some_iff (owner method : List Char) :
    cut? (owner ++ (marker ++ method)) = some (owner, method) ↔ ¬ marker <:+: owner ++ ".prototype".toList := by
  induction owner with
  | nil =>
    refine iff_of_true (cut?_marker method) fun inside => ?_
    have short := inside.length_le
    rw [marker_eq, List.length_append, List.length_singleton, List.nil_append] at short
    omega
  | cons c rest ih =>
    -- Both sides look for a marker at `c` first, and there they see the same.
    have seam := marker_starts_iff (List.cons_ne_nil c rest) method
    rw [List.cons_append, List.cons_append] at seam ⊢
    rw [List.infix_cons_iff, ← seam, not_or, ← ih]
    by_cases starts : marker <+: c :: (rest ++ (marker ++ method))
    · obtain ⟨behind, whole⟩ := starts
      rw [← whole, cut?_marker]
      simp
    · rw [cut?_cons starts]
      simp [starts]

theorem cut?_eq_some_iff {text owner method : List Char} :
    cut? text = some (owner, method) ↔
      owner ++ (marker ++ method) = text ∧ ¬ marker <:+: owner ++ ".prototype".toList := by
  constructor
  · intro found
    have whole := append_of_cut? found
    rw [← whole] at found
    exact ⟨whole, (cut?_append_eq_some_iff owner method).mp found⟩
  · rintro ⟨rfl, free⟩
    exact (cut?_append_eq_some_iff owner method).mpr free

/-- The marker stands somewhere in a text. -/
def HasMarker (text : String) : Prop :=
  marker <:+: text.toList

instance : DecidablePred HasMarker :=
  fun text => inferInstanceAs (Decidable (marker <:+: text.toList))

theorem hasMarker_make (owner method : String) : HasMarker (make owner method) := by
  refine ⟨owner.toList, method.toList, ?_⟩
  rw [toList_make, List.append_assoc]

theorem HasMarker.append {text : String} (marked : HasMarker text) (rest : String) : HasMarker (text ++ rest) := by
  unfold HasMarker
  rw [String.toList_append]
  exact List.IsInfix.trans marked (List.prefix_append _ _).isInfix

/-- A text with a marker is split in the one way that makes it again with no marker starting in the class. -/
theorem split_eq_iff_of_hasMarker {signature owner method : String} (marked : HasMarker signature) :
    split signature = (owner, method) ↔ make owner method = signature ∧ ¬ HasMarker (owner ++ ".prototype") := by
  have parts : split signature = (owner, method) ↔ cut? signature.toList = some (owner.toList, method.toList) := by
    obtain ⟨⟨before, behind⟩, found⟩ := Option.ne_none_iff_exists'.mp (cut?_eq_none_iff.not.mpr (not_not_intro marked))
    rw [split, found]
    simp [← String.toList_inj]
  rw [parts, cut?_eq_some_iff, ← toList_make, String.toList_inj, HasMarker, String.toList_append]

example : split (make "A.prototype" "b") = ("A", "prototype.b") := by decide +kernel

theorem split_make {owner : String} (plain : '.' ∉ owner.toList) (method : String) :
    split (make owner method) = (owner, method) := by
  refine (split_eq_iff_of_hasMarker (hasMarker_make owner method)).mpr ⟨rfl, fun marked => ?_⟩
  -- The marker has two dots, and behind a class without dots there is only one.
  have dots := List.Sublist.count_le '.' (List.IsInfix.sublist marked)
  rw [String.toList_append, List.count_append, List.count_eq_zero_of_not_mem plain] at dots
  revert dots
  decide

theorem owner_of_make {owner method other rest : String} (plain : '.' ∉ owner.toList)
    (plainMethod : '.' ∉ method.toList) (same : make other rest = make owner method) : other = owner := by
  have dots := congrArg (List.count '.' ∘ String.toList) same
  simp only [Function.comp_apply, toList_make, List.count_append, List.count_eq_zero_of_not_mem plain,
    List.count_eq_zero_of_not_mem plainMethod] at dots
  have plainOther : '.' ∉ other.toList := List.count_eq_zero.mp (by omega)
  have parts := split_make plainOther rest
  rw [same, split_make plain] at parts
  exact (congrArg Prod.fst parts).symm

theorem make_split {signature : String} (marked : HasMarker signature) :
    make (split signature).1 (split signature).2 = signature ∧ ¬ HasMarker ((split signature).1 ++ ".prototype") :=
  (split_eq_iff_of_hasMarker marked).mp Prod.mk.eta.symm

/-- Splitting inverts making for the classes that have no marker with `.prototype` behind them, and for no others.
Making inverts splitting for every text with a marker, and a class that is split off has none, so such texts are told
apart by their parts. -/
theorem split_inverts_make :
    (∀ owner method, split (make owner method) = (owner, method) ↔ ¬ HasMarker (owner ++ ".prototype")) ∧
      (∀ signature, HasMarker signature →
        make (split signature).1 (split signature).2 = signature ∧ ¬ HasMarker (split signature).1) ∧
      ∀ first second, HasMarker first → HasMarker second → first ≠ second → split first ≠ split second := by
  refine ⟨?_, ?_, ?_⟩
  · intro owner method
    rw [split_eq_iff_of_hasMarker (hasMarker_make owner method)]
    exact and_iff_right rfl
  · intro signature marked
    obtain ⟨whole, free⟩ := make_split marked
    exact ⟨whole, fun inside => free (inside.append ".prototype")⟩
  · intro first second markedFirst markedSecond different same
    have whole := (make_split markedFirst).1
    rw [same, (make_split markedSecond).1] at whole
    exact different whole.symm

/-- A class without marker that does not come back, and two signatures of one class, the second with two markers. -/
theorem split_inverts_make_overlapping :
    (¬ HasMarker "A.prototype" ∧ split (make "A.prototype" "b") ≠ ("A.prototype", "b")) ∧
      (HasMarker "A.prototype.b.prototype.c" ∧
        make (split "A.prototype.b.prototype.c").1 (split "A.prototype.b.prototype.c").2 = "A.prototype.b.prototype.c" ∧
        ¬ HasMarker (split "A.prototype.b.prototype.c").1) ∧
      HasMarker "A.prototype.b" ∧ split "A.prototype.b" ≠ split "A.prototype.b.prototype.c" := by
  obtain ⟨inverts, makes, apart⟩ := split_inverts_make
  have marked : HasMarker "A.prototype.b.prototype.c" := by decide +kernel
  have short : HasMarker "A.prototype.b" := by decide +kernel
  refine ⟨⟨by decide +kernel, ?_⟩, ⟨marked, makes _ marked⟩, short, apart _ _ short marked (by decide)⟩
  rw [Ne, inverts, not_not]
  decide +kernel

end PluginAudit.Script.Signature
