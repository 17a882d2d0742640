import Mathlib
import PluginAudit.Proofs.Yaml.Work

namespace PluginAudit.Yaml.Made

section Leaves

variable {σ α β : Type} {holds : σ → Prop}

/-- From a state of which something holds, an operation leads to such a state and gives such a result. -/
def Leaves (holds : σ → Prop) (operation : StateM σ α) (gives : α → Prop) : Prop :=
  ∀ state, holds state → holds (operation.run state).2 ∧ gives (operation.run state).1

theorem leaves_pure {a : α} {gives : α → Prop} (given : gives a) : Leaves holds (pure a) gives :=
  fun _ before => ⟨before, given⟩

theorem leaves_get : Leaves holds (get : StateM σ σ) holds :=
  fun _ before => ⟨before, before⟩

theorem leaves_modify {change : σ → σ} (changed : ∀ state, holds state → holds (change state)) :
    Leaves holds (modify change) fun _ => True :=
  fun state before => ⟨changed state before, trivial⟩

theorem leaves_bind {operation : StateM σ α} {next : α → StateM σ β} {middle : α → Prop} {gives : β → Prop}
    (first : Leaves holds operation middle) (second : ∀ a, middle a → Leaves holds (next a) gives) :
    Leaves holds (operation >>= next) gives := by
  intro state before
  obtain ⟨between, found⟩ := first state before
  exact second _ found _ between

theorem leaves_mapM {items : List α} {act : α → StateM σ β} {gives : α → β → Prop}
    (each : ∀ item, Leaves holds (act item) (gives item)) :
    Leaves holds (items.mapM act) (List.Forall₂ gives items) := by
  induction items with
  | nil => exact leaves_pure .nil
  | cons item rest ih =>
    rw [List.mapM_cons]
    refine leaves_bind (each item) fun b given => ?_
    exact leaves_bind ih fun bs givenRest => leaves_pure (.cons given givenRest)

end Leaves

variable {made : Array Made}

def Names (made : Array Made) (n : Nat) (v : Value) : Prop :=
  ∀ name, v.bare = .text name → ∃ w, made.getD n default = .scalar w ∧ w.bare = .text name

def Maps (made : Array Made) (n : Nat) (v : Value) : Prop :=
  ∀ written, v.bare = .map written → ∃ entries, made.getD n default = .map entries ∧
    List.Forall₂ (fun (entry : Nat × Nat) (pair : Value × Value) => Names made entry.1 pair.1) entries written

structure Stands (made : Array Made) (n : Nat) (v : Value) : Prop where
  names : Names made n v
  maps : Maps made n v

theorem stands_of_bare {n : Nat} {v w : Value} (stands : Stands made n v) (same : w.bare = v.bare) :
    Stands made n w where
  names name named := stands.names name (same.symm.trans named)
  maps written isMap := stands.maps written (same.symm.trans isMap)

theorem stands_other {n : Nat} {v : Value} (other : (v.bare matches .text _ | .map _) = false) :
    Stands made n v where
  names name named := by
    rw [named] at other
    cases other
  maps written isMap := by
    rw [isMap] at other
    cases other

def Faithful (made : Array Made) (known : Known) : Prop :=
  ∀ n v, known.getD n none = some v → Stands made n v

theorem Faithful.set {known : Known} {n : Nat} {v : Value} (faithful : Faithful made known) (stands : Stands made n v) :
    Faithful made (known.setIfInBounds n (some v)) := by
  intro k w found
  simp only [Array.getD_eq_getD_getElem?, Array.getElem?_setIfInBounds] at found
  by_cases same : n = k
  · subst same
    by_cases inside : n < known.size
    · simp [inside] at found
      rw [← found]
      exact stands
    · simp [inside] at found
  · rw [if_neg same] at found
    exact faithful k w (by rw [Array.getD_eq_getD_getElem?]; exact found)

theorem leaves_keep {n : Nat} {found : Unfolded} (stands : Stands made n found.1) (text : String) (marked : Bool) :
    Leaves (Faithful made) (keep text marked n found) fun result => Stands made n result.1 := by
  unfold keep
  extract_lets v named
  have standsMarked : Stands made n v := by
    refine stands_of_bare stands ?_
    show (if marked && isMarked found.1 then Value.shared ⟨text, n⟩ found.1 else found.1).bare = found.1.bare
    split <;> rfl
  clear_value v
  split
  · refine leaves_bind (leaves_modify fun known faithful => ?_) fun _ _ => leaves_pure standsMarked
    exact faithful.set standsMarked
  · exact leaves_pure standsMarked

theorem leaves_assemble {part : Nat → StateM Known Unfolded}
    (parts : ∀ n, Leaves (Faithful made) (part n) fun result => Stands made n result.1) {n : Nat}
    (proper : ∀ v, made.getD n default = .scalar v → ∀ written, v.bare ≠ .map written) :
    Leaves (Faithful made) (assemble part (made.getD n default)) fun result => Stands made n result.1 := by
  have pairs (pair : Nat × Nat) :
      Leaves (Faithful made) (pairOf part pair) fun result => Names made pair.1 result.1.1 :=
    leaves_bind (parts pair.1) fun a stands => leaves_bind (parts pair.2) fun _ _ => leaves_pure stands.names
  cases isMade : made.getD n default with
  | scalar v =>
    refine leaves_pure ⟨fun name named => ⟨v, isMade, named⟩, fun written isMap => ?_⟩
    exact absurd isMap (proper v isMade written)
  | nan => exact leaves_pure (stands_other rfl)
  | list items => exact leaves_bind (leaves_mapM parts) fun _ _ => leaves_pure (stands_other rfl)
  | set items => exact leaves_bind (leaves_mapM parts) fun _ _ => leaves_pure (stands_other rfl)
  | pairs items => exact leaves_bind (leaves_mapM pairs) fun _ _ => leaves_pure (stands_other rfl)
  | map entries =>
    refine leaves_bind (leaves_mapM pairs) fun found named => leaves_pure ⟨fun _ => Value.noConfusion, ?_⟩
    intro written isMap
    obtain rfl := Value.map.inj isMap
    exact ⟨entries, isMade, List.forall₂_map_right_iff.mpr named⟩

theorem leaves_unfold (proper : ∀ n v, made.getD n default = .scalar v → ∀ written, v.bare ≠ .map written)
    (text : String) (places : Array Nat) (fuel : Nat) (path : List Nat) (inMarked : Bool) (n : Nat) :
    Leaves (Faithful made) (unfold text made places fuel path inMarked n) fun result => Stands made n result.1 := by
  -- A vertex that is known already stands as it is known; all others are assembled with less fuel.
  induction fuel generalizing path inMarked n with
  | zero => exact leaves_pure (stands_other rfl)
  | succ fuel ih =>
    unfold unfold
    split
    · exact leaves_pure (stands_other rfl)
    · refine leaves_bind leaves_get fun known faithful => ?_
      split
      · rename_i v found
        exact leaves_pure (faithful n v found)
      · exact leaves_bind (leaves_assemble (ih _ _) (proper n)) fun found stands => leaves_keep stands _ _

theorem stands_value (proper : ∀ n v, made.getD n default = .scalar v → ∀ written, v.bare ≠ .map written)
    (text : String) : Stands made 0 (value text made) := by
  have faithful : Faithful made (Array.replicate made.size none) := by
    intro n v found
    simp [Array.getD] at found
  exact (leaves_unfold proper text (places made) (made.size + 1) [] false 0 _ faithful).2

end PluginAudit.Yaml.Made

namespace PluginAudit.Yaml

theorem Work.made_of_getD {work : Work} {n : Nat} {made : Made} (notNull : made ≠ .scalar .null)
    (found : (work.made.map (·.getD (.scalar .null))).getD n default = made) : work.made.getD n none = some made := by
  rw [Array.getD_eq_getD_getElem?, Array.getElem?_map] at found
  rw [Array.getD_eq_getD_getElem?]
  cases isFound : work.made[n]? with
  | none =>
    rw [isFound] at found
    exact absurd found.symm notNull
  | some slot =>
    rw [isFound] at found
    cases slot with
    | none => exact absurd found.symm notNull
    | some other => exact congrArg some found

theorem Work.apart_of_names {work : Work} {a b : Nat} {x y : Value}
    (first : Made.Names (work.made.map (·.getD (.scalar .null))) a x)
    (second : Made.Names (work.made.map (·.getD (.scalar .null))) b y) (different : work.isSameKey a b = false) :
    x.Apart y := by
  have slot {n : Nat} {w : Value} {name : String} (named : w.bare = .text name)
      (found : (work.made.map (·.getD (.scalar .null))).getD n default = .scalar w) :
      work.made.getD n none = some (.scalar w) := by
    refine Work.made_of_getD (fun same => ?_) found
    rw [Made.scalar.inj same] at named
    cases named
  intro name isName again
  obtain ⟨v, foundFirst, nameFirst⟩ := first name isName
  obtain ⟨w, foundSecond, nameSecond⟩ := second name again
  have same : v.sameKey w = true := by
    unfold Value.sameKey
    rw [nameFirst, nameSecond]
    exact beq_self_eq_true name
  unfold isSameKey at different
  rw [slot nameFirst foundFirst, slot nameSecond foundSecond] at different
  simp [Made.isSameKey, same] at different

theorem Work.pairwise_apart {work : Work} {keys : List Nat} {values : List Value}
    (named : List.Forall₂ (Made.Names (work.made.map (·.getD (.scalar .null)))) keys values)
    (different : keys.Pairwise fun a b => work.isSameKey a b = false) : values.Pairwise Value.Apart := by
  have sameLength := named.length_eq
  rw [List.pairwise_iff_getElem] at different ⊢
  intro i j first second before
  have left : i < keys.length := sameLength ▸ first
  have right : j < keys.length := sameLength ▸ second
  exact Work.apart_of_names (named.get left first) (named.get right second) (different i j left right before)

theorem namedOnce_of_read {text : List Char} {v : Value} (read : read text = .ok v) (written : Value.Entries)
    (isMap : v.bare = .map written) : Value.Entries.NamedOnce written := by
  obtain ⟨document, -, read⟩ := exists_of_bind_ok read
  obtain ⟨vertices, -, read⟩ := exists_of_bind_ok read
  obtain ⟨made, ran, read⟩ := exists_of_bind_ok read
  obtain ⟨work, sound, rfl⟩ := Work.sound_run ran
  cases read
  have proper (n : Nat) (v : Value) (found : (work.made.map (·.getD (.scalar .null))).getD n default = .scalar v)
      (written : Value.Entries) : v.bare ≠ .map written := by
    by_cases isNull : v = .null
    · rw [isNull]
      exact Value.noConfusion
    · have notNull : Made.scalar v ≠ .scalar .null := fun same => isNull (Made.scalar.inj same)
      exact sound.proper n _ (Work.made_of_getD notNull found) written
  obtain ⟨entries, isMapping, named⟩ := (Made.stands_value proper _).maps written isMap
  have keyed : work.Keyed (entries.map (·.1)) := sound.proper 0 _ (Work.made_of_getD Made.noConfusion isMapping)
  refine Work.pairwise_apart ?_ keyed.apart
  exact List.forall₂_map_left_iff.mpr (List.forall₂_map_right_iff.mpr named)

end PluginAudit.Yaml
