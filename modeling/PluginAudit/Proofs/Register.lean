import Mathlib
import PluginAudit.Proofs.Effect
import PluginAudit.Register

namespace PluginAudit.Register

variable {α β : Type}

theorem get?_alter (register : Register α) (name other : String) (change : Option α → α) :
    (register.alter name change).get? other =
      if other = name then some (change (register.get? name)) else register.get? other := by
  by_cases same : other = name
  · subst same
    simpa using get?_alter_self register other change
  · simpa [same] using get?_alter_of_ne register change same

theorem get?_put (register : Register α) (name other : String) (a : α) :
    (register.put name a).get? other = if other = name then some a else register.get? other :=
  get?_alter register name other _

theorem get?_of_get?_put {register : Register α} {name other : String} {a b : α}
    (found : (register.put name a).get? other = some b) (different : a ≠ b) : register.get? other = some b := by
  rw [get?_put] at found
  split at found
  · exact absurd (Option.some.inj found) different
  · exact found

theorem mem_of_get? {register : Register α} {name : String} {a : α} (found : register.get? name = some a) :
    (name, a) ∈ register := by
  obtain ⟨before, behind, rfl, -⟩ := List.lookup_eq_some_iff.mp found
  simp

theorem mem_of_mem_put {register : Register α} {name : String} {a : α} {entry : String × α}
    (member : entry ∈ register.put name a) : entry = (name, a) ∨ entry ∈ register := by
  induction register with
  | nil => exact .inl (List.mem_singleton.mp member)
  | cons pair rest ih =>
    obtain ⟨other, b⟩ := pair
    rw [put, alter] at member
    by_cases same : other = name
    · rw [if_pos same] at member
      rcases List.mem_cons.mp member with rfl | later
      · exact .inl (congrArg (·, a) same)
      · exact .inr (List.mem_cons_of_mem _ later)
    · rw [if_neg same] at member
      rcases List.mem_cons.mp member with rfl | later
      · exact .inr List.mem_cons_self
      · exact (ih later).imp_right (List.mem_cons_of_mem _)

theorem isSome_get?_iff (register : Register α) (name : String) :
    (register.get? name).isSome ↔ name ∈ register.names := by
  simp [get?, names, List.lookup_isSome_iff]

theorem nodup_names_nil : (names ([] : Register α)).Nodup :=
  List.nodup_nil

@[simp] theorem names_cons (pair : String × α) (rest : Register α) :
    names (pair :: rest) = pair.1 :: names rest :=
  rfl

theorem names_alter (register : Register α) (name : String) (change : Option α → α) :
    (register.alter name change).names =
      if name ∈ register.names then register.names else register.names ++ [name] := by
  induction register with
  | nil => rfl
  | cons pair rest ih =>
    obtain ⟨other, a⟩ := pair
    by_cases same : other = name
    · simp [alter, same]
    · have different : name ≠ other := Ne.symm same
      by_cases present : name ∈ names rest
      · rw [if_pos present] at ih
        simp [alter, same, present, ih]
      · rw [if_neg present] at ih
        simp [alter, same, different, present, ih]

theorem nodup_names_alter {register : Register α} (nodup : register.names.Nodup) (name : String)
    (change : Option α → α) : (register.alter name change).names.Nodup := by
  rw [names_alter]
  split
  · exact nodup
  · rename_i absent
    rw [← List.concat_eq_append]
    exact nodup.concat absent

theorem get?_eq_some_iff {register : Register α} (nodup : register.names.Nodup) (name : String) (a : α) :
    register.get? name = some a ↔ (name, a) ∈ register := by
  induction register with
  | nil => simp [get?]
  | cons pair rest ih =>
    obtain ⟨other, b⟩ := pair
    obtain ⟨absent, nodupRest⟩ := List.nodup_cons.mp nodup
    have tail := ih nodupRest
    by_cases same : name = other
    · subst same
      have notInRest : (name, a) ∉ rest := fun member => absent (List.mem_map.mpr ⟨_, member, rfl⟩)
      simp [get?, notInRest, eq_comm]
    · have head : (name == other) = false := by simpa using same
      simpa [get?, List.lookup_cons, head, same] using tail

theorem get?_of_perm {first second : Register α} (nodup : first.names.Nodup) (perm : first.Perm second)
    (name : String) : first.get? name = second.get? name := by
  have nodupSecond : second.names.Nodup := (perm.map Prod.fst).nodup_iff.mp nodup
  ext a
  rw [get?_eq_some_iff nodup, get?_eq_some_iff nodupSecond, perm.mem_iff]

/-- Registers of distinct names that hold the same under each name differ in the order of their names only. -/
theorem perm_of_get? {first second : Register α} (nodup : first.names.Nodup) (nodupSecond : second.names.Nodup)
    (same : ∀ name, first.get? name = second.get? name) : first.Perm second := by
  rw [List.perm_ext_iff_of_nodup nodup.of_map nodupSecond.of_map]
  rintro ⟨name, a⟩
  rw [← get?_eq_some_iff nodup, ← get?_eq_some_iff nodupSecond, same]

theorem get?_map (f : α → β) (register : Register α) (name : String) :
    get? (register.map fun entry => (entry.1, f entry.2)) name = (register.get? name).map f := by
  induction register with
  | nil => rfl
  | cons pair rest ih =>
    obtain ⟨other, a⟩ := pair
    rw [get?, get?] at ih ⊢
    by_cases same : name = other
    · simp [same]
    · have different : (name == other) = false := by simpa using same
      simpa [List.lookup_cons, different] using ih

theorem names_map (f : α → β) (register : Register α) :
    names (register.map fun entry => (entry.1, f entry.2)) = register.names := by
  rw [names, names, List.map_map]
  rfl

/-- Where each entry is read under its own name, what is found under a name was read from what stood there. -/
theorem get?_mapM {ε : Type} {read : String × α → Except ε (String × β)}
    (keeps : ∀ {entry result}, read entry = .ok result → result.1 = entry.1) {register : Register α}
    {results : Register β} (all : register.mapM read = .ok results) (name : String) :
    (register.get? name = none → results.get? name = none) ∧
      ∀ a, register.get? name = some a → ∃ b, read (name, a) = .ok (name, b) ∧ results.get? name = some b := by
  induction register generalizing results with
  | nil =>
    cases all
    exact ⟨fun _ => rfl, nofun⟩
  | cons pair rest ih =>
    obtain ⟨other, a⟩ := pair
    rw [List.mapM_cons] at all
    obtain ⟨⟨key, b⟩, first, all⟩ := exists_of_bind_ok all
    obtain ⟨tail, others, all⟩ := exists_of_bind_ok all
    cases all
    obtain rfl : key = other := keeps first
    by_cases same : name = key
    · subst same
      have head : get? ((name, a) :: rest) name = some a := by simp [get?]
      refine ⟨fun none => ?_, fun found isFound => ⟨b, ?_, by simp [get?]⟩⟩
      · rw [head] at none
        cases none
      · rw [head] at isFound
        cases isFound
        exact first
    · have head : (name == key) = false := by simpa using same
      simpa [get?, List.lookup_cons, head] using ih others

theorem get?_map_const (names : List String) (a : α) (name : String) :
    get? (names.map fun other => (other, a)) name = if name ∈ names then some a else none := by
  induction names with
  | nil => rfl
  | cons other rest ih =>
    rw [get?] at ih ⊢
    by_cases same : name = other
    · simp [same]
    · have different : (name == other) = false := by simpa using same
      simpa [List.lookup_cons, different, same] using ih

def gather (register : Register (List α)) (pairs : List (String × α)) : Register (List α) :=
  pairs.foldl (fun register pair => register.alter pair.1 fun old => old.getD [] ++ [pair.2]) register

theorem gather_append (register : Register (List α)) (first second : List (String × α)) :
    register.gather (first ++ second) = (register.gather first).gather second :=
  List.foldl_append

theorem nodup_names_gather {register : Register (List α)} (nodup : register.names.Nodup)
    (pairs : List (String × α)) : (register.gather pairs).names.Nodup := by
  induction pairs generalizing register with
  | nil => exact nodup
  | cons pair rest ih => exact ih (nodup_names_alter nodup _ _)

/-- The data gathered under a name are those that came with it, in the order in which they came. -/
theorem getD_gather (register : Register (List α)) (pairs : List (String × α)) (name : String) :
    ((register.gather pairs).get? name).getD [] =
      (register.get? name).getD [] ++ (pairs.filter (·.1 = name)).map Prod.snd := by
  induction pairs generalizing register with
  | nil => simp [gather]
  | cons pair rest ih =>
    have tail := ih (register.alter pair.1 fun old => old.getD [] ++ [pair.2])
    rw [get?_alter] at tail
    change ((gather _ rest).get? name).getD [] = _
    rw [tail]
    by_cases same : pair.1 = name
    · simp [same]
    · simp [same, Ne.symm same]

theorem sum_alter (register : Register (List α)) (name : String) (a : α) :
    ((register.alter name fun old => old.getD [] ++ [a]).map fun entry => entry.2.length).sum =
      (register.map fun entry => entry.2.length).sum + 1 := by
  induction register with
  | nil => simp [alter]
  | cons pair rest ih =>
    obtain ⟨other, held⟩ := pair
    by_cases same : other = name
    · simp [alter, same]
      omega
    · simp [alter, same, ih]
      omega

theorem sum_gather (register : Register (List α)) (pairs : List (String × α)) :
    ((register.gather pairs).map fun entry => entry.2.length).sum =
      (register.map fun entry => entry.2.length).sum + pairs.length := by
  induction pairs generalizing register with
  | nil => rfl
  | cons pair rest ih =>
    change ((gather _ rest).map fun entry => entry.2.length).sum = _
    rw [ih, sum_alter, List.length_cons]
    omega

def Filled (register : Register (List α)) : Prop :=
  ∀ name, register.get? name ≠ some []

theorem filled_nil : Filled ([] : Register (List α)) := by
  intro name found
  cases found

theorem Filled.alter {register : Register (List α)} (filled : register.Filled) (name : String)
    (change : Option (List α) → List α) (some : change (register.get? name) ≠ []) :
    (register.alter name change).Filled := by
  intro other found
  rw [get?_alter] at found
  split at found
  · exact some (Option.some.inj found)
  · exact filled other found

theorem Filled.gather {register : Register (List α)} (filled : register.Filled) (pairs : List (String × α)) :
    (register.gather pairs).Filled := by
  induction pairs generalizing register with
  | nil => exact filled
  | cons pair rest ih => exact ih (filled.alter _ _ (by simp))

/-- Where no list is empty, the number of data under a name tells whether the name is there. -/
theorem Filled.map_length {register : Register (List α)} (filled : register.Filled) (name : String) :
    ((register.get? name).map fun held => (held.length : Int)) =
      if ((register.get? name).getD []).length = 0 then none
      else some (((register.get? name).getD []).length : Int) := by
  cases found : register.get? name with
  | none => rfl
  | some held =>
    have nonempty : held ≠ [] := fun empty => filled name (empty ▸ found)
    simp [nonempty]

/-- What stands under a name after data were put in turn is what was put there last. -/
theorem get?_foldl_put (key : β → String) (data : β → α) (items : List β) (register : Register α) (name : String) :
    (items.foldl (fun register item => register.put (key item) (data item)) register).get? name =
      ((items.findRev? (key · = name)).map data).or (register.get? name) := by
  induction items generalizing register with
  | nil => rfl
  | cons item rest ih =>
    rw [List.foldl_cons, ih, get?_put, List.findRev?]
    cases later : rest.findRev? (key · = name) with
    | some found => rfl
    | none =>
      by_cases same : key item = name
      · simp [same]
      · simp [same, Ne.symm same]

theorem get?_filter_ne (register : Register α) (name other : String) :
    get? (register.filter (·.1 ≠ name)) other = if other = name then none else register.get? other := by
  induction register with
  | nil => simp [get?]
  | cons entry rest ih =>
    obtain ⟨key, a⟩ := entry
    unfold get? at ih ⊢
    by_cases same : key = name
    · subst same
      rw [List.filter_cons_of_neg (by simp), ih]
      split
      · rfl
      · rename_i different
        rw [List.lookup_cons, show (other == key) = false by simpa using different]
    · rw [List.filter_cons_of_pos (by simpa using same), List.lookup_cons, List.lookup_cons, ih]
      by_cases here : other = key
      · subst here
        simp [same]
      · rw [show (other == key) = false by simpa using here]

theorem put_new {register : Register α} {name : String} (new : name ∉ register.names) (a : α) :
    register.put name a = register ++ [(name, a)] := by
  induction register with
  | nil => rfl
  | cons pair rest ih =>
    rw [names_cons, List.mem_cons, not_or] at new
    rw [put, alter, if_neg (Ne.symm new.1)]
    exact congrArg (pair :: ·) (ih new.2)

/-- Data under names that are all new stand in the order in which they were put. -/
theorem foldl_put_new (key : β → String) (data : β → α) (items : List β) (register : Register α)
    (nodup : (register.names ++ items.map key).Nodup) :
    items.foldl (fun register item => register.put (key item) (data item)) register =
      register ++ items.map fun item => (key item, data item) := by
  induction items generalizing register with
  | nil => simp
  | cons item rest ih =>
    have new : key item ∉ register.names := by
      intro present
      exact (List.nodup_append.mp nodup).2.2 _ present _ List.mem_cons_self rfl
    rw [List.foldl_cons, put_new new, ih]
    · simp
    · simpa [names] using nodup

end PluginAudit.Register
