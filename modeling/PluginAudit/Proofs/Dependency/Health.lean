import PluginAudit.Dependency.Check
import PluginAudit.Proofs.Dependency.Cycles

namespace PluginAudit.Dependency

/-- Names are distinct, and whatever a plugin depends on stands before it in the load order. -/
def Ordered (plugins : List Plugin) : Prop :=
  (plugins.map (·.name)).Nodup ∧
    ∀ (place : Nat) (plugin : Plugin), plugins[place]? = some plugin → ∀ target ∈ plugin.base ++ plugin.orderAfter,
      ∃ earlier < place, (plugins.map (·.name))[earlier]? = some target

/-- Some plugin depends on a name that no plugin has. -/
def Unmet (plugins : List Plugin) : Prop :=
  ∃ plugin ∈ plugins, ∃ target ∈ plugin.base ++ plugin.orderAfter, target ∉ plugins.map (·.name)

theorem filenames_eq_gather (plugins : List Plugin) :
    filenames plugins = Register.gather [] (plugins.map fun plugin => (plugin.name, plugin.filename)) := by
  rw [filenames, Register.gather, List.foldl_map]

theorem length_filenames (plugins : List Plugin) (name : String) :
    (((filenames plugins).get? name).getD []).length = (plugins.map (·.name)).count name := by
  rw [filenames_eq_gather, Register.getD_gather, List.count_eq_length_filter]
  simp [Register.get?, List.filter_map, Function.comp_def, beq_eq_decide]

theorem duplicates_eq_nil_iff (plugins : List Plugin) : duplicates plugins = [] ↔ (plugins.map (·.name)).Nodup := by
  have distinct : (filenames plugins).names.Nodup := by
    rw [filenames_eq_gather]
    exact Register.nodup_names_gather Register.nodup_names_nil _
  rw [List.nodup_iff_count_le_one, duplicates, List.map_eq_nil_iff, List.filter_eq_nil_iff]
  constructor
  · intro single name
    rw [← length_filenames]
    cases found : (filenames plugins).get? name with
    | none => simp
    | some files => simpa using single _ ((Register.get?_eq_some_iff distinct name files).mp found)
  · rintro single ⟨name, files⟩ member
    have bound := single name
    rw [← length_filenames, (Register.get?_eq_some_iff distinct name files).mpr member] at bound
    simpa using bound

theorem missing_eq_nil_iff (plugins : List Plugin) :
    missing (Graph.ofPlugins plugins) plugins = [] ↔ ¬ Unmet plugins := by
  simp only [missing, Unmet, List.flatMap_eq_nil_iff, List.map_eq_nil_iff, List.filter_eq_nil_iff, Plugin.dependencies,
    Bool.not_eq_true', ← Bool.not_eq_true, Graph.contains_ofPlugins]
  push Not
  rfl

theorem get?_places (plugins : List Plugin) (name : String) (place : Nat) :
    (places plugins).get? name = some place ↔
      (plugins.map (·.name))[place]? = some name ∧
        ∀ later, place < later → (plugins.map (·.name))[later]? ≠ some name := by
  induction plugins using List.reverseRecOn with
  | nil => simp [places, Register.get?]
  | append_singleton plugins plugin ih =>
    have last : places (plugins ++ [plugin]) = (places plugins).put plugin.name plugins.length := by
      simp [places, List.zipIdx_append]
    rw [last, Register.get?_put, List.map_append, List.map_singleton]
    by_cases same : name = plugin.name
    · subst same
      rw [if_pos rfl, Option.some.injEq]
      constructor
      · rintro rfl
        refine ⟨by simp, fun later behind => ?_⟩
        rw [List.getElem?_eq_none (by simp; omega)]
        simp
      · rintro ⟨here, lastHere⟩
        obtain ⟨bound, _⟩ := List.getElem?_eq_some_iff.mp here
        simp only [List.length_append, List.length_map, List.length_singleton] at bound
        by_contra different
        exact lastHere plugins.length (by omega) (by simp)
    · -- The new plugin has another name, so that this name stands where it stood before.
      have unchanged : ∀ k : Nat, (plugins.map (·.name) ++ [plugin.name])[k]? = some name ↔
          (plugins.map (·.name))[k]? = some name := by
        intro k
        rw [List.getElem?_append]
        split
        · rfl
        · rename_i behind
          rw [List.getElem?_eq_none (Nat.le_of_not_lt behind), List.getElem?_singleton]
          split <;> simp [Ne.symm same]
      rw [if_neg same, ih, unchanged]
      simp only [ne_eq, unchanged]

theorem place_unique {plugins : List Plugin} (nodup : (plugins.map (·.name)).Nodup) {name : String} {first second : Nat}
    (here : (plugins.map (·.name))[first]? = some name) (there : (plugins.map (·.name))[second]? = some name) :
    first = second := by
  obtain ⟨bound, _⟩ := List.getElem?_eq_some_iff.mp here
  exact (List.getElem?_inj bound nodup).mp (here.trans there.symm)

theorem places_of_nodup {plugins : List Plugin} (nodup : (plugins.map (·.name)).Nodup) (name : String) (place : Nat) :
    (places plugins).get? name = some place ↔ (plugins.map (·.name))[place]? = some name := by
  rw [get?_places]
  refine ⟨And.left, fun here => ⟨here, fun later behind again => ?_⟩⟩
  have same := place_unique nodup here again
  omega

theorem loadOrderIssue?_eq_none_iff (register : Register Nat) (name target : String) :
    loadOrderIssue? register name target = none ↔
      ∀ place targetPlace, register.get? name = some place → register.get? target = some targetPlace →
        targetPlace ≤ place := by
  unfold loadOrderIssue?
  cases first : register.get? name with
  | none => simp
  | some place =>
    cases second : register.get? target with
    | none => simp
    | some targetPlace => simp

theorem severity_of_loadOrderIssue? {register : Register Nat} {name target : String} {issue : Issue}
    (made : loadOrderIssue? register name target = some issue) : issue.severity = .warning := by
  simp only [loadOrderIssue?, Option.bind_eq_bind, Option.bind_eq_some_iff] at made
  obtain ⟨place, _, targetPlace, _, made⟩ := made
  split at made
  · cases made
    rfl
  · cases made

theorem outOfOrder_eq_nil_iff (plugins : List Plugin) :
    outOfOrder plugins = [] ↔
      ∀ plugin ∈ plugins, ∀ target ∈ plugin.base ++ plugin.orderAfter, ∀ place targetPlace,
        (places plugins).get? plugin.name = some place → (places plugins).get? target = some targetPlace →
          targetPlace ≤ place := by
  simp only [outOfOrder, List.flatMap_eq_nil_iff, List.filterMap_eq_nil_iff, loadOrderIssue?_eq_none_iff,
    Plugin.dependencies]

theorem Health.ofIssues_eq_errors_iff (issues : List Issue) :
    Health.ofIssues issues = .errors ↔ ∃ issue ∈ issues, issue.severity = .error := by
  unfold Health.ofIssues
  split
  · rename_i error
    simpa using error
  · rename_i noError
    have never : ¬ ∃ issue ∈ issues, issue.severity = .error := by simpa using noError
    split <;> simp [never]

theorem Health.ofIssues_eq_healthy_iff (issues : List Issue) : Health.ofIssues issues = .healthy ↔ issues = [] := by
  cases issues with
  | nil => simp [Health.ofIssues]
  | cons issue rest =>
    unfold Health.ofIssues
    split <;> simp

theorem health_eq_errors_iff (plugins : List Plugin) :
    (check plugins).health = .errors ↔
      missing (Graph.ofPlugins plugins) plugins ≠ [] ∨ (Graph.ofPlugins plugins).cycles ≠ [] := by
  have duplicate : ∀ issue ∈ duplicates plugins, issue.severity = .warning := by
    intro issue member
    obtain ⟨entry, _, rfl⟩ := List.mem_map.mp member
    rfl
  have unmet : ∀ issue ∈ missing (Graph.ofPlugins plugins) plugins, issue.severity = .error := by
    intro issue member
    obtain ⟨plugin, _, member⟩ := List.mem_flatMap.mp member
    obtain ⟨target, _, rfl⟩ := List.mem_map.mp member
    rfl
  have late : ∀ issue ∈ outOfOrder plugins, issue.severity = .warning := by
    intro issue member
    obtain ⟨plugin, _, member⟩ := List.mem_flatMap.mp member
    obtain ⟨target, _, made⟩ := List.mem_filterMap.mp member
    exact severity_of_loadOrderIssue? made
  rw [check, Health.ofIssues_eq_errors_iff]
  constructor
  · rintro ⟨issue, member, error⟩
    simp only [List.mem_append] at member
    rcases member with ((member | member) | member) | member
    · rw [duplicate issue member] at error
      cases error
    · exact .inl (List.ne_nil_of_mem member)
    · exact .inr (by simpa using List.ne_nil_of_mem member)
    · rw [late issue member] at error
      cases error
  · rintro (some | some)
    · obtain ⟨issue, member⟩ := List.exists_mem_of_ne_nil _ some
      exact ⟨issue, by simp [member], unmet issue member⟩
    · obtain ⟨cycle, member⟩ := List.exists_mem_of_ne_nil _ some
      exact ⟨.circular cycle, by simp [List.mem_map_of_mem member], rfl⟩

theorem health_eq_healthy_iff (plugins : List Plugin) :
    (check plugins).health = .healthy ↔
      duplicates plugins = [] ∧ missing (Graph.ofPlugins plugins) plugins = [] ∧
        (Graph.ofPlugins plugins).cycles = [] ∧ outOfOrder plugins = [] := by
  rw [check, Health.ofIssues_eq_healthy_iff]
  simp only [List.append_eq_nil_iff, List.map_eq_nil_iff, and_assoc]

theorem lastNamed?_of_nodup {plugins : List Plugin} (nodup : (plugins.map (·.name)).Nodup) {plugin : Plugin}
    (member : plugin ∈ plugins) : lastNamed? plugins plugin.name = some plugin := by
  have named : plugin.name ∈ plugins.map (·.name) := List.mem_map_of_mem member
  obtain ⟨last, found⟩ := Option.isSome_iff_exists.mp ((isSome_lastNamed?_iff plugins plugin.name).mpr named)
  obtain ⟨lastMember, sameName⟩ := lastNamed?_eq_some found
  rw [found, List.inj_on_of_nodup_map nodup lastMember member sameName]

namespace Ordered

variable {plugins : List Plugin}

theorem earlier_of_dependsOn (ordered : Ordered plugins) {name target : String} {place : Nat}
    (here : (plugins.map (·.name))[place]? = some name) (depends : DependsOn plugins name target) :
    ∃ earlier < place, (plugins.map (·.name))[earlier]? = some target := by
  obtain ⟨plugin, found, declared, _⟩ := depends
  obtain ⟨member, rfl⟩ := lastNamed?_eq_some found
  obtain ⟨own, ownPlace⟩ := List.getElem?_of_mem member
  have same : place = own := place_unique ordered.1 here (by simp [ownPlace])
  subst same
  exact ordered.2 place plugin ownPlace target declared

theorem earlier_of_transGen (ordered : Ordered plugins) {name target : String} {place : Nat}
    (here : (plugins.map (·.name))[place]? = some name) (depends : Relation.TransGen (DependsOn plugins) name target) :
    ∃ earlier < place, (plugins.map (·.name))[earlier]? = some target := by
  induction depends with
  | single depends => exact ordered.earlier_of_dependsOn here depends
  | tail _ depends ih =>
    obtain ⟨middle, before, there⟩ := ih
    obtain ⟨earlier, further, found⟩ := ordered.earlier_of_dependsOn there depends
    exact ⟨earlier, further.trans before, found⟩

theorem not_circular (ordered : Ordered plugins) : ¬ Circular plugins := by
  rintro ⟨name, cycle⟩
  obtain ⟨_, _, _, _, _, named⟩ := Relation.TransGen.tail'_iff.mp cycle
  obtain ⟨place, here⟩ := List.getElem?_of_mem named
  obtain ⟨earlier, before, again⟩ := ordered.earlier_of_transGen here cycle
  have same := place_unique ordered.1 here again
  omega

theorem not_unmet (ordered : Ordered plugins) : ¬ Unmet plugins := by
  rintro ⟨plugin, member, target, declared, absent⟩
  obtain ⟨place, here⟩ := List.getElem?_of_mem member
  obtain ⟨earlier, _, found⟩ := ordered.2 place plugin here target declared
  exact absent (List.mem_of_getElem? found)

theorem outOfOrder_eq_nil (ordered : Ordered plugins) : outOfOrder plugins = [] := by
  rw [outOfOrder_eq_nil_iff]
  intro plugin member target declared place targetPlace here there
  rw [places_of_nodup ordered.1] at here there
  obtain ⟨own, ownPlace⟩ := List.getElem?_of_mem member
  have ownName : (plugins.map (·.name))[own]? = some plugin.name := by simp [ownPlace]
  obtain ⟨earlier, before, found⟩ := ordered.2 own plugin ownPlace target declared
  have samePlace := place_unique ordered.1 here ownName
  have sameTarget := place_unique ordered.1 there found
  omega

end Ordered

theorem ordered_of_no_issue {plugins : List Plugin} (nodup : (plugins.map (·.name)).Nodup) (met : ¬ Unmet plugins)
    (acyclic : ¬ Circular plugins) (inOrder : outOfOrder plugins = []) : Ordered plugins := by
  refine ⟨nodup, fun place plugin here target declared => ?_⟩
  have member : plugin ∈ plugins := List.mem_of_getElem? here
  have ownPlace : (plugins.map (·.name))[place]? = some plugin.name := by simp [here]
  have named : target ∈ plugins.map (·.name) := by
    by_contra absent
    exact met ⟨plugin, member, target, declared, absent⟩
  obtain ⟨targetPlace, there⟩ := List.getElem?_of_mem named
  have atMost : targetPlace ≤ place :=
    (outOfOrder_eq_nil_iff plugins).mp inOrder plugin member target declared place targetPlace
      ((places_of_nodup nodup _ _).mpr ownPlace) ((places_of_nodup nodup _ _).mpr there)
  -- Places do not tell a plugin that depends on itself, so this is where the search for cycles is needed.
  have other : targetPlace ≠ place := by
    rintro rfl
    have itself : plugin.name = target := Option.some.inj (ownPlace.symm.trans there)
    subst itself
    exact acyclic ⟨plugin.name, .single ⟨plugin, lastNamed?_of_nodup nodup member, declared, named⟩⟩
  exact ⟨targetPlace, lt_of_le_of_ne atMost other, there⟩

/-- Plugins are healthy exactly in a topological order, and have errors exactly if a dependency is unmet or circular. -/
theorem health_check (plugins : List Plugin) :
    ((check plugins).health = .healthy ↔ Ordered plugins) ∧
      ((check plugins).health = .errors ↔ Unmet plugins ∨ Circular plugins) ∧
      ((check plugins).health = .warnings ↔ ¬ Ordered plugins ∧ ¬ (Unmet plugins ∨ Circular plugins)) := by
  have noCycle : (Graph.ofPlugins plugins).cycles = [] ↔ ¬ Circular plugins := by
    rw [circular_iff, ← Graph.cycles_ne_nil_iff, not_not]
  have healthy : (check plugins).health = .healthy ↔ Ordered plugins := by
    rw [health_eq_healthy_iff, duplicates_eq_nil_iff, missing_eq_nil_iff, noCycle]
    constructor
    · rintro ⟨nodup, met, acyclic, inOrder⟩
      exact ordered_of_no_issue nodup met acyclic inOrder
    · intro ordered
      exact ⟨ordered.1, ordered.not_unmet, ordered.not_circular, ordered.outOfOrder_eq_nil⟩
  have errors : (check plugins).health = .errors ↔ Unmet plugins ∨ Circular plugins := by
    rw [health_eq_errors_iff, ne_eq, ne_eq, missing_eq_nil_iff, noCycle, not_not, not_not]
  -- There are three verdicts, so warnings are what is neither of the other two.
  refine ⟨healthy, errors, ?_⟩
  rw [← healthy, ← errors]
  cases (check plugins).health <;> simp

end PluginAudit.Dependency
