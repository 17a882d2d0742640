import Mathlib
import PluginAudit.Proofs.Dependency.Health

namespace PluginAudit.Dependency

variable {plugins : List Plugin}

theorem exists_place {name : String} (named : name ∈ plugins.map (·.name)) :
    ∃ place, (places plugins).get? name = some place := by
  have last := Register.get?_foldl_put (fun entry : Plugin × Nat => entry.1.name) Prod.snd plugins.zipIdx [] name
  obtain ⟨plugin, member, same⟩ := List.mem_map.mp named
  obtain ⟨place, here⟩ := List.getElem?_of_mem member
  have entry : (plugin, place) ∈ plugins.zipIdx := List.mem_zipIdx_iff_getElem?.mpr here
  rw [places, last, List.findRev?_eq_find?_reverse]
  cases found : plugins.zipIdx.reverse.find? (·.1.name = name) with
  | none =>
    rw [List.find?_eq_none] at found
    exact absurd (decide_eq_true same) (found _ (List.mem_reverse.mpr entry))
  | some entry => exact ⟨entry.2, rfl⟩

theorem name_of_place {name other : String} {place : Nat} (here : (places plugins).get? name = some place)
    (there : (places plugins).get? other = some place) : name = other := by
  have first := ((get?_places plugins name place).mp here).1
  have second := ((get?_places plugins other place).mp there).1
  exact Option.some.inj (first.symm.trans second)

theorem DependsOn.source_named {name target : String} (depends : DependsOn plugins name target) :
    name ∈ plugins.map (·.name) := by
  obtain ⟨plugin, found, -⟩ := depends
  obtain ⟨member, same⟩ := lastNamed?_eq_some found
  exact List.mem_map.mpr ⟨plugin, member, same⟩

theorem DependsOn.target_named {name target : String} (depends : DependsOn plugins name target) :
    target ∈ plugins.map (·.name) := by
  obtain ⟨plugin, -, -, named⟩ := depends
  exact named

theorem loadOrder_mem_issues {name target : String} {place targetPlace : Nat}
    (depends : DependsOn plugins name target) (here : (places plugins).get? name = some place)
    (there : (places plugins).get? target = some targetPlace) (before : place < targetPlace) :
    Issue.loadOrder name target place targetPlace ∈ (check plugins).issues := by
  obtain ⟨plugin, found, declared, -⟩ := depends
  obtain ⟨member, rfl⟩ := lastNamed?_eq_some found
  have made : loadOrderIssue? (places plugins) plugin.name target =
      some (.loadOrder plugin.name target place targetPlace) := by
    simp [loadOrderIssue?, here, there, before]
  have late : Issue.loadOrder plugin.name target place targetPlace ∈ outOfOrder plugins :=
    List.mem_flatMap.mpr ⟨plugin, member, List.mem_filterMap.mpr ⟨target, declared, made⟩⟩
  exact List.mem_append_right _ late

/-- Along a walk of dependencies that comes through another name, every name on it is that of a plugin. -/
theorem named_of_walk {walk : List String} (chain : walk.IsChain (DependsOn plugins)) {name other : String}
    (member : name ∈ walk) (otherMember : other ∈ walk) (different : name ≠ other) :
    ∀ stop ∈ walk, stop ∈ plugins.map (·.name) := by
  match walk, chain with
  | [single], _ =>
    rw [List.mem_singleton.mp member, List.mem_singleton.mp otherMember] at different
    exact absurd rfl different
  | first :: second :: rest, chain =>
    have depends : DependsOn plugins first second := (List.isChain_cons_cons.mp chain).1
    apply chain.induction (· ∈ plugins.map (·.name))
    · intro name target depends _
      exact depends.target_named
    · intro _
      exact depends.source_named

/-- A value that never rises along a walk, and is at the end what it was at the start, does not change at all. -/
theorem constant_of_closed {walk : List String} {value : String → Nat}
    (falls : walk.IsChain fun name target => value target ≤ value name) (closed : walk.head? = walk.getLast?)
    {name other : String} (member : name ∈ walk) (otherMember : other ∈ walk) : value name = value other := by
  cases walk with
  | nil => cases member
  | cons first rest =>
    have trans : IsTrans String fun name target => value target ≤ value name :=
      ⟨fun _ _ _ first second => second.trans first⟩
    -- The first name of the walk is also its last one, so the values of all others lie between its value and itself.
    have same : ∀ stop ∈ first :: rest, value stop = value first := by
      intro stop inside
      have pairwise := List.isChain_iff_pairwise.mp falls
      have below : value stop ≤ value first := by
        rcases List.mem_cons.mp inside with rfl | later
        · exact le_rfl
        · exact (List.pairwise_cons.mp pairwise).1 stop later
      have last : (first :: rest).dropLast ++ [first] = first :: rest := by
        have ends : first ∈ (first :: rest).getLast? := by
          rw [← closed]
          rfl
        exact List.dropLast_append_getLast? first ends
      have above : value first ≤ value stop := by
        rw [← last] at inside pairwise
        rcases List.mem_append.mp inside with earlier | here
        · exact (List.pairwise_append.mp pairwise).2.2 stop earlier first (List.mem_singleton.mpr rfl)
        · rw [List.mem_singleton.mp here]
      omega
    rw [same name member, same other otherMember]

/-- Along every closed walk of dependencies through two names or more, the report names two consecutive ones of which
the first depends on the second and loads before it. -/
theorem check_closed_walk {plugins : List Plugin} {walk : List String} (chain : walk.IsChain (DependsOn plugins))
    (closed : walk.head? = walk.getLast?) {name other : String} (member : name ∈ walk) (otherMember : other ∈ walk)
    (different : name ≠ other) :
    ∃ early late place latePlace, [early, late] <:+: walk ∧ (places plugins).get? early = some place ∧
      (places plugins).get? late = some latePlace ∧ place < latePlace ∧
      Issue.loadOrder early late place latePlace ∈ (check plugins).issues := by
  have named := named_of_walk chain member otherMember different
  by_contra unreported
  have falls : walk.IsChain fun name target =>
      ((places plugins).get? target).getD 0 ≤ ((places plugins).get? name).getD 0 := by
    refine walk.isChain_isInfix.imp fun early late inside => ?_
    have pair : [early, late].IsChain (DependsOn plugins) := List.IsChain.infix chain inside
    have depends := List.isChain_pair.mp pair
    obtain ⟨place, here⟩ := exists_place depends.source_named
    obtain ⟨latePlace, there⟩ := exists_place depends.target_named
    rw [here, there]
    by_contra before
    have before : place < latePlace := Nat.lt_of_not_le before
    exact unreported ⟨early, late, place, latePlace, inside, here, there, before,
      loadOrder_mem_issues depends here there before⟩
  obtain ⟨place, here⟩ := exists_place (named name member)
  obtain ⟨otherPlace, there⟩ := exists_place (named other otherMember)
  have same : place = otherPlace := by
    simpa [here, there] using constant_of_closed falls closed member otherMember
  subst same
  exact different (name_of_place here there)

/-- Rain is listed twice: it needs nothing at first, and clouds, which need rain, in the end. -/
def renewed : List Plugin :=
  [⟨"Rain.js", "Rain", [], [], [], [], ""⟩, ⟨"Cloud.js", "Cloud", [], ["Rain"], [], [], ""⟩,
    ⟨"RainAgain.js", "Rain", [], [], ["Cloud"], [], ""⟩]

theorem check_closed_walk_renewed :
    ["Rain", "Cloud", "Rain"].IsChain (DependsOn renewed) ∧
      ∃ early late place latePlace, [early, late] <:+: ["Rain", "Cloud", "Rain"] ∧
        (places renewed).get? early = some place ∧ (places renewed).get? late = some latePlace ∧ place < latePlace ∧
        Issue.loadOrder early late place latePlace ∈ (check renewed).issues := by
  have rain : DependsOn renewed "Rain" "Cloud" := ⟨_, rfl, by decide, by decide⟩
  have cloud : DependsOn renewed "Cloud" "Rain" := ⟨_, rfl, by decide, by decide⟩
  have chain : ["Rain", "Cloud", "Rain"].IsChain (DependsOn renewed) :=
    List.isChain_cons_cons.mpr ⟨rain, List.isChain_pair.mpr cloud⟩
  exact ⟨chain, @check_closed_walk renewed _ chain rfl "Rain" "Cloud" (by decide) (by decide) (by decide)⟩

end PluginAudit.Dependency
