import PluginAudit.Proofs.Dependency.Cycles
import PluginAudit.Proofs.Dependency.Lineage

namespace PluginAudit.Dependency

namespace Search

variable {graph : Graph} {search next : Search}

def entered? (search next : Search) : Option String :=
  if search.frames.length < next.frames.length then next.stack.head? else none

/-- The names that the search puts on the stack within a number of steps, in turn. -/
def visits (graph : Graph) : Nat → Search → List String
  | 0, _ => []
  | fuel + 1, search =>
    match step? graph search with
    | some next => (entered? search next).toList ++ visits graph fuel next
    | none => []

def whiteCount (search : Search) (name : String) : Nat :=
  if search.colours.get? name = some .white then 1 else 0

theorem count_enter {colours : Register Colour} {name : String} (white : colours.get? name = some .white)
    (other : String) :
    [name].count other + (if (colours.put name .gray).get? other = some .white then 1 else 0) =
      if colours.get? other = some .white then 1 else 0 := by
  rw [Register.get?_put]
  by_cases same : other = name
  · subst same
    simp [white]
  · have absent : other ∉ [name] := by simpa using same
    rw [List.count_eq_zero_of_not_mem absent, if_neg same, Nat.zero_add]

theorem Step.count_entered (step : Step graph search next) (orderly : Orderly graph search) (name : String) :
    (entered? search next).toList.count name + whiteCount next name = whiteCount search name := by
  cases step with
  | @leave colours _ node outer _ _ =>
    have gray : colours.get? node = some .gray := (orderly.gray node).mpr List.mem_cons_self
    have same : (colours.put node .black).get? name = some .white ↔ colours.get? name = some .white := by
      rw [Register.get?_put]
      split
      · rename_i equal
        rw [equal, gray]
        simp
      · rfl
    simp [entered?, whiteCount, same]
  | pass _ _ => simp [entered?, whiteCount]
  | close _ => simp [entered?, whiteCount]
  | descend white => simpa [entered?, whiteCount, stack] using count_enter white name
  | skip _ => simp [entered?, whiteCount]
  | enter white => simpa [entered?, whiteCount, stack] using count_enter white name

theorem count_visits (reachable : Reachable graph search) (fuel : Nat) (name : String) :
    (visits graph fuel search).count name + whiteCount (run graph fuel search) name = whiteCount search name := by
  induction fuel generalizing search with
  | zero => simp [visits, run]
  | succ fuel ih =>
    rw [visits, run]
    cases taken : step? graph search with
    | none => simp
    | some next =>
      have step := step_of_step? taken
      have here := step.count_entered reachable.orderly name
      have later := ih (reachable.tail step)
      simp only [List.count_append]
      omega

theorem whiteCount_start (graph : Graph) (name : String) :
    whiteCount (start graph) name = if graph.contains name then 1 else 0 := by
  rw [whiteCount, get?_start]
  by_cases contained : graph.contains name = true <;> simp [contained]

theorem whiteCount_finish (graph : Graph) (name : String) : whiteCount (finish graph) name = 0 := by
  rw [whiteCount, if_neg]
  intro white
  have untried := (finish_reachable graph).orderly.white name white
  rw [(finish_ended graph).2] at untried
  cases untried

def Visited (colours : Register Colour) (name : String) : Prop :=
  ∃ colour, colours.get? name = some colour ∧ colour ≠ .white

theorem visited_put_iff {colours : Register Colour} {target : String} {colour : Colour} (notWhite : colour ≠ .white)
    (name : String) : Visited (colours.put target colour) name ↔ name = target ∨ Visited colours name := by
  unfold Visited
  rw [Register.get?_put]
  by_cases same : name = target
  · simp [same, notWhite]
  · simp [same]

theorem not_visited_of_white {colours : Register Colour} {name : String} (white : colours.get? name = some .white) :
    ¬ Visited colours name := by
  rintro ⟨colour, coloured, notWhite⟩
  rw [white] at coloured
  exact notWhite (Option.some.inj coloured).symm

/-- The parents of a name in turn, down to a root. -/
inductive Descends (parents : Register String) : String → List String → Prop where
  | root {name : String} (none : parents.get? name = none) : Descends parents name []
  | child {name parent : String} {above : List String} (isParent : parents.get? name = some parent)
      (descends : Descends parents parent above) : Descends parents name (parent :: above)

theorem descends_of_chain {parents : Register String} {name : String} {above : List String}
    (chain : (name :: above).IsChain fun inner outer => parents.get? inner = some outer)
    (root : ∀ last ∈ (name :: above).getLast?, parents.get? last = none) : Descends parents name above := by
  induction above generalizing name with
  | nil => exact .root (root name rfl)
  | cons parent above ih =>
    obtain ⟨isParent, chain⟩ := List.isChain_cons_cons.mp chain
    exact .child isParent (ih chain root)

theorem Descends.put {parents : Register String} {name target node : String} {above : List String}
    (descends : Descends parents name above) (fresh : target ∉ name :: above) :
    Descends (parents.put target node) name above := by
  induction descends with
  | @root name none =>
    have different : name ≠ target := (List.ne_of_not_mem_cons fresh).symm
    refine .root ?_
    rw [Register.get?_put, if_neg different, none]
  | @child name parent above isParent _ ih =>
    have different : name ≠ target := (List.ne_of_not_mem_cons fresh).symm
    refine .child ?_ (ih (List.not_mem_of_not_mem_cons fresh))
    rw [Register.get?_put, if_neg different, isParent]

/-- Parents are noted between names that were entered, along dependencies, and lead from each of them to a root. -/
structure Forest (graph : Graph) (search : Search) : Prop where
  edge : ∀ name parent, search.parents.get? name = some parent →
    graph.Edge parent name ∧ Visited search.colours name ∧ Visited search.colours parent
  rooted : ∀ name, Visited search.colours name →
    ∃ above, Descends search.parents name above ∧ (name :: above).Nodup

theorem forest_start (graph : Graph) : Forest graph (start graph) where
  edge name parent isParent := by cases isParent
  rooted name visited := by
    obtain ⟨colour, coloured, notWhite⟩ := visited
    rw [get?_start] at coloured
    split at coloured
    · exact absurd (Option.some.inj coloured).symm notWhite
    · cases coloured

theorem Forest.visited_above (forest : Forest graph search) {name : String} {above : List String}
    (descends : Descends search.parents name above) : ∀ other ∈ above, Visited search.colours other := by
  induction descends with
  | root _ => simp
  | @child name parent above isParent _ ih =>
    intro other member
    rcases List.mem_cons.mp member with rfl | member
    · exact (forest.edge name other isParent).2.2
    · exact ih other member

theorem Forest.keep (forest : Forest graph search) (parents : next.parents = search.parents)
    (visited : ∀ name, Visited next.colours name ↔ Visited search.colours name) : Forest graph next where
  edge name parent isParent := by
    rw [visited, visited]
    exact forest.edge name parent (parents ▸ isParent)
  rooted name isVisited := by
    rw [parents]
    exact forest.rooted name ((visited name).mp isVisited)

section

variable {colours : Register Colour} {parents : Register String} {frames : List Frame} {roots : List String}
  {found : List Cycle}

theorem Forest.enterRoot (forest : Forest graph ⟨colours, parents, frames, roots, found⟩) {root : String}
    (none : parents.get? root = none) (frames' : List Frame) (roots' : List String) :
    Forest graph ⟨colours.put root .gray, parents, frames', roots', found⟩ where
  edge name parent isParent := by
    obtain ⟨edge, visited, visitedParent⟩ := forest.edge name parent isParent
    have gray : Colour.gray ≠ .white := by decide
    exact ⟨edge, (visited_put_iff gray name).mpr (.inr visited), (visited_put_iff gray parent).mpr (.inr visitedParent)⟩
  rooted name visited := by
    rcases (visited_put_iff (by decide) name).mp visited with rfl | before
    · exact ⟨[], .root none, List.nodup_singleton name⟩
    · exact forest.rooted name before

/-- A white name is nobody's parent, so no way to a root changes when its own parent is noted. -/
theorem Forest.enterChild (forest : Forest graph ⟨colours, parents, frames, roots, found⟩) {node target : String}
    (white : colours.get? target = some .white) (visitedNode : Visited colours node) (edge : graph.Edge node target)
    (frames' : List Frame) :
    Forest graph ⟨colours.put target .gray, parents.put target node, frames', roots, found⟩ := by
  have gray : Colour.gray ≠ .white := by decide
  have keeps : ∀ {name above}, Visited colours name → Descends parents name above → target ∉ name :: above := by
    intro name above visited descends member
    rcases List.mem_cons.mp member with rfl | member
    · exact not_visited_of_white white visited
    · exact not_visited_of_white white (forest.visited_above descends target member)
  constructor
  case edge =>
    intro name parent isParent
    change (parents.put target node).get? name = some parent at isParent
    rw [visited_put_iff gray, visited_put_iff gray]
    rw [Register.get?_put] at isParent
    split at isParent
    · rename_i same
      cases isParent
      exact ⟨same ▸ edge, .inl same, .inr visitedNode⟩
    · obtain ⟨edge, visited, visitedParent⟩ := forest.edge name parent isParent
      exact ⟨edge, .inr visited, .inr visitedParent⟩
  case rooted =>
    intro name visited
    rcases (visited_put_iff gray name).mp visited with rfl | before
    · obtain ⟨above, descends, nodup⟩ := forest.rooted node visitedNode
      have fresh := keeps visitedNode descends
      exact ⟨node :: above, .child (Register.get?_put_self _ _ _) (descends.put fresh),
        List.nodup_cons.mpr ⟨fresh, nodup⟩⟩
    · obtain ⟨above, descends, nodup⟩ := forest.rooted name before
      exact ⟨above, descends.put (keeps before descends), nodup⟩

end

theorem Forest.step (forest : Forest graph search) (orderly : Orderly graph search) (lineal : Lineal search)
    (step : Step graph search next) : Forest graph next := by
  cases step with
  | @leave colours _ node _ _ _ =>
    have visitedNode : Visited colours node := ⟨.gray, (orderly.gray node).mpr List.mem_cons_self, by decide⟩
    refine forest.keep rfl fun name => ?_
    rw [visited_put_iff (by decide)]
    constructor
    · rintro (rfl | visited)
      · exact visitedNode
      · exact visited
    · exact .inr
  | pass _ _ => exact forest.keep rfl fun _ => Iff.rfl
  | close _ => exact forest.keep rfl fun _ => Iff.rfl
  | @descend colours _ node _ _ _ _ _ white =>
    have visitedNode : Visited colours node := ⟨.gray, (orderly.gray node).mpr List.mem_cons_self, by decide⟩
    exact forest.enterChild white visitedNode (orderly.edge white) _
  | skip _ => exact forest.keep rfl fun _ => Iff.rfl
  | @enter _ _ root _ _ white => exact forest.enterRoot (lineal.white root white) _ _

theorem Reachable.forest (reachable : Reachable graph search) : Forest graph search := by
  induction reachable with
  | refl => exact forest_start graph
  | tail reachable step ih => exact ih.step (Reachable.orderly reachable) (Reachable.lineal reachable) step

/-- The names that a walk along parents comes to, which ends at a root or where a parent is the target. -/
inductive Walks (parents : Register String) (target : String) : String → List String → Prop where
  | root {name : String} (none : parents.get? name = none) : Walks parents target name []
  | met {name : String} (isTarget : parents.get? name = some target) : Walks parents target name []
  | climb {name parent : String} {names : List String} (isParent : parents.get? name = some parent)
      (other : parent ≠ target) (walks : Walks parents target parent names) :
      Walks parents target name (parent :: names)

theorem Descends.walks {parents : Register String} {name : String} {above : List String}
    (descends : Descends parents name above) (target : String) (fuel : Nat) (enough : above.length ≤ fuel) :
    Walks parents target name (ancestors parents target fuel name) ∧
      (ancestors parents target fuel name).length ≤ above.length := by
  induction descends generalizing fuel with
  | @root name none =>
    have ended : ancestors parents target fuel name = [] := by
      cases fuel with
      | zero => rfl
      | succ fuel => simp [ancestors, none]
    rw [ended]
    exact ⟨.root none, Nat.zero_le _⟩
  | @child name parent above isParent _ ih =>
    obtain ⟨fuel, rfl⟩ := Nat.exists_eq_add_one_of_ne_zero (Nat.ne_of_gt (Nat.zero_lt_of_lt enough))
    obtain ⟨walks, bound⟩ := ih fuel (Nat.le_of_succ_le_succ enough)
    by_cases met : parent = target
    · have ended : ancestors parents target (fuel + 1) name = [] := by simp [ancestors, isParent, met]
      rw [ended]
      exact ⟨.met (met ▸ isParent), Nat.zero_le _⟩
    · have climbed : ancestors parents target (fuel + 1) name = parent :: ancestors parents target fuel parent := by
        simp [ancestors, isParent, met]
      rw [climbed]
      exact ⟨.climb isParent met walks, Nat.succ_le_succ bound⟩

/-- The search ends, has then entered and left every plugin once, and at each moment its gray names are its stack, its
parents are a forest in which the stack is the way to the root, and every walk from the innermost name is short. -/
theorem finish_visits_once (graph : Graph) :
    step? graph (finish graph) = none ∧
      (∀ name, (visits graph (stepLimit graph) (start graph)).count name = if graph.contains name then 1 else 0) ∧
      (∀ name, graph.contains name = true → (finish graph).colours.get? name = some .black) ∧
      ∀ moment, let search := run graph moment (start graph)
        (∀ name, search.colours.get? name = some .gray ↔ name ∈ search.stack) ∧
        Forest graph search ∧
        ∀ node outer, search.stack = node :: outer →
          Descends search.parents node outer ∧
          ∀ target, Walks search.parents target node (ancestors search.parents target graph.length node) ∧
            (ancestors search.parents target graph.length node).length < graph.length := by
  refine ⟨run_ended (weight_start graph).le, fun name => ?_, fun name => finish_black, fun moment => ?_⟩
  · have counted : (visits graph (stepLimit graph) (start graph)).count name + whiteCount (finish graph) name =
        whiteCount (start graph) name := count_visits .refl (stepLimit graph) name
    rw [whiteCount_start, whiteCount_finish] at counted
    exact counted
  · intro search
    have reachable : Reachable graph search := run_reachable moment .refl
    have orderly := reachable.orderly
    have lineal := reachable.lineal
    refine ⟨orderly.gray, reachable.forest, fun node outer innermost => ?_⟩
    have descends : Descends search.parents node outer :=
      descends_of_chain (innermost ▸ lineal.chain) (innermost ▸ lineal.root)
    have bound := orderly.length_stack_le
    rw [innermost, List.length_cons] at bound
    refine ⟨descends, fun target => ?_⟩
    obtain ⟨walks, short⟩ := descends.walks target graph.length (by omega)
    exact ⟨walks, by omega⟩

def hail : Graph :=
  .ofPlugins [⟨"Hail.js", "Hail", [], ["Ice"], [], [], ""⟩, ⟨"Ice.js", "Ice", [], ["Ice"], ["Hail"], [], ""⟩]

theorem finish_visits_once_hail :
    let search := run hail 2 (start hail)
    hail.contains "Ice" = true ∧ (finish hail).colours.get? "Ice" = some .black ∧
      search.stack = ["Ice", "Hail"] ∧ Descends search.parents "Ice" ["Hail"] ∧
      Walks search.parents "Ice" "Ice" ["Hail"] ∧ ["Hail"].length < hail.length := by
  have contained : hail.contains "Ice" = true := by decide
  have innermost : (run hail 2 (start hail)).stack = ["Ice", "Hail"] := by decide
  have walked : ancestors (run hail 2 (start hail)).parents "Ice" hail.length "Ice" = ["Hail"] := by decide
  obtain ⟨-, -, black, moments⟩ := finish_visits_once hail
  obtain ⟨-, -, stacked⟩ := moments 2
  obtain ⟨descends, walks⟩ := stacked "Ice" ["Hail"] innermost
  have itself := walks "Ice"
  rw [walked] at itself
  exact ⟨contained, black "Ice" contained, innermost, descends, itself⟩

end Search

end PluginAudit.Dependency
