import PluginAudit.Dependency.Check
import PluginAudit.Proofs.Dependency.Stack

namespace PluginAudit.Dependency

namespace Search

variable {graph : Graph} {search next : Search}

structure Lineal (search : Search) : Prop where
  -- Parents are set when a name is entered, and never taken back.
  white : ∀ name, search.colours.get? name = some .white → search.parents.get? name = none
  root : ∀ name ∈ search.stack.getLast?, search.parents.get? name = none
  chain : search.stack.IsChain fun inner outer => search.parents.get? inner = some outer

theorem lineal_start (graph : Graph) : Lineal (start graph) where
  white _ _ := rfl
  root _ last := by cases last
  chain := .nil

section

variable {colours : Register Colour} {parents : Register String} {roots : List String} {found : List Cycle}

theorem Lineal.pop {node : String} {outer : List Frame}
    (lineal : Lineal ⟨colours, parents, ⟨node, []⟩ :: outer, roots, found⟩) :
    Lineal ⟨colours.put node .black, parents, outer, roots, found⟩ where
  white name isWhite := lineal.white name (Register.get?_of_get?_put isWhite (by decide))
  root name last := by
    apply lineal.root
    cases outer with
    | nil => cases last
    | cons frame rest => exact last
  chain := lineal.chain.tail

theorem Lineal.push {node target : String} {pending pending' : List String} {outer : List Frame}
    (lineal : Lineal ⟨colours, parents, ⟨node, pending⟩ :: outer, roots, found⟩)
    (fresh : target ∉ node :: outer.map (·.node)) :
    Lineal ⟨colours.put target .gray, parents.put target node,
      ⟨target, graph.targets target⟩ :: ⟨node, pending'⟩ :: outer, roots, found⟩ := by
  -- The new name is not on the stack, so no parent on the stack changes.
  have same : ∀ name ∈ node :: outer.map (·.node), (parents.put target node).get? name = parents.get? name := by
    intro name member
    have different : name ≠ target := fun equal => fresh (equal ▸ member)
    rw [Register.get?_put, if_neg different]
  constructor
  case white =>
    intro name isWhite
    have different : name ≠ target := by
      rintro rfl
      rw [Register.get?_put, if_pos rfl] at isWhite
      cases isWhite
    rw [Register.get?_put, if_neg different]
    exact lineal.white name (Register.get?_of_get?_put isWhite (by decide))
  case root =>
    intro name last
    have bottom : name ∈ (node :: outer.map (·.node)).getLast? := last
    change (parents.put target node).get? name = none
    rw [same name (List.mem_of_getLast? bottom)]
    exact lineal.root name bottom
  case chain =>
    refine List.isChain_cons_cons.mpr ⟨?_, ?_⟩
    · change (parents.put target node).get? target = some node
      rw [Register.get?_put, if_pos rfl]
    · refine List.IsChain.imp_of_mem_imp ?_ lineal.chain
      intro inner outer inside _ isParent
      exact (same inner inside).trans isParent

end

theorem Lineal.step (lineal : Lineal search) (orderly : Orderly graph search) (step : Step graph search next) :
    Lineal next := by
  cases step with
  | leave => exact lineal.pop
  | pass _ _ => exact ⟨lineal.white, lineal.root, lineal.chain⟩
  | close _ => exact ⟨lineal.white, lineal.root, lineal.chain⟩
  | @descend colours parents node target pending outer roots found white =>
    apply lineal.push
    intro member
    have gray := (orderly.gray target).mpr member
    rw [white] at gray
    cases gray
  | skip _ => exact ⟨lineal.white, lineal.root, lineal.chain⟩
  | @enter colours parents root roots found white =>
    refine ⟨fun name isWhite => ?_, fun name last => ?_, .singleton _⟩
    · exact lineal.white name (Register.get?_of_get?_put isWhite (by decide))
    · cases last
      exact lineal.white root white

theorem Reachable.lineal (reachable : Reachable graph search) : Lineal search := by
  induction reachable with
  | refl => exact lineal_start graph
  | tail reachable step ih => exact ih.step (Reachable.orderly reachable) step

theorem ancestors_eq {parents : Register String} {node target : String} {between rest : List String} {fuel : Nat}
    (chain : (node :: (between ++ target :: rest)).IsChain fun inner outer => parents.get? inner = some outer)
    (absent : target ∉ between) (enough : between.length < fuel) : ancestors parents target fuel node = between := by
  induction between generalizing node fuel with
  | nil =>
    obtain ⟨fuel, rfl⟩ := Nat.exists_eq_add_one_of_ne_zero (Nat.ne_of_gt enough)
    obtain ⟨isParent, -⟩ := List.isChain_cons_cons.mp chain
    simp [ancestors, isParent]
  | cons parent between ih =>
    obtain ⟨fuel, rfl⟩ := Nat.exists_eq_add_one_of_ne_zero (Nat.ne_of_gt (Nat.zero_lt_of_lt enough))
    obtain ⟨isParent, chain⟩ := List.isChain_cons_cons.mp chain
    have different : parent ≠ target := (List.ne_of_not_mem_cons absent).symm
    have walked := ih chain (List.not_mem_of_not_mem_cons absent) (Nat.lt_of_succ_lt_succ enough)
    simp [ancestors, isParent, different, walked]

theorem Orderly.contains_of_mem (orderly : Orderly graph search) {name : String} (member : name ∈ search.stack) :
    graph.contains name = true := by
  have gray := (orderly.gray name).mpr member
  exact (orderly.known name).mp (by rw [gray]; rfl)

theorem Orderly.length_stack_le (orderly : Orderly graph search) : search.stack.length ≤ graph.length := by
  have known : search.stack ⊆ graph.names :=
    fun name member => (graph.contains_iff name).mp (orderly.contains_of_mem member)
  have bound := (orderly.nodup.subperm known).length_le
  simpa [Register.names] using bound

/-- The search comes to a dependency of `node` on a name that is on the stack, and notes a cycle. -/
inductive Closes (graph : Graph) (node target : String) : Cycle → Prop where
  | intro {search : Search} {pending : List String} {outer : List Frame} (reachable : Reachable graph search)
      (innermost : search.frames = ⟨node, target :: pending⟩ :: outer)
      (gray : search.colours.get? target = some .gray) :
      Closes graph node target ⟨node, path graph search.parents node target⟩

theorem Reachable.closes_of_found (reachable : Reachable graph search) {cycle : Cycle} (member : cycle ∈ search.found) :
    ∃ node target, Closes graph node target cycle := by
  induction reachable with
  | refl => cases member
  | tail reachable step ih =>
    cases step with
    | @close colours parents node target pending outer roots found gray =>
      rcases List.mem_append.mp member with earlier | latest
      · exact ih earlier
      · rw [List.mem_singleton.mp latest]
        exact ⟨node, target, .intro reachable rfl gray⟩
    | _ => exact ih member

/-- What stands on the stack between the two ends of a dependency that closes a cycle is what its path shows. -/
theorem Closes.exists_between {node target : String} {cycle : Cycle} (closes : Closes graph node target cycle)
    (different : node ≠ target) :
    ∃ between, cycle = ⟨node, between.reverse ++ [node, target]⟩ ∧
      (∀ name ∈ node :: (between ++ [target]), graph.contains name = true) ∧
      (node :: (between ++ [target])).Nodup ∧
      (node :: (between ++ [target])).IsChain (fun inner outer => graph.Edge outer inner) ∧
      graph.Edge node target := by
  cases closes with
  | @intro search pending outer reachable innermost gray =>
  have orderly := reachable.orderly
  have lineal := reachable.lineal
  obtain ⟨colours, parents, frames, roots, found⟩ := search
  cases innermost
  have onStack : target ∈ node :: outer.map (·.node) := (orderly.gray target).mp gray
  obtain ⟨between, rest, split⟩ := List.append_of_mem (List.mem_of_ne_of_mem (Ne.symm different) onStack)
  have stack : node :: outer.map (·.node) = (node :: (between ++ [target])) ++ rest := by simp [split]
  have nodup : ((node :: (between ++ [target])) ++ rest).Nodup := stack ▸ orderly.nodup
  have chain : ((node :: (between ++ [target])) ++ rest).IsChain fun inner outer => graph.Edge outer inner :=
    stack ▸ orderly.chain
  have parental : (node :: (between ++ target :: rest)).IsChain fun inner outer => parents.get? inner = some outer :=
    split ▸ lineal.chain
  have absent : target ∉ between := by
    intro member
    have once := List.nodup_append.mp (List.nodup_cons.mp nodup.of_append_left).2
    exact once.2.2 target member target (List.mem_singleton.mpr rfl) rfl
  have enough : between.length < graph.length := by
    have bound := orderly.length_stack_le
    simp only [Search.stack, List.map_cons, stack, List.length_append, List.length_cons] at bound
    omega
  refine ⟨between, ?_, fun name member => ?_, nodup.of_append_left, chain.left_of_append, orderly.edge gray⟩
  · simp [path, ancestors_eq parental absent enough]
  · apply orderly.contains_of_mem
    change name ∈ node :: outer.map (·.node)
    rw [stack]
    exact List.mem_append_left rest member

end Search

/-- A walk along dependencies that comes through no plugin twice, and from its last plugin back to its first. -/
structure SimpleCycle (graph : Graph) (path : List String) : Prop where
  plugins : ∀ name ∈ path, graph.contains name = true
  nodup : path.Nodup
  chain : path.IsChain graph.Edge
  closed : ∀ last ∈ path.getLast?, ∀ first ∈ path.head?, graph.Edge last first

theorem simpleCycle_of_stack {graph : Graph} {node target : String} {between : List String}
    (plugins : ∀ name ∈ node :: (between ++ [target]), graph.contains name = true)
    (nodup : (node :: (between ++ [target])).Nodup)
    (chain : (node :: (between ++ [target])).IsChain fun inner outer => graph.Edge outer inner)
    (edge : graph.Edge node target) : SimpleCycle graph (between.reverse ++ [node, target]) := by
  -- From the target up the stack to the node, along dependencies.
  have upward : (target :: (between.reverse ++ [node])).IsChain graph.Edge := by
    have turned := List.isChain_reverse.mpr chain
    simpa using turned
  obtain ⟨first, inner⟩ := List.isChain_cons.mp upward
  have split : between.reverse ++ [node, target] = (between.reverse ++ [node]) ++ [target] := by simp
  have turned : (between.reverse ++ [node, target]).Perm (node :: (between ++ [target])) := by
    rw [split]
    have inner : (between.reverse ++ [node]).Perm (node :: between) :=
      ((List.reverse_perm between).append_right [node]).trans (List.perm_append_singleton node between)
    exact inner.append_right [target]
  constructor
  case plugins => exact fun name member => plugins name (turned.mem_iff.mp member)
  case nodup => exact turned.nodup_iff.mpr nodup
  case chain =>
    rw [split]
    refine inner.append (.singleton target) fun last isLast other isTarget => ?_
    simp only [List.getLast?_append, List.getLast?_singleton, List.head?_cons, Option.mem_def] at isLast isTarget
    cases isLast
    cases isTarget
    exact edge
  case closed =>
    intro last isLast other isFirst
    rw [split] at isLast isFirst
    simp only [List.getLast?_append, List.getLast?_singleton, Option.mem_def] at isLast
    cases isLast
    apply first
    rw [List.head?_append_of_ne_nil _ (by simp)] at isFirst
    exact isFirst

/-- A cycle is noted for a dependency on a name that is on the stack, and its path ends with the two names of this
dependency. Unless a plugin depends on itself, the path is a simple cycle. -/
theorem Graph.cycles_simple {graph : Graph} {cycle : Cycle} (member : cycle ∈ graph.cycles) :
    ∃ node target, Search.Closes graph node target cycle ∧ (∃ front, cycle.path = front ++ [node, target]) ∧
      (Issue.circular cycle).pluginName = node ∧ (Issue.circular cycle).details = some (listed " -> " cycle.path) ∧
      (node ≠ target → 2 ≤ cycle.path.length ∧ SimpleCycle graph cycle.path) := by
  obtain ⟨node, target, closes⟩ := (Search.finish_reachable graph).closes_of_found member
  refine ⟨node, target, closes, ?_, ?_, rfl, fun different => ?_⟩
  · cases closes with
    | @intro search pending outer reachable innermost gray =>
      exact ⟨(Search.ancestors search.parents target graph.length node).reverse, by simp [Search.path]⟩
  · cases closes
    rfl
  · obtain ⟨between, rfl, plugins, nodup, chain, edge⟩ := closes.exists_between different
    exact ⟨by simp, simpleCycle_of_stack plugins nodup chain edge⟩

/-- Rain needs clouds, clouds need wind, and wind needs rain again; thunder needs rain, but is on no cycle. -/
def weather : List Plugin :=
  [⟨"Thunder.js", "Thunder", [], ["Rain"], [], [], ""⟩, ⟨"Rain.js", "Rain", [], ["Cloud"], [], [], ""⟩,
    ⟨"Cloud.js", "Cloud", [], ["Sky"], ["Wind"], [], ""⟩, ⟨"Wind.js", "Wind", [], [], ["Rain"], [], ""⟩]

theorem Graph.cycles_simple_weather :
    (ofPlugins weather).cycles = [⟨"Wind", ["Cloud", "Wind", "Rain"]⟩] ∧
      SimpleCycle (ofPlugins weather) ["Cloud", "Wind", "Rain"] := by
  have found : (ofPlugins weather).cycles = [⟨"Wind", ["Cloud", "Wind", "Rain"]⟩] := by decide
  refine ⟨found, ?_⟩
  obtain ⟨node, target, -, ⟨front, ends⟩, -, -, simple⟩ :=
    @cycles_simple (ofPlugins weather) _ (found ▸ List.mem_singleton.mpr rfl)
  have different : node ≠ target := by
    have last := congrArg List.reverse ends
    simp only [List.reverse_append, List.reverse_cons, List.reverse_nil, List.nil_append, List.cons_append,
      List.cons.injEq] at last
    obtain ⟨rfl, rfl, -⟩ := last
    decide
  exact (simple different).2

end PluginAudit.Dependency
