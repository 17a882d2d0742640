import PluginAudit.Proofs.Dependency.Cycles
import PluginAudit.Proofs.Dependency.Lineage

namespace PluginAudit.Dependency

open Relation (ReflTransGen)

namespace Search

variable {graph : Graph} {search next : Search}

def Tells (found : List Cycle) (name : String) : Prop :=
  ∃ cycle ∈ found, [name, name] <:+ cycle.path

theorem suffix_path (graph : Graph) (parents : Register String) (node target : String) :
    [node, target] <:+ path graph parents node target := by
  rw [path, List.reverse_cons, List.reverse_cons, List.append_assoc]
  exact List.suffix_append _ _

structure Seen (search : Search) (name target : String) : Prop where
  entered : search.colours.get? target ≠ some .white
  told : name = target → Tells search.found name

theorem Step.white (step : Step graph search next) {name : String} (white : next.colours.get? name = some .white) :
    search.colours.get? name = some .white := by
  cases step with
  | leave => exact Register.get?_of_get?_put white (by decide)
  | descend _ => exact Register.get?_of_get?_put white (by decide)
  | enter _ => exact Register.get?_of_get?_put white (by decide)
  | _ => exact white

theorem Step.black (step : Step graph search next) {name : String}
    (black : search.colours.get? name = some .black) : next.colours.get? name = some .black := by
  have entered : ∀ {colours : Register Colour} {target : String}, colours.get? name = some .black →
      colours.get? target = some .white → (colours.put target .gray).get? name = some .black := by
    intro colours target black white
    have different : name ≠ target := by
      rintro rfl
      rw [white] at black
      cases black
    rwa [Register.get?_put_of_ne _ _ different]
  cases step with
  | leave =>
    rw [Register.get?_put]
    split
    · rfl
    · exact black
  | descend white => exact entered black white
  | enter white => exact entered black white
  | _ => exact black

theorem Step.found_subset (step : Step graph search next) : search.found ⊆ next.found := by
  cases step with
  | close _ => exact List.subset_append_left _ _
  | _ => exact List.Subset.refl _

theorem Seen.step {name target : String} (seen : Seen search name target) (step : Step graph search next) :
    Seen next name target where
  entered white := seen.entered (step.white white)
  told same := by
    obtain ⟨cycle, member, suffix⟩ := seen.told same
    exact ⟨cycle, step.found_subset member, suffix⟩

/-- Every dependency of a name that was left was looked at, and of a name on the stack, all that are not pending. -/
structure Covered (graph : Graph) (search : Search) : Prop where
  left : ∀ name target, search.colours.get? name = some .black → graph.Edge name target → Seen search name target
  stacked : ∀ frame ∈ search.frames, ∀ target, graph.Edge frame.node target →
    target ∈ frame.pending ∨ Seen search frame.node target

theorem covered_start (graph : Graph) : Covered graph (start graph) where
  left name target black _ := by
    rw [get?_start] at black
    split at black <;> cases black
  stacked frame member := by cases member

/-- A step that leaves no name keeps what is covered, if the frames that it leaves on the stack are covered. -/
theorem Covered.keep (covered : Covered graph search) (step : Step graph search next)
    (left : ∀ name, next.colours.get? name = some .black → search.colours.get? name = some .black)
    (stacked : ∀ frame ∈ next.frames, frame ∈ search.frames ∨
      ∀ target, graph.Edge frame.node target → target ∈ frame.pending ∨ Seen next frame.node target) :
    Covered graph next where
  left name target black edge := (covered.left name target (left name black) edge).step step
  stacked frame member target edge := by
    rcases stacked frame member with old | new
    · exact (covered.stacked frame old target edge).imp_right (·.step step)
    · exact new target edge

theorem Covered.advance {node target : String} {pending : List String} {outer : List Frame}
    (covered : Covered graph search) (innermost : search.frames = ⟨node, target :: pending⟩ :: outer)
    (step : Step graph search next) (seen : Seen next node target) :
    ∀ frame ∈ ⟨node, pending⟩ :: outer, frame ∈ search.frames ∨
      ∀ other, graph.Edge frame.node other → other ∈ frame.pending ∨ Seen next frame.node other := by
  intro frame member
  rw [innermost]
  rcases List.mem_cons.mp member with rfl | member
  · right
    intro other edge
    have here : ⟨node, target :: pending⟩ ∈ search.frames := innermost ▸ List.mem_cons_self
    rcases covered.stacked _ here other edge with waiting | before
    · rcases List.mem_cons.mp waiting with rfl | waiting
      · exact .inr seen
      · exact .inl waiting
    · exact .inr (before.step step)
  · exact .inl (List.mem_cons_of_mem _ member)

theorem Covered.step (covered : Covered graph search) (orderly : Orderly graph search)
    (step : Step graph search next) : Covered graph next := by
  have taken := step
  cases step with
  | @leave colours parents node outer roots found =>
    constructor
    · intro name target black edge
      by_cases same : name = node
      · subst same
        rcases covered.stacked _ List.mem_cons_self target edge with pending | seen
        · cases pending
        · exact seen.step taken
      · rw [Register.get?_put_of_ne _ _ same] at black
        exact (covered.left name target black edge).step taken
    · intro frame member target edge
      exact (covered.stacked frame (List.mem_cons_of_mem _ member) target edge).imp_right (·.step taken)
  | @pass colours parents node target pending outer roots found notWhite notGray =>
    have seen : Seen ⟨colours, parents, ⟨node, pending⟩ :: outer, roots, found⟩ node target := by
      refine ⟨notWhite, ?_⟩
      rintro rfl
      exact absurd ((orderly.gray node).mpr List.mem_cons_self) notGray
    exact covered.keep taken (fun _ black => black) (covered.advance rfl taken seen)
  | @close colours parents node target pending outer roots found gray =>
    have seen : Seen ⟨colours, parents, ⟨node, pending⟩ :: outer, roots,
        found ++ [⟨node, path graph parents node target⟩]⟩ node target := by
      refine ⟨by simp [gray], ?_⟩
      rintro rfl
      exact ⟨_, List.mem_append_right _ (List.mem_singleton.mpr rfl), suffix_path graph parents node node⟩
    exact covered.keep taken (fun _ black => black) (covered.advance rfl taken seen)
  | @descend colours parents node target pending outer roots found white =>
    have seen : Seen ⟨colours.put target .gray, parents.put target node,
        ⟨target, graph.targets target⟩ :: ⟨node, pending⟩ :: outer, roots, found⟩ node target := by
      refine ⟨by simp [Register.get?_put_self], ?_⟩
      rintro rfl
      have gray := (orderly.gray node).mpr List.mem_cons_self
      rw [white] at gray
      cases gray
    refine covered.keep taken (fun _ black => Register.get?_of_get?_put black (by decide)) fun frame member => ?_
    rcases List.mem_cons.mp member with rfl | member
    · exact .inr fun other edge => .inl edge.1
    · exact covered.advance rfl taken seen frame member
  | skip notWhite => exact covered.keep taken (fun _ black => black) fun _ member => .inl member
  | enter white =>
    refine covered.keep taken (fun _ black => Register.get?_of_get?_put black (by decide)) fun frame member => ?_
    rw [List.mem_singleton.mp member]
    exact .inr fun other edge => .inl edge.1

theorem Reachable.covered (reachable : Reachable graph search) : Covered graph search := by
  induction reachable with
  | refl => exact covered_start graph
  | tail reachable step ih => exact ih.step (Reachable.orderly reachable) step

theorem Covered.black_of_reaches (covered : Covered graph search) (orderly : Orderly graph search)
    (empty : search.frames = []) {name target : String} (black : search.colours.get? name = some .black)
    (reaches : ReflTransGen graph.Edge name target) : search.colours.get? target = some .black := by
  induction reaches with
  | refl => exact black
  | tail _ edge ih => exact orderly.black_of_not_white empty edge.2.2 (covered.left _ _ ih edge).entered

/-- Names from which the search has started and to which it has come back, in the order of the graph; all that they lead
to is left. -/
structure Done (graph : Graph) (search : Search) (tried : List String) : Prop where
  order : graph.names = tried ++ (search.stack.getLast?.toList ++ search.roots)
  black : ∀ root ∈ tried, ∀ name, ReflTransGen graph.Edge root name → search.colours.get? name = some .black

theorem done_start (graph : Graph) : Done graph (start graph) [] where
  order := rfl
  black root member := by cases member

theorem Done.keep {tried : List String} (done : Done graph search tried) (step : Step graph search next)
    (order : next.stack.getLast?.toList ++ next.roots = search.stack.getLast?.toList ++ search.roots) :
    Done graph next tried where
  order := order ▸ done.order
  black root member name reaches := step.black (done.black root member name reaches)

theorem Done.add {tried : List String} {root : String} (done : Done graph search tried)
    (step : Step graph search next) (covered : Covered graph next) (orderly : Orderly graph next)
    (empty : next.frames = []) (order : search.stack.getLast?.toList ++ search.roots = root :: next.roots)
    (black : next.colours.get? root = some .black) : Done graph next (tried ++ [root]) where
  order := by
    rw [done.order, order, stack, empty]
    simp
  black earlier member name reaches := by
    rcases List.mem_append.mp member with before | last
    · exact step.black (done.black earlier before name reaches)
    · rw [List.mem_singleton.mp last] at reaches
      exact covered.black_of_reaches orderly empty black reaches

theorem Done.step {tried : List String} (done : Done graph search tried) (orderly : Orderly graph search)
    (step : Step graph search next) (covered : Covered graph next) (orderlyNext : Orderly graph next) :
    ∃ tried, Done graph next tried := by
  have taken := step
  cases step with
  | @leave colours parents node outer roots found =>
    cases outer with
    | nil => exact ⟨_, done.add taken covered orderlyNext rfl rfl (Register.get?_put_self _ _ _)⟩
    | cons frame outer => exact ⟨tried, done.keep taken (by simp [stack])⟩
  | pass _ _ => exact ⟨tried, done.keep taken rfl⟩
  | close _ => exact ⟨tried, done.keep taken rfl⟩
  | descend _ => exact ⟨tried, done.keep taken (by simp [stack])⟩
  | @skip colours parents root roots found notWhite =>
    have contained : graph.contains root = true := by
      rw [graph.contains_iff, done.order]
      simp [stack]
    exact ⟨_, done.add taken covered orderlyNext rfl rfl (orderly.black_of_not_white rfl contained notWhite)⟩
  | enter _ => exact ⟨tried, done.keep taken rfl⟩

theorem Reachable.done (reachable : Reachable graph search) : ∃ tried, Done graph search tried := by
  induction reachable with
  | refl => exact ⟨[], done_start graph⟩
  | tail reachable step ih =>
    obtain ⟨tried, done⟩ := ih
    have next := Relation.ReflTransGen.tail reachable step
    exact done.step (Reachable.orderly reachable) step (Reachable.covered next) (Reachable.orderly next)

theorem Reachable.root_first (reachable : Reachable graph search) {root name : String}
    (bottom : search.stack.getLast? = some root) (member : name ∈ search.stack) {earlier : String}
    (before : graph.names.idxOf earlier < graph.names.idxOf root) : ¬ ReflTransGen graph.Edge earlier name := by
  obtain ⟨tried, done⟩ := reachable.done
  have orderly := reachable.orderly
  intro reaches
  have order : graph.names = tried ++ root :: search.roots := by
    have split := done.order
    rwa [bottom] at split
  have notLeft : ∀ other ∈ search.stack, ∀ start ∈ tried, ¬ ReflTransGen graph.Edge start other := by
    intro other onStack start isTried leads
    have gray := (orderly.gray other).mpr onStack
    rw [done.black start isTried other leads] at gray
    cases gray
  have rootNew : root ∉ tried := fun isTried => notLeft root (List.mem_of_getLast? bottom) root isTried .refl
  have isTried : earlier ∈ tried := by
    by_contra absent
    rw [order, List.idxOf_append_of_notMem rootNew, List.idxOf_append_of_notMem absent] at before
    simp at before
  exact notLeft name member earlier isTried reaches

/-- Where the target is not among the parents, the walk along them ends at the root. -/
theorem ancestors_all {parents : Register String} {node target : String} {rest : List String} {fuel : Nat}
    (chain : (node :: rest).IsChain fun inner outer => parents.get? inner = some outer)
    (root : ∀ last ∈ (node :: rest).getLast?, parents.get? last = none) (absent : target ∉ rest)
    (enough : rest.length ≤ fuel) : ancestors parents target fuel node = rest := by
  induction rest generalizing node fuel with
  | nil =>
    have none : parents.get? node = none := root node rfl
    cases fuel with
    | zero => rfl
    | succ fuel => simp [ancestors, none]
  | cons parent rest ih =>
    obtain ⟨fuel, rfl⟩ := Nat.exists_eq_add_one_of_ne_zero (Nat.ne_of_gt (Nat.zero_lt_of_lt enough))
    obtain ⟨isParent, chain⟩ := List.isChain_cons_cons.mp chain
    have different : parent ≠ target := (List.ne_of_not_mem_cons absent).symm
    have walked := ih chain root (List.not_mem_of_not_mem_cons absent) (Nat.le_of_succ_le_succ enough)
    simp [ancestors, isParent, different, walked]

end Search

/-- The first plugin, in the order of the graph, that has a name or leads to it. -/
structure Graph.Origin (graph : Graph) (name root : String) : Prop where
  leads : ReflTransGen graph.Edge root name
  first : ∀ earlier, graph.names.idxOf earlier < graph.names.idxOf root → ¬ ReflTransGen graph.Edge earlier name

theorem Graph.Origin.unique {graph : Graph} {name root other : String} (origin : graph.Origin name root)
    (otherOrigin : graph.Origin name other) (contained : root ∈ graph.names) : root = other := by
  have notBefore : ¬ graph.names.idxOf other < graph.names.idxOf root :=
    fun before => origin.first other before otherOrigin.leads
  have notBehind : ¬ graph.names.idxOf root < graph.names.idxOf other :=
    fun behind => otherOrigin.first root behind origin.leads
  exact (List.idxOf_inj contained).mp (by omega)

namespace Search

variable {graph : Graph}

theorem Closes.path_itself {name : String} {cycle : Cycle} (closes : Closes graph name name cycle) :
    ∃ trail root, cycle = ⟨name, trail ++ [name]⟩ ∧ trail.getLast? = some name ∧ trail.head? = some root ∧
      trail.Nodup ∧ trail.IsChain graph.Edge ∧ graph.Origin name root := by
  cases closes with
  | @intro search pending outer reachable innermost gray =>
  have orderly := reachable.orderly
  have lineal := reachable.lineal
  have rootFirst := @Reachable.root_first _ _ reachable
  have bound := orderly.length_stack_le
  obtain ⟨colours, parents, frames, roots, found⟩ := search
  cases innermost
  have nodup : (name :: outer.map (·.node)).Nodup := orderly.nodup
  have walked : ancestors parents name graph.length name = outer.map (·.node) := by
    refine ancestors_all lineal.chain lineal.root (List.nodup_cons.mp nodup).1 ?_
    simp only [stack, List.map_cons, List.length_cons] at bound
    omega
  obtain ⟨root, bottom⟩ : ∃ root, (name :: outer.map (·.node)).getLast? = some root :=
    ⟨_, List.getLast?_eq_getLast_of_ne_nil (List.cons_ne_nil _ _)⟩
  have chain : (name :: outer.map (·.node)).reverse.IsChain graph.Edge := List.isChain_reverse.mpr orderly.chain
  refine ⟨(name :: outer.map (·.node)).reverse, root, ?_, ?_, ?_, List.nodup_reverse.mpr nodup, chain, ?_⟩
  · rw [path, walked, List.reverse_cons]
  · rw [List.getLast?_reverse]
    rfl
  · rw [List.head?_reverse, bottom]
  · refine ⟨reaches_innermost orderly.chain (List.mem_of_getLast? bottom), fun earlier before => ?_⟩
    exact rootFirst bottom List.mem_cons_self before

end Search

/-- A name that is first and last on a walk without repetitions is all of it. -/
theorem eq_singleton_of_ends {name : String} {trail : List String} (nodup : trail.Nodup)
    (first : trail.head? = some name) (last : trail.getLast? = some name) : trail = [name] := by
  obtain ⟨rest, rfl⟩ := List.head?_eq_some_iff.mp first
  cases rest with
  | nil => rfl
  | cons next rest =>
    have again : name ∈ next :: rest := List.mem_of_getLast? last
    exact absurd again (List.nodup_cons.mp nodup).1

/-- For a plugin that depends on itself a cycle is noted. Its path goes along dependencies from the first plugin that
leads to it, comes through no plugin twice, and names it once more at the end; it names no other plugin exactly if no
earlier one leads to it. -/
theorem Graph.cycles_itself {graph : Graph} {name : String} (itself : graph.Edge name name) :
    (∃ cycle ∈ graph.cycles, [name, name] <:+ cycle.path) ∧
      ∀ cycle ∈ graph.cycles, [name, name] <:+ cycle.path →
        (Issue.circular cycle).pluginName = name ∧
        (∃ trail root, cycle.path = trail ++ [name] ∧ trail.head? = some root ∧ trail.Nodup ∧
          trail.IsChain graph.Edge ∧ graph.Origin name root) ∧
        ((∀ other ∈ cycle.path, other = name) ↔ graph.Origin name name) := by
  have reachable := Search.finish_reachable graph
  constructor
  · exact (reachable.covered.left name name (Search.finish_black itself.2.1) itself).told rfl
  · intro cycle member ends
    obtain ⟨node, target, closes⟩ := reachable.closes_of_found member
    have same : node = name ∧ target = name := by
      cases closes with
      | @intro search _ _ _ _ _ =>
        have suffix := Search.suffix_path graph search.parents node target
        have equal := (List.suffix_of_suffix_length_le suffix ends le_rfl).eq_of_length rfl
        simpa using equal
    obtain ⟨rfl, rfl⟩ := same
    obtain ⟨trail, root, rfl, last, first, nodup, chain, origin⟩ := closes.path_itself
    refine ⟨rfl, ⟨trail, root, rfl, first, nodup, chain, origin⟩, ?_, ?_⟩
    · intro only
      have rootName : root = target := only root (List.mem_append_left _ (List.mem_of_head? first))
      exact rootName ▸ origin
    · intro own
      have rootName : target = root := own.unique origin ((graph.contains_iff target).mp itself.2.1)
      subst rootName
      rw [eq_singleton_of_ends nodup first last]
      simp

def downpour : List Plugin :=
  [⟨"Thunder.js", "Thunder", [], ["Rain"], [], [], ""⟩, ⟨"Rain.js", "Rain", [], ["Rain"], [], [], ""⟩]

theorem edge_downpour : (Graph.ofPlugins downpour).Edge "Rain" "Rain" :=
  ⟨by decide, by decide, by decide⟩

theorem mem_cycles_downpour : ⟨"Rain", ["Thunder", "Rain", "Rain"]⟩ ∈ (Graph.ofPlugins downpour).cycles := by
  decide

theorem Graph.cycles_itself_downpour :
    (ofPlugins downpour).Edge "Rain" "Rain" ∧ Origin (ofPlugins downpour) "Rain" "Thunder" ∧
      ¬ Origin (ofPlugins downpour) "Rain" "Rain" := by
  obtain ⟨-, ⟨trail, root, split, first, -, -, origin⟩, only⟩ :=
    (cycles_itself edge_downpour).2 _ mem_cycles_downpour ⟨["Thunder"], rfl⟩
  have shown : ["Thunder", "Rain"] ++ ["Rain"] = trail ++ ["Rain"] := split
  obtain rfl := List.append_cancel_right shown
  cases first
  refine ⟨edge_downpour, origin, fun own => ?_⟩
  exact absurd (only.mpr own "Thunder" (by decide)) (by decide)

theorem Graph.cycles_itself_entered :
    ¬ ∀ (graph : Graph) (name : String), graph.Edge name name → ∀ cycle ∈ graph.cycles,
      [name, name] <:+ cycle.path → ∀ other ∈ cycle.path, other = name := by
  intro only
  have thunder := only _ "Rain" edge_downpour _ mem_cycles_downpour ⟨["Thunder"], rfl⟩ "Thunder" (by decide)
  exact absurd thunder (by decide)

end PluginAudit.Dependency
