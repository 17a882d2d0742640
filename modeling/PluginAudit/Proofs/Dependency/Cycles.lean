import PluginAudit.Proofs.Dependency.Stack

namespace PluginAudit.Dependency

namespace Search

variable {graph : Graph} {search next : Search}

theorem reaches_innermost {node name : String} {outer : List String}
    (chain : (node :: outer).IsChain fun inner outer => graph.Edge outer inner) (member : name ∈ node :: outer) :
    Relation.ReflTransGen graph.Edge name node := by
  induction outer generalizing node with
  | nil =>
    rw [List.mem_singleton.mp member]
  | cons parent rest ih =>
    obtain ⟨edge, chain⟩ := List.isChain_cons_cons.mp chain
    rcases List.mem_cons.mp member with rfl | member
    · exact .refl
    · exact (ih chain member).tail edge

theorem Reachable.circular_of_found (reachable : Reachable graph search) (some : search.found ≠ []) :
    ∃ name, Relation.TransGen graph.Edge name name := by
  induction reachable with
  | refl => exact absurd rfl some
  | tail reachable step ih =>
    have orderly := Reachable.orderly reachable
    cases step with
    | @close colours parents node target pending outer roots found gray =>
      have reaches := reaches_innermost orderly.chain ((orderly.gray target).mp gray)
      exact ⟨target, .tail' reaches (orderly.edge gray)⟩
    | _ => exact ih some

/-- Each dependency of a name on the stack is still to be looked at, was left, or is the next name on the stack. -/
def Looked (graph : Graph) (colours : Register Colour) : Option String → List Frame → Prop
  | _, [] => True
  | inner, frame :: outer =>
    (∀ target, graph.Edge frame.node target →
      target ∈ frame.pending ∨ colours.get? target = some .black ∨ inner = some target) ∧
    Looked graph colours (some frame.node) outer

theorem Looked.mono {colours colours' : Register Colour} {inner : Option String} {frames : List Frame}
    (looked : Looked graph colours inner frames)
    (left : ∀ name, colours.get? name = some .black → colours'.get? name = some .black) :
    Looked graph colours' inner frames := by
  induction frames generalizing inner with
  | nil => trivial
  | cons frame outer ih =>
    obtain ⟨here, rest⟩ := looked
    refine ⟨fun target edge => ?_, ih rest⟩
    rcases here target edge with pending | black | next
    · exact .inl pending
    · exact .inr (.inl (left target black))
    · exact .inr (.inr next)

theorem Looked.leave {colours : Register Colour} {node : String} {frames : List Frame}
    (looked : Looked graph colours (some node) frames) (black : colours.get? node = some .black) :
    Looked graph colours none frames := by
  cases frames with
  | nil => trivial
  | cons frame outer =>
    obtain ⟨here, rest⟩ := looked
    refine ⟨fun target edge => ?_, rest⟩
    rcases here target edge with pending | left | next
    · exact .inl pending
    · exact .inr (.inl left)
    · cases next
      exact .inr (.inl black)

/-- A dependency needs no more looking at once it is left, or is the next name on the stack. -/
theorem Looked.advance {colours : Register Colour} {inner : Option String} {node target : String}
    {pending : List String} {outer : List Frame}
    (looked : Looked graph colours none (⟨node, target :: pending⟩ :: outer))
    (settled : graph.Edge node target → colours.get? target = some .black ∨ inner = some target) :
    Looked graph colours inner (⟨node, pending⟩ :: outer) := by
  obtain ⟨here, rest⟩ := looked
  refine ⟨fun other edge => ?_, rest⟩
  rcases here other edge with waiting | left | next
  · rcases List.mem_cons.mp waiting with rfl | waiting
    · exact .inr (settled edge)
    · exact .inl waiting
  · exact .inr (.inl left)
  · cases next

/-- What is known of the names that are left as long as no cycle is found. -/
structure Explored (graph : Graph) (search : Search) : Prop where
  closed : ∀ name target, search.colours.get? name = some .black → graph.Edge name target →
    search.colours.get? target = some .black
  acyclic : ∀ name, search.colours.get? name = some .black → ¬ Relation.TransGen graph.Edge name name
  looked : Looked graph search.colours none search.frames

theorem explored_start (graph : Graph) : Explored graph (start graph) := by
  have notBlack : ∀ name, (start graph).colours.get? name ≠ some .black := by
    intro name black
    rw [get?_start] at black
    split at black <;> cases black
  exact ⟨fun name _ black => absurd black (notBlack name), fun name black => absurd black (notBlack name), trivial⟩

section

variable {colours : Register Colour} {parents : Register String} {frames : List Frame} {roots : List String}
  {found : List Cycle}

theorem Explored.black_of_reaches (explored : Explored graph search) {name target : String}
    (black : search.colours.get? name = some .black) (reaches : Relation.ReflTransGen graph.Edge name target) :
    search.colours.get? target = some .black := by
  induction reaches with
  | refl => exact black
  | tail _ edge ih => exact explored.closed _ _ ih edge

theorem Explored.push (explored : Explored graph ⟨colours, parents, frames, roots, found⟩) {name : String}
    (white : colours.get? name = some .white) {below : List Frame} (looked : Looked graph colours (some name) below)
    (parents' : Register String) (roots' : List String) :
    Explored graph ⟨colours.put name .gray, parents', ⟨name, graph.targets name⟩ :: below, roots', found⟩ := by
  have left : ∀ other, colours.get? other = some .black → (colours.put name .gray).get? other = some .black := by
    intro other black
    have different : other ≠ name := by
      rintro rfl
      rw [white] at black
      cases black
    rwa [Register.get?_put_of_ne _ _ different]
  refine ⟨?_, ?_, ?_, looked.mono left⟩
  · intro other target black edge
    exact left target (explored.closed other target (Register.get?_of_get?_put black (by decide)) edge)
  · intro other black
    exact explored.acyclic other (Register.get?_of_get?_put black (by decide))
  · intro target edge
    exact .inl edge.1

/-- A name is left when all that it depends on was left, so that it cannot be reached from there. -/
theorem Explored.pop {node : String} {outer : List Frame}
    (explored : Explored graph ⟨colours, parents, ⟨node, []⟩ :: outer, roots, found⟩)
    (gray : colours.get? node = some .gray) :
    Explored graph ⟨colours.put node .black, parents, outer, roots, found⟩ := by
  obtain ⟨here, rest⟩ := explored.looked
  have done : ∀ target, graph.Edge node target → colours.get? target = some .black := by
    intro target edge
    rcases here target edge with pending | black | next
    · cases pending
    · exact black
    · cases next
  have left : ∀ other, colours.get? other = some .black → (colours.put node .black).get? other = some .black := by
    intro other black
    rw [Register.get?_put]
    split
    · rfl
    · exact black
  have self : (colours.put node .black).get? node = some .black := Register.get?_put_self _ _ _
  constructor
  case closed =>
    intro name target black edge
    rw [Register.get?_put] at black
    split at black
    · rename_i same
      subst same
      exact left target (done target edge)
    · exact left target (explored.closed name target black edge)
  case acyclic =>
    intro name black cycle
    rw [Register.get?_put] at black
    split at black
    · rename_i same
      subst same
      obtain ⟨target, edge, reaches⟩ := Relation.TransGen.head'_iff.mp cycle
      -- A cycle through the name would lead back to it over names that are left, but it is still on the stack.
      have again : colours.get? name = some .black := explored.black_of_reaches (done target edge) reaches
      rw [gray] at again
      cases again
    · exact explored.acyclic name black cycle
  case looked => exact (rest.mono left).leave self

end

theorem Step.found_eq_nil (step : Step graph search next) (none : next.found = []) : search.found = [] := by
  cases step with
  | close _ => simp at none
  | _ => exact none

theorem Explored.step (explored : Explored graph search) (orderly : Orderly graph search)
    (step : Step graph search next) (none : next.found = []) : Explored graph next := by
  cases step with
  | leave => exact explored.pop ((orderly.gray _).mpr List.mem_cons_self)
  | @pass colours _ _ target _ _ _ _ notWhite notGray =>
    refine ⟨explored.closed, explored.acyclic, explored.looked.advance fun edge => .inl ?_⟩
    have known := (orderly.known target).mpr edge.2.2
    cases coloured : colours.get? target with
    | none => simp [coloured] at known
    | some colour =>
      cases colour with
      | white => exact absurd coloured notWhite
      | gray => exact absurd coloured notGray
      | black => rfl
  | close gray => simp at none
  | @descend colours parents node target pending outer roots found white =>
    have looked : Looked graph colours (some target) (⟨node, pending⟩ :: outer) :=
      explored.looked.advance fun _ => .inr rfl
    exact explored.push white looked _ _
  | skip notWhite => exact ⟨explored.closed, explored.acyclic, trivial⟩
  | enter white => exact explored.push white (show Looked graph _ _ [] from trivial) _ _

theorem Reachable.explored (reachable : Reachable graph search) (none : search.found = []) : Explored graph search := by
  induction reachable with
  | refl => exact explored_start graph
  | tail reachable step ih =>
    have earlier : Search.found _ = [] := step.found_eq_nil none
    exact (ih earlier).step (Reachable.orderly reachable) step none

theorem finish_black {name : String} (contained : graph.contains name = true) :
    (finish graph).colours.get? name = some .black := by
  have orderly := (finish_reachable graph).orderly
  obtain ⟨noFrames, noRoots⟩ := finish_ended graph
  refine orderly.black_of_not_white noFrames contained fun white => ?_
  have untried := orderly.white name white
  rw [noRoots] at untried
  cases untried

end Search

theorem Graph.cycles_ne_nil_iff (graph : Graph) :
    graph.cycles ≠ [] ↔ ∃ name, Relation.TransGen graph.Edge name name := by
  constructor
  · exact (Search.finish_reachable graph).circular_of_found
  · rintro ⟨name, cycle⟩ none
    have explored := (Search.finish_reachable graph).explored none
    obtain ⟨target, edge, _⟩ := Relation.TransGen.head'_iff.mp cycle
    exact explored.acyclic name (Search.finish_black edge.2.1) cycle

/-- Cycles are reported exactly if the last plugins of each name depend on each other in a circle. -/
theorem cycles_ofPlugins_ne_nil_iff (plugins : List Plugin) :
    (Graph.ofPlugins plugins).cycles ≠ [] ↔ Circular plugins := by
  rw [Graph.cycles_ne_nil_iff, circular_iff]

end PluginAudit.Dependency
