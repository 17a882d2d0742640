import PluginAudit.Proofs.Dependency.Search

namespace PluginAudit.Dependency.Search

/-- Names on the stack, innermost first. -/
def stack (search : Search) : List String :=
  search.frames.map (·.node)

structure Orderly (graph : Graph) (search : Search) : Prop where
  known : ∀ name, (search.colours.get? name).isSome = true ↔ graph.contains name = true
  white : ∀ name, search.colours.get? name = some .white → name ∈ search.roots
  gray : ∀ name, search.colours.get? name = some .gray ↔ name ∈ search.stack
  nodup : search.stack.Nodup
  pending : ∀ frame ∈ search.frames, frame.pending ⊆ graph.targets frame.node
  chain : search.stack.IsChain fun inner outer => graph.Edge outer inner

variable {graph : Graph} {search next : Search}

theorem get?_start (graph : Graph) (name : String) :
    (start graph).colours.get? name = if graph.contains name then some .white else none := by
  rw [start, Register.get?_map_const]
  simp only [graph.contains_iff]

theorem orderly_start (graph : Graph) : Orderly graph (start graph) where
  known name := by
    rw [get?_start]
    split <;> simp_all
  white name white := by
    rw [get?_start] at white
    split at white
    · rename_i contained
      exact (graph.contains_iff name).mp contained
    · cases white
  gray name := by
    rw [get?_start]
    split <;> simp [start, stack]
  nodup := List.nodup_nil
  pending frame member := by cases member
  chain := .nil

section

variable {colours : Register Colour} {parents : Register String} {frames : List Frame} {roots : List String}
  {found : List Cycle}

theorem Orderly.contains (orderly : Orderly graph ⟨colours, parents, frames, roots, found⟩) {name : String}
    {colour : Colour} (coloured : colours.get? name = some colour) : graph.contains name = true :=
  (orderly.known name).mp (by rw [coloured]; rfl)

theorem Orderly.known_put (orderly : Orderly graph ⟨colours, parents, frames, roots, found⟩) {name : String}
    {old : Colour} (coloured : colours.get? name = some old) (colour : Colour) (other : String) :
    ((colours.put name colour).get? other).isSome = true ↔ graph.contains other = true := by
  rw [Register.get?_put]
  split
  · rename_i same
    subst same
    simp [orderly.contains coloured]
  · exact orderly.known other

theorem Orderly.advance {node target : String} {pending : List String} {outer : List Frame}
    (orderly : Orderly graph ⟨colours, parents, ⟨node, target :: pending⟩ :: outer, roots, found⟩)
    (parents' : Register String) (found' : List Cycle) :
    Orderly graph ⟨colours, parents', ⟨node, pending⟩ :: outer, roots, found'⟩ where
  known := orderly.known
  white := orderly.white
  gray := orderly.gray
  nodup := orderly.nodup
  pending frame member := by
    rcases List.mem_cons.mp member with rfl | member
    · exact List.Subset.trans (List.subset_cons_self _ _) (orderly.pending _ List.mem_cons_self)
    · exact orderly.pending frame (List.mem_cons_of_mem _ member)
  chain := orderly.chain

theorem Orderly.push (orderly : Orderly graph ⟨colours, parents, frames, roots, found⟩) {name : String}
    (white : colours.get? name = some .white) (edge : ∀ node ∈ (frames.map (·.node)).head?, graph.Edge node name) :
    Orderly graph ⟨colours.put name .gray, parents, ⟨name, graph.targets name⟩ :: frames, roots, found⟩ where
  known := orderly.known_put white .gray
  white other isWhite := orderly.white other (Register.get?_of_get?_put isWhite (by decide))
  gray other := by
    rw [Register.get?_put]
    split
    · rename_i same
      simp [stack, same]
    · rename_i different
      rw [orderly.gray other]
      simp [stack, different]
  nodup := by
    refine List.nodup_cons.mpr ⟨fun member => ?_, orderly.nodup⟩
    have gray := (orderly.gray name).mpr member
    rw [white] at gray
    cases gray
  pending frame member := by
    rcases List.mem_cons.mp member with rfl | member
    · exact List.Subset.refl _
    · exact orderly.pending frame member
  chain := List.isChain_cons.mpr ⟨edge, orderly.chain⟩

theorem Orderly.pop {node : String} {outer : List Frame}
    (orderly : Orderly graph ⟨colours, parents, ⟨node, []⟩ :: outer, roots, found⟩) :
    Orderly graph ⟨colours.put node .black, parents, outer, roots, found⟩ := by
  have gray : colours.get? node = some .gray := (orderly.gray node).mpr List.mem_cons_self
  obtain ⟨absent, nodup⟩ := List.nodup_cons.mp orderly.nodup
  constructor
  case known => exact orderly.known_put gray .black
  case white =>
    intro other isWhite
    exact orderly.white other (Register.get?_of_get?_put isWhite (by decide))
  case gray =>
    intro other
    rw [Register.get?_put]
    split
    · rename_i same
      subst same
      simpa [stack] using absent
    · rename_i different
      rw [orderly.gray other]
      simp [stack, different]
  case nodup => exact nodup
  case pending => exact fun frame member => orderly.pending frame (List.mem_cons_of_mem _ member)
  case chain => exact orderly.chain.tail

theorem Orderly.dropRoot {root : String} (orderly : Orderly graph ⟨colours, parents, frames, root :: roots, found⟩)
    (notWhite : colours.get? root ≠ some .white) : Orderly graph ⟨colours, parents, frames, roots, found⟩ where
  known := orderly.known
  white name white := by
    rcases List.mem_cons.mp (orderly.white name white) with rfl | member
    · exact absurd white notWhite
    · exact member
  gray := orderly.gray
  nodup := orderly.nodup
  pending := orderly.pending
  chain := orderly.chain

/-- The dependency that is looked at is an edge if it is a plugin. -/
theorem Orderly.edge {node target : String} {pending : List String} {outer : List Frame} {colour : Colour}
    (orderly : Orderly graph ⟨colours, parents, ⟨node, target :: pending⟩ :: outer, roots, found⟩)
    (coloured : colours.get? target = some colour) : graph.Edge node target :=
  ⟨orderly.pending _ List.mem_cons_self List.mem_cons_self,
    orderly.contains ((orderly.gray node).mpr List.mem_cons_self), orderly.contains coloured⟩

end

theorem Orderly.black_of_not_white (orderly : Orderly graph search) (empty : search.frames = []) {name : String}
    (contained : graph.contains name = true) (notWhite : search.colours.get? name ≠ some .white) :
    search.colours.get? name = some .black := by
  have known := (orderly.known name).mpr contained
  cases coloured : search.colours.get? name with
  | none => simp [coloured] at known
  | some colour =>
    cases colour with
    | white => exact absurd coloured notWhite
    | gray =>
      have onStack := (orderly.gray name).mp coloured
      rw [stack, empty] at onStack
      cases onStack
    | black => rfl

theorem Orderly.step (orderly : Orderly graph search) (step : Step graph search next) : Orderly graph next := by
  cases step with
  | leave => exact orderly.pop
  | pass _ _ => exact orderly.advance _ _
  | close _ => exact orderly.advance _ _
  | @descend colours parents node target pending outer roots found white =>
    refine (orderly.advance (parents.put target node) found).push white ?_
    intro inner innermost
    cases innermost
    exact orderly.edge white
  | skip notWhite => exact orderly.dropRoot notWhite
  | @enter colours _ root _ _ white =>
    have entered := orderly.push white (by simp)
    refine entered.dropRoot ?_
    rw [Register.get?_put]
    simp

theorem Reachable.orderly (reachable : Reachable graph search) : Orderly graph search := by
  induction reachable with
  | refl => exact orderly_start graph
  | tail _ step ih => exact ih.step step

end PluginAudit.Dependency.Search
