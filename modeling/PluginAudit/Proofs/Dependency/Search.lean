import Mathlib
import PluginAudit.Dependency.Search
import PluginAudit.Proofs.Dependency.Graph

namespace PluginAudit.Dependency.Search

inductive Step (graph : Graph) : Search → Search → Prop where
  -- A name with nothing left to look at is left.
  | leave {colours parents node outer roots found} :
      Step graph ⟨colours, parents, ⟨node, []⟩ :: outer, roots, found⟩
        ⟨colours.put node .black, parents, outer, roots, found⟩
  -- A dependency that is no plugin, or was left before.
  | pass {colours parents node target pending outer roots found} (notWhite : colours.get? target ≠ some .white)
      (notGray : colours.get? target ≠ some .gray) :
      Step graph ⟨colours, parents, ⟨node, target :: pending⟩ :: outer, roots, found⟩
        ⟨colours, parents, ⟨node, pending⟩ :: outer, roots, found⟩
  -- A dependency on a name that is on the stack closes a cycle.
  | close {colours parents node target pending outer roots found} (gray : colours.get? target = some .gray) :
      Step graph ⟨colours, parents, ⟨node, target :: pending⟩ :: outer, roots, found⟩
        ⟨colours, parents, ⟨node, pending⟩ :: outer, roots, found ++ [⟨node, path graph parents node target⟩]⟩
  | descend {colours parents node target pending outer roots found} (white : colours.get? target = some .white) :
      Step graph ⟨colours, parents, ⟨node, target :: pending⟩ :: outer, roots, found⟩
        ⟨colours.put target .gray, parents.put target node,
          ⟨target, graph.targets target⟩ :: ⟨node, pending⟩ :: outer, roots, found⟩
  | skip {colours parents root roots found} (notWhite : colours.get? root ≠ some .white) :
      Step graph ⟨colours, parents, [], root :: roots, found⟩ ⟨colours, parents, [], roots, found⟩
  | enter {colours parents root roots found} (white : colours.get? root = some .white) :
      Step graph ⟨colours, parents, [], root :: roots, found⟩
        ⟨colours.put root .gray, parents, [⟨root, graph.targets root⟩], roots, found⟩

theorem step_of_step? {graph : Graph} {search next : Search} (taken : step? graph search = some next) :
    Step graph search next := by
  obtain ⟨colours, parents, frames, roots, found⟩ := search
  rcases frames with _ | ⟨⟨node, _ | ⟨target, pending⟩⟩, outer⟩
  · rcases roots with _ | ⟨root, roots⟩
    · cases taken
    · by_cases white : colours.get? root = some .white
      · simp only [step?, white, if_true, Option.some.injEq] at taken
        subst taken
        exact .enter white
      · simp only [step?, white, if_false, Option.some.injEq] at taken
        subst taken
        exact .skip white
  · cases taken
    exact .leave
  · cases taken
    simp only [follow]
    split
    · rename_i white
      exact .descend white
    · rename_i gray
      exact .close gray
    · rename_i notWhite notGray
      exact .pass notWhite notGray

theorem step?_eq_none_iff (graph : Graph) (search : Search) :
    step? graph search = none ↔ search.frames = [] ∧ search.roots = [] := by
  obtain ⟨colours, parents, frames, roots, found⟩ := search
  rcases frames with _ | ⟨⟨node, _ | ⟨target, pending⟩⟩, outer⟩
  · cases roots <;> simp [step?]
  · simp [step?]
  · simp [step?]

/-- The steps that white names are still good for: one for each dependency, and one to leave. -/
def whiteWeight (graph : Graph) (colours : Register Colour) : Nat :=
  (colours.map fun entry => if entry.2 = .white then 1 + (graph.targets entry.1).length else 0).sum

def weight (graph : Graph) (search : Search) : Nat :=
  search.roots.length + (search.frames.map fun frame => 1 + frame.pending.length).sum + whiteWeight graph search.colours

theorem whiteWeight_put_le (graph : Graph) (colours : Register Colour) (name : String) {colour : Colour}
    (notWhite : colour ≠ .white) : whiteWeight graph (colours.put name colour) ≤ whiteWeight graph colours := by
  induction colours with
  | nil => simp [whiteWeight, Register.put, Register.alter, notWhite]
  | cons entry rest ih =>
    obtain ⟨other, old⟩ := entry
    simp only [Register.put, whiteWeight] at ih
    by_cases same : other = name
    · simp [whiteWeight, Register.put, Register.alter, same, notWhite]
    · simpa [whiteWeight, Register.put, Register.alter, same] using ih

theorem whiteWeight_enter (graph : Graph) {colours : Register Colour} {name : String}
    (white : colours.get? name = some .white) :
    whiteWeight graph (colours.put name .gray) + (1 + (graph.targets name).length) = whiteWeight graph colours := by
  induction colours with
  | nil => cases white
  | cons entry rest ih =>
    obtain ⟨other, old⟩ := entry
    by_cases same : name = other
    · subst same
      simp only [Register.get?, List.lookup_cons_self, Option.some.injEq] at white
      subst white
      simp only [whiteWeight, Register.put, Register.alter, if_true, List.map_cons, List.sum_cons, reduceCtorEq,
        if_false]
      omega
    · have different : (name == other) = false := by simpa using same
      have tail := ih (by simpa [Register.get?, List.lookup_cons, different] using white)
      simp only [Register.put, whiteWeight] at tail
      simp only [whiteWeight, Register.put, Register.alter, Ne.symm same, if_false, List.map_cons, List.sum_cons]
      omega

theorem Step.weight_lt {graph : Graph} {search next : Search} (step : Step graph search next) :
    weight graph next < weight graph search := by
  cases step with
  | @leave colours _ node outer _ _ =>
    have bound := whiteWeight_put_le graph colours node (show Colour.black ≠ .white by decide)
    simp only [weight, List.map_cons, List.sum_cons, List.length_nil]
    omega
  | pass _ _ =>
    simp only [weight, List.map_cons, List.sum_cons, List.length_cons]
    omega
  | close _ =>
    simp only [weight, List.map_cons, List.sum_cons, List.length_cons]
    omega
  | descend white =>
    have moved := whiteWeight_enter graph white
    simp only [weight, List.map_cons, List.sum_cons, List.length_cons]
    omega
  | skip _ =>
    simp only [weight, List.length_cons]
    omega
  | enter white =>
    have moved := whiteWeight_enter graph white
    simp only [weight, List.map_cons, List.map_nil, List.sum_cons, List.sum_nil, List.length_cons]
    omega

def Reachable (graph : Graph) (search : Search) : Prop :=
  Relation.ReflTransGen (Step graph) (start graph) search

theorem run_reachable {graph : Graph} {search : Search} (fuel : Nat) (reachable : Reachable graph search) :
    Reachable graph (run graph fuel search) := by
  induction fuel generalizing search with
  | zero => exact reachable
  | succ fuel ih =>
    rw [run]
    split
    · rename_i next taken
      exact ih (reachable.tail (step_of_step? taken))
    · exact reachable

theorem run_ended {graph : Graph} {fuel : Nat} {search : Search} (enough : weight graph search ≤ fuel) :
    step? graph (run graph fuel search) = none := by
  induction fuel generalizing search with
  | zero =>
    rw [run]
    cases taken : step? graph search with
    | none => rfl
    | some next =>
      have less := (step_of_step? taken).weight_lt
      omega
  | succ fuel ih =>
    rw [run]
    split
    · rename_i next taken
      have less := (step_of_step? taken).weight_lt
      exact ih (by omega)
    · assumption

theorem weight_start (graph : Graph) : weight graph (start graph) = stepLimit graph := by
  have limit : ∀ entries : Graph, entries.length + (entries.map fun entry => 1 + (graph.targets entry.1).length).sum =
      entries.foldr (fun entry limit => 2 + (graph.targets entry.1).length + limit) 0 := by
    intro entries
    induction entries with
    | nil => rfl
    | cons entry rest ih =>
      simp only [List.length_cons, List.map_cons, List.sum_cons, List.foldr_cons, ← ih]
      omega
  rw [stepLimit, ← limit graph]
  simp [weight, whiteWeight, start, Register.names, Function.comp_def]

theorem finish_reachable (graph : Graph) : Reachable graph (finish graph) :=
  run_reachable _ .refl

theorem finish_ended (graph : Graph) : (finish graph).frames = [] ∧ (finish graph).roots = [] :=
  (step?_eq_none_iff graph _).mp (run_ended (weight_start graph).le)

end PluginAudit.Dependency.Search
