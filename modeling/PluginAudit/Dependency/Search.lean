import PluginAudit.Dependency.Graph

namespace PluginAudit.Dependency

inductive Colour where
  | white
  | gray
  | black
deriving Repr, DecidableEq

/-- A name on the stack, with the dependencies that are still to be looked at. -/
structure Frame where
  node : String
  pending : List String
deriving Repr, DecidableEq

structure Cycle where
  closedBy : String
  path : List String
deriving Repr, DecidableEq

structure Search where
  colours : Register Colour
  -- The name from which a name was entered; a root has none.
  parents : Register String
  frames : List Frame
  -- Names from which the search is still to start.
  roots : List String
  found : List Cycle
deriving Repr, DecidableEq

namespace Search

def start (graph : Graph) : Search :=
  { colours := graph.names.map fun name => (name, .white)
    parents := []
    frames := []
    roots := graph.names
    found := [] }

def ancestors (parents : Register String) (target : String) : Nat → String → List String
  | 0, _ => []
  | fuel + 1, name =>
    match parents.get? name with
    | some parent => if parent = target then [] else parent :: ancestors parents target fuel parent
    | none => []

def path (graph : Graph) (parents : Register String) (node target : String) : List String :=
  (target :: node :: ancestors parents target graph.length node).reverse

def enter (graph : Graph) (name : String) (search : Search) : Search :=
  { search with
    colours := search.colours.put name .gray
    frames := ⟨name, graph.targets name⟩ :: search.frames }

def follow (graph : Graph) (node target : String) (search : Search) : Search :=
  match search.colours.get? target with
  | some .white => enter graph target { search with parents := search.parents.put target node }
  | some .gray => { search with found := search.found ++ [⟨node, path graph search.parents node target⟩] }
  | _ => search

def step? (graph : Graph) (search : Search) : Option Search :=
  match search.frames with
  | ⟨node, target :: pending⟩ :: outer =>
    some (follow graph node target { search with frames := ⟨node, pending⟩ :: outer })
  | ⟨node, []⟩ :: outer => some { search with colours := search.colours.put node .black, frames := outer }
  | [] =>
    match search.roots with
    | [] => none
    | root :: roots =>
      let search := { search with roots }
      some (if search.colours.get? root = some .white then enter graph root search else search)

def run (graph : Graph) : Nat → Search → Search
  | 0, search => search
  | fuel + 1, search =>
    match step? graph search with
    | some next => run graph fuel next
    | none => search

def stepLimit (graph : Graph) : Nat :=
  graph.foldr (fun entry limit => 2 + (graph.targets entry.1).length + limit) 0

def finish (graph : Graph) : Search :=
  run graph (stepLimit graph) (start graph)

end Search

def Graph.cycles (graph : Graph) : List Cycle :=
  (Search.finish graph).found

end PluginAudit.Dependency
