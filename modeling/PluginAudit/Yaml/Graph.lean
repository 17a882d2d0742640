import PluginAudit.Yaml.Node
import PluginAudit.Yaml.Scalar

namespace PluginAudit.Yaml

/-- What a vertex holds. Its parts are vertices, given by their numbers. -/
inductive Content where
  | scalar (text : List Char)
  | sequence (items : List Nat)
  | mapping (pairs : List (Nat × Nat))
deriving DecidableEq, Inhabited

structure Vertex where
  tag : Tag
  content : Content
deriving DecidableEq

namespace Vertex

def absent : Vertex :=
  ⟨.null, .scalar []⟩

instance : Inhabited Vertex :=
  ⟨absent⟩

def pairs (vertex : Vertex) : List (Nat × Nat) :=
  match vertex.content with
  | .mapping pairs => pairs
  | _ => []

end Vertex

abbrev Vertices := Array Vertex

namespace Vertices

def vertex (vertices : Vertices) (n : Nat) : Vertex :=
  vertices.getD n .absent

def isMerge (vertices : Vertices) (n : Nat) : Bool :=
  (vertices.vertex n).tag == .merge

def mergeCount (vertices : Vertices) : Nat :=
  vertices.foldl (fun count vertex => count + vertex.pairs.countP fun pair => vertices.isMerge pair.1) 0

end Vertices

/-- A graph under way: its vertices, and those that have anchors. -/
structure Graph where
  vertices : Vertices
  anchors : List (List Char × Nat)

namespace Graph

abbrev Build := StateT Graph (Except Fault)

def scalarTag (kind : ScalarKind) (text : List Char) : Tag :=
  match kind with
  | .byForm => form text
  | .ownText => .str
  | .tagged tag => .ofText tag

def add (names : List (List Char)) (vertex : Vertex) : Build Nat := do
  let graph ← get
  let n := graph.vertices.size
  set (⟨graph.vertices.push vertex, names.map (·, n) ++ graph.anchors⟩ : Graph)
  return n

def setContent (n : Nat) (content : Content) : Build Unit :=
  modify fun graph => { graph with vertices := graph.vertices.modify n fun vertex => { vertex with content } }

mutual

/-- Adds the vertices of a node and gives the number of its own. A collection has its number before its parts have theirs. -/
def addNode (names : List (List Char)) : Node → Build Nat
  | .anchored name node => addNode (name :: names) node
  | .reference name => do
    let graph ← get
    StateT.lift (require (graph.anchors.lookup name))
  | .scalar kind text => add names ⟨scalarTag kind text, .scalar text⟩
  | .sequence tag items => do
    let n ← add names ⟨(tag.map Tag.ofText).getD .seq, .sequence []⟩
    let items ← addItems items
    setContent n (.sequence items)
    return n
  | .mapping tag pairs => do
    let n ← add names ⟨(tag.map Tag.ofText).getD .map, .mapping []⟩
    let pairs ← addPairs pairs
    setContent n (.mapping pairs)
    return n

def addItems : List Node → Build (List Nat)
  | [] => return []
  | item :: rest => do
    let n ← addNode [] item
    let more ← addItems rest
    return n :: more

def addPairs : List (Node × Node) → Build (List (Nat × Nat))
  | [] => return []
  | (key, item) :: rest => do
    let k ← addNode [] key
    let n ← addNode [] item
    let more ← addPairs rest
    return (k, n) :: more

end

def ofNode (node : Node) : Except Fault Vertices := do
  let (_, graph) ← (addNode [] node).run ⟨#[], []⟩
  return graph.vertices

end Graph

end PluginAudit.Yaml
