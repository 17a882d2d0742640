import PluginAudit.Value.SetOrder
import PluginAudit.Yaml.Graph

namespace PluginAudit.Yaml

/-- What is made of a vertex. The parts of collections are vertices, given by their numbers. -/
inductive Made where
  | scalar (v : Value)
  -- What is no number, by its word. It is one value in all places, so that it is one key.
  | nan
  | list (items : List Nat)
  | pairs (items : List (Nat × Nat))
  | set (items : List Nat)
  | map (entries : List (Nat × Nat))
deriving Inhabited

namespace Made

def isKey : Made → Bool
  | scalar _ => true
  | nan => true
  | _ => false

def isSameKey : Made → Made → Bool
  | scalar a, scalar b => a.sameKey b
  | nan, nan => true
  | _, _ => false

def parts : Made → List Nat
  | list items => items
  | pairs items => items.flatMap fun item => [item.1, item.2]
  | set items => items
  | map entries => entries.flatMap fun entry => [entry.1, entry.2]
  | _ => []

end Made

/-- Work on a document: its vertices, what is made of them, and the collections that wait for their parts, the last one
first. -/
structure Work where
  vertices : Vertices
  made : Array (Option Made)
  waiting : List Nat

namespace Work

abbrev Step := StateT Work (Except Fault)

def fail {α : Type} : Step α :=
  StateT.lift refuse

def vertex (n : Nat) : Step Vertex := do
  return (← get).vertices.vertex n

def setVertex (n : Nat) (vertex : Vertex) : Step Unit :=
  modify fun work => { work with vertices := work.vertices.setIfInBounds n vertex }

def record (n : Nat) (made : Made) : Step Unit :=
  modify fun work => { work with made := work.made.setIfInBounds n (some made) }

/-- A pair whose key asks for the pairs of another mapping, with the pairs before it and behind it. -/
def firstMerge? (vertices : Vertices) (pairs : List (Nat × Nat)) : Option (List (Nat × Nat) × Nat × List (Nat × Nat)) :=
  let before := pairs.takeWhile fun pair => !vertices.isMerge pair.1
  match pairs.drop before.length with
  | pair :: behind => some (before, pair.2, behind)
  | [] => none

def settleKeys (pairs : List (Nat × Nat)) : Step Unit :=
  pairs.forM fun pair => do
    let key ← vertex pair.1
    if key.tag == .value then setVertex pair.1 { key with tag := .str } else pure ()

def settle (n : Nat) (merged : List (Nat × Nat)) : Step Unit := do
  let pairs := (← vertex n).pairs
  settleKeys pairs
  setVertex n { (← vertex n) with content := .mapping (merged ++ pairs) }

/-- Merges pairs into a mapping, behind those that are merged already. A mapping gives its pairs, when it has merged its own;
a sequence of mappings gives theirs, the last mapping first. -/
def flatten : Nat → Nat → List (Nat × Nat) → Step Unit
  | 0, n, merged => settle n merged
  | fuel + 1, n, merged => do
    match firstMerge? (← get).vertices (← vertex n).pairs with
    | none => settle n merged
    | some (before, target, behind) =>
      setVertex n { (← vertex n) with content := .mapping (before ++ behind) }
      let more ←
        match (← vertex target).content with
        | .mapping _ => do
          flatten fuel target []
          pure (← vertex target).pairs
        | .sequence items => do
          let found ← items.mapM fun item => do
            match (← vertex item).content with
            | .mapping _ =>
              flatten fuel item []
              pure (← vertex item).pairs
            | _ => fail
          pure found.reverse.flatten
        | .scalar _ => fail
      flatten fuel n (merged ++ more)

/-- The text of a scalar. A mapping stands for the scalar under its key that is an equals sign. -/
def scalarText : Nat → Nat → Step (List Char)
  | 0, _ => fail
  | fuel + 1, n => do
    match (← vertex n).content with
    | .scalar text => return text
    | .sequence _ => fail
    | .mapping pairs =>
      let vertices := (← get).vertices
      match pairs.find? fun pair => (vertices.vertex pair.1).tag == .value with
      | some pair => scalarText fuel pair.2
      | none => fail

def makeScalar (n : Nat) : Step Made := do
  let text ← scalarText ((← get).vertices.size + 1) n
  let vertex ← vertex n
  match vertex.tag, vertex.content with
  | .timestamp, .mapping _ => StateT.lift (.error (.data .notTimeText))
  | .float, _ => if namesNan text then return .nan else .scalar <$> StateT.lift (scalarValue .float text)
  | tag, _ => .scalar <$> StateT.lift (scalarValue tag text)

def await (n : Nat) (empty : Made) : Step Unit := do
  record n empty
  modify fun work => { work with waiting := n :: work.waiting }

def make (n : Nat) : Step Unit := do
  if ((← get).made.getD n none).isSome then return
  match (← vertex n).tag with
  | .seq => await n (.list [])
  | .omap => await n (.pairs [])
  | .pairs => await n (.pairs [])
  | .set => await n (.set [])
  | .map => await n (.map [])
  | .merge => fail
  | .value => fail
  | .other => fail
  | _ => record n (← makeScalar n)

def madeOf (n : Nat) : Step Made := do
  return ((← get).made.getD n none).getD (.scalar .null)

def isSameKey (work : Work) (a b : Nat) : Bool :=
  a == b ||
    match work.made.getD a none, work.made.getD b none with
    | some x, some y => x.isSameKey y
    | _, _ => false

def put (same : Nat → Nat → Bool) (entry : Nat × Nat) : List (Nat × Nat) → List (Nat × Nat)
  | [] => [entry]
  | other :: rest => if same other.1 entry.1 then (other.1, entry.2) :: rest else other :: put same entry rest

def addEntry (found : List (Nat × Nat)) (pair : Nat × Nat) : Step (List (Nat × Nat)) := do
  make pair.1
  if (← madeOf pair.1).isKey then pure () else fail
  make pair.2
  return put (isSameKey (← get)) pair found

def entries (n : Nat) : Step (List (Nat × Nat)) := do
  match (← vertex n).content with
  | .mapping _ =>
    flatten (← get).vertices.mergeCount n []
    (← vertex n).pairs.foldlM addEntry []
  | _ => fail

def pairItems (n : Nat) : Step (List (Nat × Nat)) := do
  match (← vertex n).content with
  | .sequence items =>
    items.mapM fun item => do
      match (← vertex item).content with
      | .mapping [pair] =>
        make pair.1
        make pair.2
        return pair
      | _ => fail
  | _ => fail

def fill (n : Nat) : Step Unit := do
  let vertex ← vertex n
  match vertex.tag, vertex.content with
  | .seq, .sequence items =>
    items.forM make
    record n (.list items)
  | .map, _ => record n (.map (← entries n))
  | .set, _ => record n (.set ((← entries n).map (·.1)))
  | .omap, _ => record n (.pairs (← pairItems n))
  | .pairs, _ => record n (.pairs (← pairItems n))
  | _, _ => fail

def fillAll : Nat → Step Unit
  | 0 => return
  | fuel + 1 => do
    let waiting := (← get).waiting
    if waiting.isEmpty then return
    modify fun work => { work with waiting := [] }
    waiting.reverse.forM fill
    fillAll fuel

def run (vertices : Vertices) : Except Fault (Array Made) := do
  let start : Work := ⟨vertices, Array.replicate vertices.size none, []⟩
  let (_, work) ← (do make 0; fillAll (vertices.size + 1) : Step Unit).run start
  return work.made.map (·.getD (.scalar .null))

end Work

namespace Made

def isMarked : Value → Bool
  | .day _ => true
  | .moment _ => true
  | .list _ => true
  | .set _ => true
  | .map _ => true
  | _ => false

def places (made : Array Made) : Array Nat :=
  made.foldl (fun counts item => item.parts.foldl (fun counts n => counts.modify n (· + 1)) counts)
    ((Array.replicate made.size 0).modify 0 (· + 1))

abbrev Known := Array (Option Value)

abbrev Unfolded := Value × List Nat

def pairOf (part : Nat → StateM Known Unfolded) (pair : Nat × Nat) : StateM Known ((Value × Value) × List Nat) := do
  let (a, named) ← part pair.1
  let (b, more) ← part pair.2
  return ((a, b), named ++ more)

def assemble (part : Nat → StateM Known Unfolded) : Made → StateM Known Unfolded
  | .scalar v => return (v, [])
  | .nan => return (.float .nan, [])
  | .list items => do
    let found ← items.mapM part
    return (.list (found.map (·.1)), found.flatMap (·.2))
  | .set items => do
    let found ← items.mapM part
    return (.set (Value.setOrder (found.map (·.1))), [])
  | .pairs items => do
    let found ← items.mapM (pairOf part)
    return (.list (found.map fun item => .pair item.1.1 item.1.2), found.flatMap (·.2))
  | .map entries => do
    let found ← entries.mapM (pairOf part)
    return (.map (found.map (·.1)), found.flatMap (·.2))

def keep (text : String) (marked : Bool) (n : Nat) (found : Unfolded) : StateM Known Unfolded := do
  let v := if marked && isMarked found.1 then .shared ⟨text, n⟩ found.1 else found.1
  let named := found.2.filter (· != n)
  if named.isEmpty then modify fun known => known.setIfInBounds n (some v)
  return (v, named.eraseDups)

/-- The value of a vertex inside those of a path. Values are marked from the first one on that has several places. -/
def unfold (text : String) (made : Array Made) (places : Array Nat) :
    Nat → List Nat → Bool → Nat → StateM Known Unfolded
  | 0, _, _, _ => return (.null, [])
  | fuel + 1, path, inMarked, n => do
    if path.contains n then return (.around ⟨text, n⟩, [n])
    match (← get).getD n none with
    | some v => return (v, [])
    | none =>
      let marked := inMarked || 2 ≤ places.getD n 0
      let found ← assemble (unfold text made places fuel (n :: path) marked) (made.getD n default)
      keep text marked n found

def value (text : String) (made : Array Made) : Value :=
  (unfold text made (places made) (made.size + 1) [] false 0 |>.run (Array.replicate made.size none)).1.1

end Made

def read (text : List Char) : Except Fault Value := do
  let vertices ← Graph.ofNode (← Document.read text)
  return Made.value (String.ofList text) (← Work.run vertices)

end PluginAudit.Yaml
