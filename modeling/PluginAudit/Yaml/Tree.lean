import PluginAudit.Value.Basic

namespace PluginAudit.Yaml

inductive Tree where
  | leaf (anchor : Option Nat) (v : Value)
  | sequence (anchor : Option Nat) (items : List Tree)
  | mapping (anchor : Option Nat) (pairs : List (Tree × Tree))
  | members (anchor : Option Nat) (items : List Tree)
  | again (anchor : Nat)
deriving Inhabited

namespace Tree

/-- Origins of values that were met, and of those that were met again, the last one first. -/
structure Met where
  once : List Origin
  again : List Origin

namespace Met

def repeated (origin : Origin) (met : Met) : Met :=
  if met.again.contains origin then met else { met with again := origin :: met.again }

mutual

def add (met : Met) : Value → Met
  | .shared origin v =>
    if met.once.contains origin then met.repeated origin else add { met with once := origin :: met.once } v
  | .around origin => met.repeated origin
  | .list items => addItems met items
  | .set items => addItems met items
  | .pair first second => add (add met first) second
  | .map entries => addEntries met entries
  | _ => met

def addItems (met : Met) : List Value → Met
  | [] => met
  | item :: rest => addItems (add met item) rest

def addEntries (met : Met) : List (Value × Value) → Met
  | [] => met
  | (key, item) :: rest => addEntries (add (add met key) item) rest

end

end Met

/-- Anchors have numbers from one on, in the order in which values came again. -/
structure Anchors where
  numbers : List (Origin × Nat)
  written : List Origin

namespace Anchors

def ofMet (met : Met) : Anchors :=
  ⟨met.again.reverse.zipIdx 1, []⟩

end Anchors

mutual

def make (anchor : Option Nat) : Value → StateM Anchors Tree
  | .shared origin v => do
    let anchors ← get
    match anchors.numbers.lookup origin with
    | none => make none v
    | some n =>
      if anchors.written.contains origin then return .again n
      else
        set { anchors with written := origin :: anchors.written }
        make (some n) v
  | .around origin => do return .again (((← get).numbers.lookup origin).getD 0)
  | .list items => do return .sequence anchor (← makeItems items)
  | .pair first second => do
    let first ← make none first
    let second ← make none second
    return .sequence anchor [first, second]
  | .set items => do return .members anchor (← makeItems items)
  | .map entries => do return .mapping anchor (← makeEntries entries)
  | v => return .leaf anchor v

def makeItems : List Value → StateM Anchors (List Tree)
  | [] => return []
  | item :: rest => do
    let item ← make none item
    let rest ← makeItems rest
    return item :: rest

def makeEntries : List (Value × Value) → StateM Anchors (List (Tree × Tree))
  | [] => return []
  | (key, item) :: rest => do
    let key ← make none key
    let item ← make none item
    let rest ← makeEntries rest
    return (key, item) :: rest

end

def ofValue (v : Value) : Tree :=
  ((make none v).run (.ofMet (Met.add ⟨[], []⟩ v))).1

end Tree

end PluginAudit.Yaml
