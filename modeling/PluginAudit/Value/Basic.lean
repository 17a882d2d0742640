import PluginAudit.Calendar
import PluginAudit.Number.Binary64
import PluginAudit.Number.Exact

namespace PluginAudit

structure Origin where
  text : String
  place : Nat
deriving Repr, DecidableEq

inductive Value where
  | null
  | bool (b : Bool)
  | int (n : Int)
  | float (x : Binary64)
  | text (s : String)
  | day (d : Day)
  | moment (m : Moment)
  | bytes (data : List UInt8)
  | list (items : List Value)
  | pair (first second : Value)
  | set (items : List Value)
  | map (entries : List (Value × Value))
  -- A value that may stand in several places.
  | shared (origin : Origin) (v : Value)
  -- The value of this origin, inside which this place is.
  | around (origin : Origin)
deriving Repr, Inhabited

namespace Value

def kind : Value → String
  | null => "NoneType"
  | bool _ => "bool"
  | int _ => "int"
  | float _ => "float"
  | text _ => "str"
  | day _ => "date"
  | moment _ => "datetime"
  | bytes _ => "bytes"
  | list _ => "list"
  | pair _ _ => "tuple"
  | set _ => "set"
  | map _ => "dict"
  | shared _ v => v.kind
  | around _ => ""

def bare : Value → Value
  | shared _ v => v.bare
  | v => v

def fullKind (v : Value) : String :=
  match v.bare with
  | day d => "datetime." ++ (day d).kind
  | moment m => "datetime." ++ (moment m).kind
  | v => v.kind

def holds : Value → Bool
  | null => false
  | bool b => b
  | int n => n != 0
  | float x => !x.isZero
  | text s => s != ""
  | day _ => true
  | moment _ => true
  | bytes data => !data.isEmpty
  | list items => !items.isEmpty
  | pair _ _ => true
  | set items => !items.isEmpty
  | map entries => !entries.isEmpty
  | shared _ v => v.holds
  | around _ => true

def number? : Value → Option Exact
  | bool b => some (Exact.ofInt (if b then 1 else 0))
  | int n => some (Exact.ofInt n)
  | float x => some (Exact.ofBinary64 x)
  | _ => none

def sameKey (a b : Value) : Bool :=
  match a.bare, b.bare with
  | null, null => true
  | text s, text t => s == t
  | bytes s, bytes t => s == t
  | day d, day e => d == e
  | moment m, moment n => m.same n
  | a, b =>
    match a.number?, b.number? with
    | some x, some y => x.same y
    | _, _ => false

abbrev Entries := List (Value × Value)

namespace Entries

def get? (entries : Entries) (key : Value) : Option Value :=
  (entries.find? fun entry => entry.1.sameKey key).map (·.2)

/-- A key that is there keeps its place and its spelling and takes the new value; a new one goes to the end. -/
def put (entries : Entries) (key value : Value) : Entries :=
  match entries with
  | [] => [(key, value)]
  | (other, old) :: rest =>
    if other.sameKey key then (other, value) :: rest else (other, old) :: put rest key value

def ofList (pairs : List (Value × Value)) : Entries :=
  pairs.foldl (fun entries pair => entries.put pair.1 pair.2) []

def named? (entries : Entries) (name : String) : Option Value :=
  entries.get? (text name)

end Entries

mutual

def restore (origin : Origin) (whole : Value) : Value → Value
  | around other => if other = origin then whole else around other
  | shared other v => if other = origin then shared other v else shared other (restore origin whole v)
  | list items => list (restoreItems origin whole items)
  | pair first second => pair (restore origin whole first) (restore origin whole second)
  | map entries => map (restoreEntries origin whole entries)
  | v => v

def restoreItems (origin : Origin) (whole : Value) : List Value → List Value
  | [] => []
  | item :: rest => restore origin whole item :: restoreItems origin whole rest

def restoreEntries (origin : Origin) (whole : Value) : List (Value × Value) → List (Value × Value)
  | [] => []
  | (key, item) :: rest => (key, restore origin whole item) :: restoreEntries origin whole rest

end

def entries? : Value → Option Entries
  | map entries => some entries
  | shared origin (map entries) => some (restoreEntries origin (shared origin (map entries)) entries)
  | _ => none

def items? : Value → Option (List Value)
  | list items => some items
  | pair first second => some [first, second]
  | set items => some items
  | map entries => some (entries.map Prod.fst)
  | bytes data => some (data.map fun byte => int byte.toNat)
  | shared origin v => v.items?.map (restoreItems origin (shared origin v))
  | _ => none

def record (fields : List (String × Value)) : Value :=
  map (fields.map fun field => (text field.1, field.2))

def texts (items : List String) : Value :=
  list (items.map text)

end Value

end PluginAudit
