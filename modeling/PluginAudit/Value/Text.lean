import PluginAudit.Number.Render
import PluginAudit.Text.Quoted
import PluginAudit.Value.Basic
import PluginAudit.Value.DataFault

namespace PluginAudit.Value

def joined (between : String) : List String → String
  | [] => ""
  | [s] => s
  | s :: rest => s ++ between ++ joined between rest

def loopMark : Value → String
  | list _ => "[...]"
  | map _ => "\x7b...\x7d"
  | _ => "..."

def shownByte (mark : Char) (byte : UInt8) : List Char :=
  let c := Char.ofNat byte.toNat
  if c.toNat < 0x7F then Text.quotedChar mark c else Text.escapedChar c

def shownBytes (data : List UInt8) : String :=
  let mark := Text.quoteMark (data.map fun byte => Char.ofNat byte.toNat)
  String.ofList ('b' :: mark :: data.flatMap (shownByte mark) ++ [mark])

abbrev Enclosing := List (Origin × String)

mutual

def shownIn (path : Enclosing) : Value → String
  | null => "None"
  | bool true => "True"
  | bool false => "False"
  | int n => toString n
  | float x => x.render .plain
  | text s => Text.quoted s
  | day d => d.shown
  | moment m => m.shown
  | bytes data => shownBytes data
  | list items => "[" ++ joined ", " (shownItems path items) ++ "]"
  | pair first second => "(" ++ shownIn path first ++ ", " ++ shownIn path second ++ ")"
  | set [] => "set()"
  | set (item :: rest) => "\x7b" ++ joined ", " (shownItems path (item :: rest)) ++ "\x7d"
  | map entries => "\x7b" ++ joined ", " (shownEntries path entries) ++ "\x7d"
  | shared origin v =>
    match path.lookup origin with
    | some mark => mark
    | none => shownIn ((origin, v.loopMark) :: path) v
  | around origin => (path.lookup origin).getD ""

def shownItems (path : Enclosing) : List Value → List String
  | [] => []
  | item :: rest => shownIn path item :: shownItems path rest

def shownEntries (path : Enclosing) : List (Value × Value) → List String
  | [] => []
  | (key, item) :: rest => (shownIn path key ++ ": " ++ shownIn path item) :: shownEntries path rest

end

def shownText (v : Value) : String :=
  shownIn [] v

/-- A value as a text: a text is itself, without quotes, and days and moments are written by their digits. -/
def displayText (v : Value) : String :=
  match v.bare with
  | text s => s
  | day d => d.display
  | moment m => m.display
  | _ => v.shownText

mutual

def isWritable : Value → Bool
  | int n => Number.digitCount n ≤ Number.digitLimit
  | list items => areWritable items
  | pair first second => isWritable first && isWritable second
  | set items => areWritable items
  | map entries => areWritableEntries entries
  | shared _ v => isWritable v
  | _ => true

def areWritable : List Value → Bool
  | [] => true
  | item :: rest => isWritable item && areWritable rest

def areWritableEntries : List (Value × Value) → Bool
  | [] => true
  | (key, item) :: rest => isWritable key && isWritable item && areWritableEntries rest

end

def ifWritable (v : Value) (written : String) : Except DataFault String :=
  if v.isWritable then .ok written else .error (.unwritableInteger Number.digitLimit)

def shown (v : Value) : Except DataFault String :=
  v.ifWritable v.shownText

def display (v : Value) : Except DataFault String :=
  v.ifWritable v.displayText

end PluginAudit.Value
