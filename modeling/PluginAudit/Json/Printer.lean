import PluginAudit.Number.Render
import PluginAudit.Value.Basic
import PluginAudit.Value.DataFault

namespace PluginAudit.Json

open PluginAudit.Text

structure Style where
  -- Whether characters beyond ASCII are written by their code.
  ascii : Bool
  -- Whether each item has a line of its own, two blanks deeper than what holds it.
  lines : Bool
deriving Repr, DecidableEq

def numberStyle : NumberStyle :=
  ⟨"", "Infinity", "NaN"⟩

def unitEscape (unit : Nat) : List Char :=
  '\\' :: 'u' :: hex 4 unit

def codeEscape (c : Char) : List Char :=
  let code := c.toNat
  if code < 0x10000 then unitEscape code
  else unitEscape (0xD800 + (code - 0x10000) / 0x400) ++ unitEscape (0xDC00 + (code - 0x10000) % 0x400)

def escaped (ascii : Bool) (c : Char) : List Char :=
  if c == '\x22' then ['\\', '\x22']
  else if c == '\\' then ['\\', '\\']
  else if c == '\n' then ['\\', 'n']
  else if c == '\r' then ['\\', 'r']
  else if c == '\t' then ['\\', 't']
  else if c == '\x08' then ['\\', 'b']
  else if c == '\x0c' then ['\\', 'f']
  else if c.toNat < 0x20 || (ascii && 0x7E < c.toNat) then codeEscape c
  else [c]

def string (ascii : Bool) (text : List Char) : List Char :=
  '\x22' :: text.flatMap (escaped ascii) ++ ['\x22']

namespace Style

def edge (style : Style) (depth : Nat) : List Char :=
  if style.lines then '\n' :: List.replicate (2 * depth) ' ' else []

def between (style : Style) (depth : Nat) : List Char :=
  if style.lines then ',' :: style.edge depth else [',', ' ']

def enclose (style : Style) (depth : Nat) (opening closing : Char) (parts : List (List Char)) : List Char :=
  if parts.isEmpty then [opening, closing]
  else opening :: style.edge (depth + 1) ++ (style.between (depth + 1)).intercalate parts ++ style.edge depth ++ [closing]

end Style

def scalarText : Value → String
  | .null => "null"
  | .bool true => "true"
  | .bool false => "false"
  | .int n => toString n
  | .float x => x.render numberStyle
  | _ => ""

def keyText : Value → String
  | .text s => s
  | v => scalarText v

mutual

def write (style : Style) (depth : Nat) : Value → List Char
  | .text s => string style.ascii s.toList
  | .list items => style.enclose depth '[' ']' (writeItems style (depth + 1) items)
  | .map entries => style.enclose depth '\x7b' '\x7d' (writeEntries style (depth + 1) entries)
  | .null => (scalarText .null).toList
  | .bool b => (scalarText (.bool b)).toList
  | .int n => (scalarText (.int n)).toList
  | .float x => (scalarText (.float x)).toList
  | .pair first second => style.enclose depth '[' ']' [write style (depth + 1) first, write style (depth + 1) second]
  | .shared _ v => write style depth v
  | .day _ => []
  | .moment _ => []
  | .bytes _ => []
  | .set _ => []
  | .around _ => []

def writeItems (style : Style) (depth : Nat) : List Value → List (List Char)
  | [] => []
  | item :: rest => write style depth item :: writeItems style depth rest

def writeEntries (style : Style) (depth : Nat) : List (Value × Value) → List (List Char)
  | [] => []
  | (key, item) :: rest =>
    (string style.ascii (keyText key).toList ++ ':' :: ' ' :: write style depth item) :: writeEntries style depth rest

end

def print (style : Style) (v : Value) : String :=
  String.ofList (write style 0 v)

/-- A part of a value that there is no text for: by its kind, because it stands inside itself, or by its size. -/
inductive Unwritable where
  | value (kind : String)
  | key (kind : String)
  | circular
  | integer (limit : Nat)
deriving Repr, DecidableEq

namespace Unwritable

def label : Unwritable → String
  | circular => "ValueError"
  | integer limit => (DataFault.unwritableInteger limit).label
  | _ => "TypeError"

def message : Unwritable → String
  | value kind => s!"Object of type {kind} is not JSON serializable"
  | key kind => "keys must be str, int, float, bool or None, not " ++ kind
  | circular => "Circular reference detected"
  | integer limit => (DataFault.unwritableInteger limit).message

end Unwritable

section

variable (limit : Number.Limit)

def unwritableInteger? (n : Int) : Option Unwritable :=
  (limit.exceeded? (Number.digitCount n)).map .integer

def unwritableKey? (key : Value) : Option Unwritable :=
  match key.bare with
  | .day d => some (.key (Value.day d).kind)
  | .moment m => some (.key (Value.moment m).kind)
  | .bytes data => some (.key (Value.bytes data).kind)
  | .int n => unwritableInteger? limit n
  | _ => none

mutual

/-- The first part of a value that cannot be written; the values of `path` are around it. -/
def unwritableIn? (path : List Origin) : Value → Option Unwritable
  | .day d => some (.value (Value.day d).kind)
  | .moment m => some (.value (Value.moment m).kind)
  | .bytes data => some (.value (Value.bytes data).kind)
  | .set items => some (.value (Value.set items).kind)
  | .list items => unwritableItem? path items
  | .pair first second => (unwritableIn? path first).or (unwritableIn? path second)
  | .map entries => unwritablePair? path entries
  | .shared origin v => if path.contains origin then some .circular else unwritableIn? (origin :: path) v
  | .around _ => some .circular
  | .int n => unwritableInteger? limit n
  | _ => none

def unwritableItem? (path : List Origin) : List Value → Option Unwritable
  | [] => none
  | item :: rest => (unwritableIn? path item).or (unwritableItem? path rest)

def unwritablePair? (path : List Origin) : List (Value × Value) → Option Unwritable
  | [] => none
  | (key, item) :: rest => ((unwritableKey? limit key).or (unwritableIn? path item)).or (unwritablePair? path rest)

end

def unwritable? (v : Value) : Option Unwritable :=
  unwritableIn? limit [] v

def dumpWithin (style : Style) (v : Value) : Except Unwritable String :=
  match unwritable? limit v with
  | some what => .error what
  | none => .ok (print style v)

end

def dump (style : Style) (v : Value) : Except Unwritable String :=
  dumpWithin Number.usualLimit style v

end PluginAudit.Json
