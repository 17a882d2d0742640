import PluginAudit.Report.Template.Fault

namespace PluginAudit.Template

open PluginAudit.Text

inductive Piece where
  | literal (text : List Char)
  | field (name : List Char) (conversion : Option Char) (format : List Char)
deriving DecidableEq

/-- The name of a field, the mark that ends it, and what follows the mark. Between brackets no mark has a meaning;
`inItem` says that a bracket is open. -/
def fieldName : Bool → List Char → Except Fault (List Char × Char × List Char)
  | _, [] => .error .unclosedField
  | true, c :: rest => (fieldName (c != ']') rest).map fun found => (c :: found.1, found.2)
  | false, c :: rest =>
    if c == '\x7b' then .error .openingInName
    else if c == '\x7d' || c == ':' || c == '!' then .ok ([], c, rest)
    else (fieldName (c == '[') rest).map fun found => (c :: found.1, found.2)

def fieldFormat : Nat → List Char → Except Fault (List Char × List Char)
  | _, [] => .error .unclosedFormat
  | depth, c :: rest =>
    if c == '\x7d' && depth ≤ 1 then .ok ([], rest)
    else
      let depth := if c == '\x7b' then depth + 1 else if c == '\x7d' then depth - 1 else depth
      (fieldFormat depth rest).map fun found => (c :: found.1, found.2)

def conversion? (c : Char) : Option Char :=
  if c.toNat = 0 then none else some c

def field (text : List Char) : Except Fault (Piece × List Char) := do
  let (name, mark, rest) ← fieldName false text
  if mark == '\x7d' then return (.field name none [], rest)
  else if mark == ':' then
    let (format, rest) ← fieldFormat 1 rest
    return (.field name none format, rest)
  else
    match rest with
    | [] => throw .noConversion
    | c :: '\x7d' :: rest => return (.field name (conversion? c) [], rest)
    | c :: ':' :: rest =>
      let (format, rest) ← fieldFormat 1 rest
      return (.field name (conversion? c) format, rest)
    | [_] => throw .unclosedFormat
    | _ => throw .noColon

/-- Pieces of a template up to its end, or up to the first fault in its form. `fuel` bounds their number. -/
def pieces : Nat → List Char → List Piece × Option Fault
  | 0, _ => ([], none)
  | fuel + 1, text =>
    let plain := text.takeWhile fun c => c != '\x7b' && c != '\x7d'
    match text.drop plain.length with
    | [] => ([.literal plain], none)
    | '\x7b' :: '\x7b' :: rest =>
      let (found, fault) := pieces fuel rest
      (.literal (plain ++ ['\x7b']) :: found, fault)
    | '\x7d' :: '\x7d' :: rest =>
      let (found, fault) := pieces fuel rest
      (.literal (plain ++ ['\x7d']) :: found, fault)
    | ['\x7b'] => ([.literal plain], some .singleOpening)
    | '\x7b' :: rest =>
      match field rest with
      | .error fault => ([.literal plain], some fault)
      | .ok (piece, rest) =>
        let (found, fault) := pieces fuel rest
        (.literal plain :: piece :: found, fault)
    | _ => ([.literal plain], some .singleClosing)

def numberLimit : Nat := Nat.pow 2 63

def ofDigits? (digits : List Nat) : Except Fault Nat :=
  let n := ofDigits 10 digits
  if n < numberLimit then .ok n else .error .tooManyDigits

/-- The number that a text spells, if it has digits only, of any script. Too many digits at its start are a fault in
either case. -/
def position? (text : List Char) : Except Fault (Option Nat) :=
  let digits := ((text.map digit?).takeWhile Option.isSome).filterMap id
  (ofDigits? digits).map fun n => if digits.isEmpty || digits.length < text.length then none else some n

inductive Step where
  | member (name : List Char)
  | item (name : List Char) (position : Option Nat)
deriving DecidableEq

def firstName (name : List Char) : List Char :=
  name.takeWhile fun c => c != '.' && c != '['

def step : List Char → Except Fault (Step × List Char)
  | '.' :: rest =>
    let name := firstName rest
    if name.isEmpty then .error .emptyStep else .ok (.member name, rest.drop name.length)
  | '[' :: rest => do
    let name := rest.takeWhile (· != ']')
    if name.length = rest.length then throw .unclosedItem
    let position ← position? name
    if name.isEmpty then throw .emptyStep
    return (.item name position, rest.drop (name.length + 1))
  | _ => .error .badStep

end PluginAudit.Template
