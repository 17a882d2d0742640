import PluginAudit.Number.Reader
import PluginAudit.Value.Text

namespace PluginAudit

inductive Cause where
  | missing
  | notText
  | notList
  | notMap
  | notInt
  | notIntText
  | notWhole
  | notFinite
  | tooLarge
  | notChoice (choices : List String)
  | notRecord (name : String)
  | tooShort (least actual : Nat)
  | wrongHealth (expected : String) (count : Nat)
  | noText (fault : DataFault)
deriving Repr, DecidableEq

namespace Cause

def kind : Cause → String
  | missing => "missing"
  | notText => "string_type"
  | notList => "list_type"
  | notMap => "dict_type"
  | notInt => "int_type"
  | notIntText => "int_parsing"
  | notWhole => "int_from_float"
  | notFinite => "finite_number"
  | tooLarge => "int_parsing_size"
  | notChoice _ => "literal_error"
  | notRecord _ => "model_type"
  | tooShort _ _ => "too_short"
  | wrongHealth _ _ => "value_error"
  | noText _ => "value_error"

def choiceText : List String → String
  | [] => ""
  | [s] => "'" ++ s ++ "'"
  | [s, t] => "'" ++ s ++ "' or '" ++ t ++ "'"
  | s :: rest => "'" ++ s ++ "', " ++ choiceText rest

def message : Cause → String
  | missing => "Field required"
  | notText => "Input should be a valid string"
  | notList => "Input should be a valid list"
  | notMap => "Input should be a valid dictionary"
  | notInt => "Input should be a valid integer"
  | notIntText => "Input should be a valid integer, unable to parse string as an integer"
  | notWhole => "Input should be a valid integer, got a number with a fractional part"
  | notFinite => "Input should be a finite number"
  | tooLarge => "Unable to parse input string as an integer, exceeded maximum size"
  | notChoice choices => "Input should be " ++ choiceText choices
  | notRecord name => "Input should be a valid dictionary or instance of " ++ name
  | tooShort least actual =>
    s!"List should have at least {least} items after validation, not {actual}"
  | wrongHealth expected count => s!"Value error, health must be '{expected}' for {count} conflict(s)"
  | noText fault => "Value error, " ++ fault.message

end Cause

/-- A step into a value: to a named field, or to a place in a list. -/
inductive Step where
  | name (s : String)
  | index (n : Int)
deriving Repr, DecidableEq

namespace Step

def wordLimit : Int :=
  (Nat.pow 2 63 : Nat)

def fits (n : Int) : Bool :=
  -wordLimit ≤ n && n < wordLimit

def ofShown (key : Value) : Step :=
  match key.shown with
  | .ok s => name s
  | .error _ => name s!"<unprintable {key.kind} object>"

def ofKey : Value → Step
  | .text s => name s
  | .int n => if fits n then index n else ofShown (.int n)
  | .bool b => index (if b then 1 else 0)
  | key => ofShown key

end Step

structure Fault where
  place : List Step
  cause : Cause
deriving Repr, DecidableEq

inductive Checked (α : Type) where
  | ok (a : α)
  -- The value has these faults, at least one.
  | faulty (faults : List Fault)
  -- Reading ended at a value of this kind, where something with items was due.
  | aborted (kind : String)
deriving Repr

namespace Checked

variable {α β γ : Type}

def fail (cause : Cause) : Checked α :=
  faulty [⟨[], cause⟩]

def map (f : α → β) : Checked α → Checked β
  | ok a => ok (f a)
  | faulty faults => faulty faults
  | aborted kind => aborted kind

def both : Checked α → Checked β → Checked (α × β)
  | aborted kind, _ => aborted kind
  | _, aborted kind => aborted kind
  | ok a, ok b => ok (a, b)
  | ok _, faulty faults => faulty faults
  | faulty faults, ok _ => faulty faults
  | faulty faults, faulty more => faulty (faults ++ more)

def andThen (x : Checked α) (f : α → Checked β) : Checked β :=
  match x with
  | ok a => f a
  | faulty faults => faulty faults
  | aborted kind => aborted kind

def under (step : Step) : Checked α → Checked α
  | faulty faults => faulty (faults.map fun fault => { fault with place := step :: fault.place })
  | x => x

def all : List (Checked α) → Checked (List α)
  | [] => ok []
  | x :: rest => (x.both (all rest)).map fun pair => pair.1 :: pair.2

instance : Functor Checked where
  map := map

instance : Applicative Checked where
  pure := ok
  seq f x := (f.both (x ())).map fun pair => pair.1 pair.2

end Checked

abbrev Reader (α : Type) := Value → Checked α

namespace Reader

variable {α : Type}

def text : Reader String
  | .text s => .ok s
  | _ => .fail .notText

/-- Digits without the zeros and low lines at their start, of which a last one stays if nothing or a point follows. A minus may
follow them too. -/
def withoutZeros? (text : List Char) : Option (List Char) :=
  match text with
  | '0' :: _ =>
    let zeros := text.takeWhile fun c => c == '0' || c == '_'
    match text.drop zeros.length with
    | [] => some (zeros.drop (zeros.length - 1))
    | '.' :: rest => some (zeros.drop (zeros.length - 1) ++ '.' :: rest)
    | c :: rest => if c.isDigit || c == '-' then some (c :: rest) else none
  | c :: _ => if c.isDigit || c == '-' then some text else none
  | [] => none

def withoutFraction (text : List Char) : List Char :=
  let whole := text.takeWhile (· != '.')
  let fraction := text.drop (whole.length + 1)
  if !fraction.isEmpty && fraction.all (· == '0') then whole else text

def withoutLowLines (text : List Char) : List Char :=
  let pieces := text.splitBy fun a b => a != '_' && b != '_'
  let lone := pieces.zipIdx.all fun entry => (entry.1 == ['_']) == (entry.2 % 2 == 1)
  if lone && pieces.length % 2 == 1 then text.filter (· != '_') else text

/-- Digits with no needless zero before them, perhaps behind a minus. Too many digits count also before other characters. -/
def bareInt (text : List Char) : Number.IntText :=
  let (negative, unsigned) := match text with
    | '-' :: rest => (true, rest)
    | text => (false, text)
  let run := unsigned.takeWhile Char.isDigit
  if run.head? == some '0' then if unsigned == ['0'] then .int 0 else .other
  else if Number.digitLimit < run.length then .tooLong run.length
  else if run.isEmpty || run.length < unsigned.length then .other
  else
    let n : Int := Text.ofDigits 10 (run.filterMap Text.asciiDigit?)
    .int (if negative then -n else n)

/-- An integer as it is to be, from one written with white space around it, a plus, needless zeros, low lines between its digits, and
a fraction of zeros. -/
def cleaned? (text : List Char) : Option (List Char) := do
  let (start, unsigned) ← match Text.trimBy Text.isWhite text with
    | '-' :: rest => some (['-'], rest)
    | '+' :: '-' :: _ => none
    | '+' :: rest => some ([], rest)
    | text => some ([], text)
  let digits ← withoutZeros? unsigned
  return start ++ withoutLowLines (withoutFraction digits)

/-- The integer that a text holds. Only one that needs no cleaning can be told to be too long. -/
def wholeText (s : String) : Number.IntText :=
  match bareInt s.toList with
  | .other =>
    match (cleaned? s.toList).map bareInt with
    | some (.int n) => .int n
    | _ => .other
  | found => found

def fitsWord (n : Int) : Bool :=
  -Step.wordLimit < n && n < Step.wordLimit

/-- An integer: also a truth value, a number without fraction, or a text of one. -/
def int : Reader Int
  | .int n => .ok n
  | .bool b => .ok (if b then 1 else 0)
  | .float x =>
    match x with
    | .finite _ _ _ =>
      match x.toInt? with
      | some n => if fitsWord n then .ok n else .fail .tooLarge
      | none => .fail .notWhole
    | _ => .fail .notFinite
  | .text s =>
    match wholeText s with
    | .int n => .ok n
    | .tooLong _ => .fail .tooLarge
    | .other => .fail .notIntText
  | _ => .fail .notInt

def list (item : Reader α) : Reader (List α)
  | .list items => .all (items.zipIdx.map fun entry => (item entry.1).under (.index entry.2))
  | _ => .fail .notList

def entries (item : Reader α) : Reader (List (String × α))
  | .map pairs => .all (pairs.map fun entry =>
      let step := Step.ofKey entry.1
      (((text entry.1).under (.name "[key]")).both (item entry.2)).under step)
  | _ => .fail .notMap

def choice (words : List (String × α)) : Reader α := fun v =>
  match v with
  | .text s =>
    match words.lookup s with
    | some a => .ok a
    | none => .fail (.notChoice (words.map Prod.fst))
  | _ => .fail (.notChoice (words.map Prod.fst))

def optional (item : Reader α) : Reader (Option α)
  | .null => .ok none
  | v => (item v).map some

def field? (record : Value.Entries) : List String → Option (String × Value)
  | [] => none
  | name :: rest =>
    match record.named? name with
    | some v => some (name, v)
    | none => field? record rest

def required (record : Value.Entries) (names : List String) (item : Reader α) : Checked α :=
  match field? record names with
  | some (name, v) => (item v).under (.name name)
  | none => .faulty [⟨names.head?.toList.map .name, .missing⟩]

def withDefault (record : Value.Entries) (names : List String) (item : Reader α) (default : α) : Checked α :=
  match field? record names with
  | some (name, v) => (item v).under (.name name)
  | none => .ok default

def record (name : String) (fields : Value.Entries → Checked α) : Reader α
  | .map entries => fields entries
  | _ => .fail (.notRecord name)

end Reader

end PluginAudit
