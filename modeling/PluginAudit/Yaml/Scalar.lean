import PluginAudit.Number.Reader
import PluginAudit.Text.Base64
import PluginAudit.Text.Case
import PluginAudit.Value.Basic
import PluginAudit.Yaml.Fault
import PluginAudit.Yaml.Tag
import PluginAudit.Yaml.Timestamp

namespace PluginAudit.Yaml

open PluginAudit.Text

def trueWords : List String :=
  ["yes", "Yes", "YES", "true", "True", "TRUE", "on", "On", "ON"]

def falseWords : List String :=
  ["no", "No", "NO", "false", "False", "FALSE", "off", "Off", "OFF"]

def nullWords : List String :=
  ["", "~", "null", "Null", "NULL"]

def colonPieces : List Char → List (List Char)
  | [] => [[]]
  | c :: rest =>
    match c, colonPieces rest with
    | ':', found => [] :: found
    | c, piece :: more => (c :: piece) :: more
    | c, [] => [[c]]

def areDigits (base : Nat) (text : List Char) : Bool :=
  !text.isEmpty && text.all fun c => c == '_' || (hexDigit? c).any (· < base)

def isSixtieth : List Char → Bool
  | [c] => c.isDigit
  | [c, d] => '0' ≤ c && c ≤ '5' && d.isDigit
  | _ => false

def startsWithDigit (least : Char) (text : List Char) : Bool :=
  text.head?.any fun c => least ≤ c && c ≤ '9'

/-- An unsigned integer: binary, octal with a leading zero, decimal, or in base sixteen or sixty. -/
def isNatural (text : List Char) : Bool :=
  match text with
  | ['0'] => true
  | '0' :: 'b' :: digits => areDigits 2 digits
  | '0' :: 'x' :: digits => areDigits 16 digits
  | '0' :: digits => areDigits 8 digits
  | text =>
    startsWithDigit '1' text &&
      match colonPieces text with
      | first :: more => areDigits 10 first && more.all isSixtieth
      | [] => false

def isInt (text : List Char) : Bool :=
  isNatural (Number.sign text).2

def isNumeral (c : Char) : Bool :=
  c.isDigit || c == '_'

def isExponent : List Char → Bool
  | [] => true
  | e :: s :: digits =>
    (e == 'e' || e == 'E') && (s == '-' || s == '+') && !digits.isEmpty && digits.all Char.isDigit
  | _ => false

def isPointed (text : List Char) : Bool :=
  let before := text.takeWhile (· != '.')
  let behind := text.drop (before.length + 1)
  let fraction := behind.takeWhile isNumeral
  text.contains '.' &&
    match colonPieces before with
    | [whole] => startsWithDigit '0' whole && whole.all isNumeral && isExponent (behind.drop fraction.length)
    | first :: more =>
      startsWithDigit '0' first && first.all isNumeral && more.all isSixtieth && fraction.length == behind.length
    | [] => false

def isFraction : List Char → Bool
  | '.' :: behind => startsWithDigit '0' behind && isExponent (behind.dropWhile isNumeral)
  | _ => false

def isFloat (text : List Char) : Bool :=
  let unsigned := (Number.sign text).2
  [".inf", ".Inf", ".INF"].contains (String.ofList unsigned) || [".nan", ".NaN", ".NAN"].contains (String.ofList text) ||
    isFraction text || isPointed unsigned

def loneMarks : List String :=
  ["!", "&", "*"]

def formOf (text : List Char) : Tag :=
  let word := String.ofList text
  if trueWords.contains word || falseWords.contains word then .bool
  else if nullWords.contains word then .null
  else if word = "<<" then .merge
  else if word = "=" then .value
  else if loneMarks.contains word then .other
  else if isInt text then .int
  else if isFloat text then .float
  else if (Timestamp.ofForm? text).isSome then .timestamp
  else .str

/-- The tag of a scalar without one. A line break at its end does not count, unless there is nothing else. -/
def form (text : List Char) : Tag :=
  if text == ['\n'] then .str else formOf (withoutBreak text)

def isOwnText (text : List Char) : Bool :=
  form text == .str

def integerIn (base : Nat) (text : List Char) : Except DataFault Int :=
  match Number.readIntIn? base text with
  | some n => .ok n
  | none => .error (.notInteger base (String.ofList text))

def decimalInteger (text : List Char) : Except DataFault Int :=
  match Number.intText text with
  | .int n => .ok n
  | .tooLong digits => .error (.longInteger Number.digitLimit digits)
  | .other => .error (.notInteger 10 (String.ofList text))

def unsignedInteger (text : List Char) : Except DataFault Int :=
  match text with
  | [] => .error .noNumber
  | ['0'] => .ok 0
  | '0' :: 'b' :: digits => integerIn 2 digits
  | '0' :: 'x' :: digits => integerIn 16 digits
  | '0' :: digits => integerIn 8 ('0' :: digits)
  | text =>
    if text.contains ':' then do
      let parts ← (colonPieces text).mapM decimalInteger
      return parts.foldl (fun n d => n * 60 + d) 0
    else decimalInteger text

def unsigned (text : List Char) : Except DataFault (Bool × List Char) :=
  let bare := text.filter (· != '_')
  if bare.isEmpty then .error .noNumber else .ok (Number.sign bare)

def integer (text : List Char) : Except DataFault Value := do
  let (negative, text) ← unsigned text
  let n ← unsignedInteger text
  return .int (if negative then -n else n)

def decimalFloat (text : List Char) : Except DataFault Binary64 :=
  match Number.readFloat? text with
  | some x => .ok x
  | none => .error (.notFloat (String.ofList text))

/-- The sum of parts in base sixty, the last of them first; each sum and product is rounded. -/
def sumSixtieths : Nat → Binary64 → List Binary64 → Except DataFault Binary64
  | _, sum, [] => .ok sum
  | unit, sum, part :: rest =>
    match Binary64.ofInt unit with
    | .finite negative m e => sumSixtieths (unit * 60) (sum.add (part.mul (.finite negative m e))) rest
    | _ => .error .tooLargeForFloat

def unsignedFloat (text : List Char) : Except DataFault Binary64 :=
  if text == ".inf".toList then .ok (.infinite false)
  else if text == ".nan".toList then .ok .nan
  else if text.contains ':' then do
    let parts ← (colonPieces text).mapM decimalFloat
    sumSixtieths 1 .zero parts.reverse
  else decimalFloat text

def floatText (text : List Char) : Except DataFault (Bool × List Char) :=
  unsigned (small (text.filter (· != '_')))

def float (text : List Char) : Except DataFault Value := do
  let (negative, text) ← floatText text
  let x ← unsignedFloat text
  return .float (if negative then x.neg else x)

def namesNan (text : List Char) : Bool :=
  match floatText text with
  | .ok (_, text) => text == ".nan".toList
  | .error _ => false

def timestamp (text : List Char) : Except DataFault Value :=
  match Timestamp.ofText? text with
  | none => .error .notTime
  | some t =>
    match t.resolve with
    | .ok (.inl d) => .ok (.day d)
    | .ok (.inr m) => .ok (.moment m)
    | .error fault => .error (.calendar fault)

def truth (text : List Char) : Except DataFault Value :=
  let word := String.ofList (small text)
  if ["yes", "true", "on"].contains word then .ok (.bool true)
  else if ["no", "false", "off"].contains word then .ok (.bool false)
  else .error (.notTruth word)

def binary (text : List Char) : Except Fault Value :=
  if text.all fun c => c.toNat < 0x80 then (require (Base64.decode? text)).map .bytes else refuse

def scalarValue (tag : Tag) (text : List Char) : Except Fault Value :=
  match tag with
  | .null => .ok .null
  | .bool => (truth text).mapError .data
  | .int => (integer text).mapError .data
  | .float => (float text).mapError .data
  | .timestamp => (timestamp text).mapError .data
  | .binary => binary text
  | .str => .ok (.text (String.ofList text))
  | _ => refuse

end PluginAudit.Yaml
