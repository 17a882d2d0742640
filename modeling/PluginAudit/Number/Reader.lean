import PluginAudit.Number.Binary64
import PluginAudit.Text.Blank
import PluginAudit.Text.Digit

namespace PluginAudit.Number

open PluginAudit.Text

def digitIn? (base : Nat) (c : Char) : Option Nat :=
  ((digit? c).or (hexDigit? c)).filter (· < base)

def digitsAfter (base : Nat) : Option Char → List Char → List Nat × List Char
  | _, [] => ([], [])
  | previous, c :: rest =>
    match digitIn? base c with
    | some d =>
      let (digits, text) := digitsAfter base (some c) rest
      (d :: digits, text)
    | none =>
      if c == '_' && (previous.bind (digitIn? base)).isSome && (rest.head?.bind (digitIn? base)).isSome then
        digitsAfter base (some c) rest
      else ([], c :: rest)

def digits (text : List Char) : List Nat × List Char :=
  digitsAfter 10 none text

def sign : List Char → Bool × List Char
  | '-' :: rest => (true, rest)
  | '+' :: rest => (false, rest)
  | text => (false, text)

/-- The most digits, leading zeros included, of an integer in a text. Without a limit there may be any number of them. -/
abbrev Limit := Option Nat

def Limit.exceeded? (limit : Limit) (digits : Nat) : Option Nat :=
  limit.filter (· < digits)

def digitLimit : Nat := 4300

def usualLimit : Limit :=
  some digitLimit

def digitCount (n : Int) : Nat :=
  (Nat.toDigits 10 n.natAbs).length

inductive IntText where
  | int (n : Int)
  | tooLong (digits : Nat)
  | other
deriving Repr, DecidableEq

/-- An integer and nothing else but white space around it. Too many digits count also before other characters. -/
def intText (text : List Char) : IntText :=
  let (negative, text) := sign (trimBy isWhite text)
  match digits text with
  | ([], _) => .other
  | (d :: ds, rest) =>
    if digitLimit < (d :: ds).length then .tooLong (d :: ds).length
    else if rest.isEmpty then
      let n : Int := ofDigits 10 (d :: ds)
      .int (if negative then -n else n)
    else .other

def readInt? (text : List Char) : Option Int :=
  match intText text with
  | .int n => some n
  | _ => none

def baseLetters : Nat → List Char
  | 2 => ['b', 'B']
  | 8 => ['o', 'O']
  | 16 => ['x', 'X']
  | _ => []

def withoutBase (base : Nat) (text : List Char) : List Char :=
  match text with
  | '0' :: letter :: rest => if (baseLetters base).contains letter then rest else text
  | text => text

/-- An integer in base two, eight or sixteen, and nothing else but white space around it. -/
def readIntIn? (base : Nat) (text : List Char) : Option Int :=
  let (negative, text) := sign (trimBy isWhite text)
  match digitsAfter base none (withoutBase base text) with
  | (d :: ds, []) =>
    let n : Int := ofDigits base (d :: ds)
    some (if negative then -n else n)
  | _ => none

def exponent? : List Char → Option Int
  | [] => some 0
  | c :: rest =>
    if c == 'e' || c == 'E' then
      let (negative, rest) := sign rest
      match digits rest with
      | (d :: ds, []) =>
        let n : Int := ofDigits 10 (d :: ds)
        some (if negative then -n else n)
      | _ => none
    else none

def ofParts (negative : Bool) (whole fraction : List Nat) (exponent : Int) : Binary64 :=
  Binary64.ofDecimal negative (ofDigits 10 (whole ++ fraction)) (exponent - fraction.length)

def readFinite? (negative : Bool) (text : List Char) : Option Binary64 := do
  let (whole, text) := digits text
  let (fraction, text) :=
    match text with
    | '.' :: rest => digits rest
    | _ => ([], text)
  if whole.isEmpty && fraction.isEmpty then none
  else
    let exponent ← exponent? text
    return ofParts negative whole fraction exponent

/-- A floating-point number, an infinity or no number, by any capitals, and nothing else but white space around it. -/
def readFloat? (text : List Char) : Option Binary64 :=
  let (negative, text) := sign (trimBy isWhite text)
  let word := String.ofList (text.map Char.toLower)
  if word = "inf" ∨ word = "infinity" then some (.infinite negative)
  else if word = "nan" then some .nan
  else readFinite? negative text

end PluginAudit.Number
