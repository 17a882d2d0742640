import PluginAudit.Value.Basic
import PluginAudit.Value.DataFault

namespace PluginAudit.Json

open PluginAudit.Text

/-- What a text has not, or should not have, at some place. -/
inductive Problem where
  | value
  | name
  | colon
  | comma
  | extra
  | unterminated
  | control
  | escape
  | unicodeEscape
  | byteOrderMark
deriving Repr, DecidableEq

namespace Problem

def message : Problem → String
  | value => "Expecting value"
  | name => "Expecting property name enclosed in double quotes"
  | colon => "Expecting ':' delimiter"
  | comma => "Expecting ',' delimiter"
  | extra => "Extra data"
  | unterminated => "Unterminated string starting at"
  | control => "Invalid control character at"
  | escape => "Invalid \\escape"
  | unicodeEscape => "Invalid \\uXXXX escape"
  | byteOrderMark => "Unexpected UTF-8 BOM (decode using utf-8-sig)"

end Problem

structure Stop where
  problem : Problem
  rest : List Char
deriving Repr, DecidableEq

namespace Stop

def message (stop : Stop) (text : List Char) : String :=
  let place := text.length - stop.rest.length
  let before := text.take place
  let line := before.count '\n' + 1
  let column := (before.reverse.takeWhile (· != '\n')).length + 1
  s!"{stop.problem.message}: line {line} column {column} (char {place})"

end Stop

/-- Why a text holds no value: it is not well formed, or there is no value for what it says. -/
inductive Fault where
  | stop (place : Stop)
  | data (fault : DataFault)
deriving Repr, DecidableEq

abbrev Read (α : Type) := Except Fault (α × List Char)

def refuse {α : Type} (problem : Problem) (rest : List Char) : Except Fault α :=
  .error (.stop ⟨problem, rest⟩)

def isSpace (c : Char) : Bool :=
  c == ' ' || c == '\t' || c == '\n' || c == '\r'

def skipSpace (text : List Char) : List Char :=
  text.dropWhile isSpace

def unit? (a b c d : Char) : Option Nat := do
  let a ← hexDigit? a
  let b ← hexDigit? b
  let c ← hexDigit? c
  let d ← hexDigit? d
  return ofDigits 16 [a, b, c, d]

def isHigh (unit : Nat) : Bool :=
  0xD800 ≤ unit && unit ≤ 0xDBFF

def isLow (unit : Nat) : Bool :=
  0xDC00 ≤ unit && unit ≤ 0xDFFF

def ofUnit (unit : Nat) : Char :=
  if isHigh unit || isLow unit then '\ufffd' else Char.ofNat unit

def ofPair (high low : Nat) : Char :=
  Char.ofNat (0x10000 + (high - 0xD800) * 0x400 + (low - 0xDC00))

def simpleEscape? : Char → Option Char
  | '\x22' => some '\x22'
  | '\\' => some '\\'
  | '/' => some '/'
  | 'b' => some '\x08'
  | 'f' => some '\x0c'
  | 'n' => some '\n'
  | 'r' => some '\r'
  | 't' => some '\t'
  | _ => none

def consTo (c : Char) (read : Read (List Char)) : Read (List Char) :=
  read.map fun found => (c :: found.1, found.2)

def chars (opened : List Char) : List Char → Read (List Char)
  | [] => refuse .unterminated opened
  | '\x22' :: rest => .ok ([], rest)
  | ['\\'] => refuse .unterminated opened
  | '\\' :: 'u' :: a :: b :: c :: d :: rest =>
    match unit? a b c d, rest with
    | none, _ => refuse .unicodeEscape ('u' :: a :: b :: c :: d :: rest)
    | _, [] => refuse .unicodeEscape ('u' :: a :: b :: c :: d :: rest)
    | some high, '\\' :: 'u' :: e :: f :: g :: h :: i :: more =>
      if isHigh high then
        match unit? e f g h with
        | none => refuse .unicodeEscape ('u' :: e :: f :: g :: h :: i :: more)
        | some low =>
          if isLow low then consTo (ofPair high low) (chars opened (i :: more))
          else consTo (ofUnit high) (chars opened ('\\' :: 'u' :: e :: f :: g :: h :: i :: more))
      else consTo (ofUnit high) (chars opened ('\\' :: 'u' :: e :: f :: g :: h :: i :: more))
    | some unit, rest => consTo (ofUnit unit) (chars opened rest)
  | '\\' :: c :: rest =>
    match simpleEscape? c with
    | some d => consTo d (chars opened rest)
    | none => if c == 'u' then refuse .unicodeEscape (c :: rest) else refuse .escape ('\\' :: c :: rest)
  | c :: rest => if c.toNat < 0x20 then refuse .control (c :: rest) else consTo c (chars opened rest)

/-- The digits of the whole part: one zero, or any digits that do not start with one. -/
def wholeDigits : List Char → List Char
  | '0' :: _ => ['0']
  | text => text.takeWhile Char.isDigit

def fractionDigits : List Char → List Char
  | '.' :: rest => rest.takeWhile Char.isDigit
  | _ => []

def exponent? : List Char → Option (Int × List Char)
  | c :: rest =>
    if c == 'e' || c == 'E' then
      let (negative, rest) := Number.sign rest
      let digits := rest.takeWhile Char.isDigit
      if digits.isEmpty then none
      else
        let n : Int := ofDigits 10 (digits.filterMap asciiDigit?)
        some (if negative then -n else n, rest.drop digits.length)
    else none
  | [] => none

section

variable (limit : Number.Limit)

def integer (negative : Bool) (digits : List Nat) : Except Fault Value :=
  let n : Int := ofDigits 10 digits
  match limit.exceeded? digits.length with
  | some most => .error (.data (.longInteger most digits.length))
  | none => .ok (.int (if negative then -n else n))

def number? (text : List Char) : Option (Read Value) :=
  let negative := text.head? == some '-'
  let unsigned := if negative then text.drop 1 else text
  let whole := wholeDigits unsigned
  let rest := unsigned.drop whole.length
  let fraction := fractionDigits rest
  let rest := if fraction.isEmpty then rest else rest.drop (fraction.length + 1)
  let wholeValues := whole.filterMap asciiDigit?
  let fractionValues := fraction.filterMap asciiDigit?
  if whole.isEmpty then none
  else
    match exponent? rest with
    | some (exponent, rest) => some (.ok (.float (Number.ofParts negative wholeValues fractionValues exponent), rest))
    | none =>
      if fraction.isEmpty then some ((integer limit negative wholeValues).map fun v => (v, rest))
      else some (.ok (.float (Number.ofParts negative wholeValues fractionValues 0), rest))

def words : List (String × Value) :=
  [("null", .null), ("true", .bool true), ("false", .bool false), ("NaN", .float .nan),
    ("Infinity", .float (.infinite false)), ("-Infinity", .float (.infinite true))]

def word? (text : List Char) : Option (Value × List Char) :=
  words.findSome? fun word => (word.1.toList.isPrefixOf? text).map fun rest => (word.2, rest)

def scalar (text : List Char) : Read Value :=
  match word? text with
  | some found => .ok found
  | none =>
    match number? limit text with
    | some found => found
    | none => refuse .value text

mutual

def value : Nat → List Char → Read Value
  | 0, text => refuse .value text
  | fuel + 1, text =>
    match text with
    | '\x22' :: rest => (chars text rest).map fun found => (.text (String.ofList found.1), found.2)
    | '[' :: rest =>
      match skipSpace rest with
      | ']' :: rest => .ok (.list [], rest)
      | rest => (items fuel rest).map fun found => (.list found.1, found.2)
    | '\x7b' :: rest =>
      match skipSpace rest with
      | '\x7d' :: rest => .ok (.map [], rest)
      | rest => (members fuel rest).map fun found => (.map (Value.Entries.ofList found.1), found.2)
    | text => scalar limit text

def items : Nat → List Char → Read (List Value)
  | 0, text => refuse .value text
  | fuel + 1, text =>
    match value fuel text with
    | .error fault => .error fault
    | .ok (item, rest) =>
      match skipSpace rest with
      | ']' :: rest => .ok ([item], rest)
      | ',' :: rest => (items fuel (skipSpace rest)).map fun found => (item :: found.1, found.2)
      | rest => refuse .comma rest

def members : Nat → List Char → Read (List (Value × Value))
  | 0, text => refuse .value text
  | fuel + 1, text =>
    match text with
    | '\x22' :: rest =>
      match chars text rest with
      | .error fault => .error fault
      | .ok (key, rest) =>
        match skipSpace rest with
        | ':' :: rest =>
          match value fuel (skipSpace rest) with
          | .error fault => .error fault
          | .ok (item, rest) =>
            let member := (Value.text (String.ofList key), item)
            match skipSpace rest with
            | '\x7d' :: rest => .ok ([member], rest)
            | ',' :: rest => (members fuel (skipSpace rest)).map fun found => (member :: found.1, found.2)
            | rest => refuse .comma rest
        | rest => refuse .colon rest
    | text => refuse .name text

end

def fuelFor (text : List Char) : Nat :=
  2 * text.length + 2

def readWithin (text : List Char) : Except Fault Value :=
  if text.head? = some '\ufeff' then refuse .byteOrderMark text
  else
    match value limit (fuelFor text) (skipSpace text) with
    | .error fault => .error fault
    | .ok (v, rest) =>
      match skipSpace rest with
      | [] => .ok v
      | rest => refuse .extra rest

end

def read (text : List Char) : Except Fault Value :=
  readWithin Number.usualLimit text

end PluginAudit.Json
