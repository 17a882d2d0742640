import PluginAudit.Number.Binary64
import PluginAudit.Report.Template.Filling

namespace PluginAudit.Template

open PluginAudit.Text

inductive Side where
  | left
  | right
  | centre
  | afterSign
deriving DecidableEq

def side? : Char → Option Side
  | '<' => some .left
  | '>' => some .right
  | '^' => some .centre
  | '=' => some .afterSign
  | _ => none

structure Format where
  fill : Char
  side : Side
  sign : Option Char
  unsignedZero : Bool
  -- The form with a mark for the base, or with a point that is kept.
  alternate : Bool
  width : Option Nat
  separator : Option Char
  precision : Option Nat
  code : Char
deriving DecidableEq

def fillAndSide : List Char → Option Char × Option Side × List Char
  | c :: d :: rest =>
    match side? d, side? c with
    | some side, _ => (some c, some side, rest)
    | none, some side => (none, some side, d :: rest)
    | none, none => (none, none, c :: d :: rest)
  | [c] =>
    match side? c with
    | some side => (none, some side, [])
    | none => (none, none, [c])
  | [] => (none, none, [])

def mark? (test : Char → Bool) : List Char → Option Char × List Char
  | c :: rest => if test c then (some c, rest) else (none, c :: rest)
  | [] => (none, [])

def leadingNumber (text : List Char) : Except Fault (Option Nat × List Char) :=
  let digits := (text.map digit?).takeWhile Option.isSome
  if digits.isEmpty then .ok (none, text)
  else (ofDigits? (digits.filterMap id)).map fun n => (some n, text.drop digits.length)

def separator? (text : List Char) : Except Fault (Option Char × List Char) :=
  match text with
  | ',' :: '_' :: _ => .error .twoSeparators
  | ',' :: rest => .ok (some ',', rest)
  | '_' :: ',' :: _ => .error .twoSeparators
  | '_' :: rest => .ok (some '_', rest)
  | _ => .ok (none, text)

def takesSeparator (mark code : Char) : Bool :=
  ['d', 'e', 'f', 'g', 'E', 'G', '%', 'F'].contains code || (mark == '_' && ['b', 'o', 'x', 'X'].contains code)

/-- A format for fillings of a kind, with the code and the side that it has if none is given. -/
def parseFormat (kind : String) (usual : Char) (usualSide : Side) (text : List Char) : Except Fault Format := do
  let (fill, side, rest) := fillAndSide text
  let (sign, rest) := mark? (fun c => c == '+' || c == '-' || c == ' ') rest
  let (unsigned, rest) := mark? (· == 'z') rest
  let (alternate, rest) := mark? (· == '#') rest
  let (zeros, rest) := if fill.isNone then mark? (· == '0') rest else (none, rest)
  let (width, rest) ← leadingNumber rest
  let (separator, rest) ← separator? rest
  let (precision, rest) ←
    match rest with
    | '.' :: more => do
      let (precision, more) ← leadingNumber more
      if precision.isNone then throw .noPrecision
      pure (precision, more)
    | rest => pure (none, rest)
  let code ←
    match rest with
    | [] => pure usual
    | [c] => pure c
    | _ => throw (.invalidFormat (String.ofList text) kind)
  match separator with
  | some mark => if !takesSeparator mark code then throw (.separatorOf mark code)
  | none => pure ()
  let zeroSide := if zeros.isSome && usualSide = .right then .afterSign else usualSide
  return { fill := fill.getD (zeros.getD ' '), side := side.getD zeroSide, sign, unsignedZero := unsigned.isSome,
           alternate := alternate.isSome, width, separator, precision, code }

def lengthLimit : Nat := Nat.pow 2 40

/-- Fills up to the width of a format. `start` stays in front of blanks that go behind the sign. -/
def pad (format : Format) (start body : List Char) : Except Fault (List Char) :=
  let width := format.width.getD 0
  let missing := width - (start.length + body.length)
  let blanks n := List.replicate n format.fill
  if lengthLimit < width then .error .tooLong
  else
    .ok (match format.side with
      | .left => start ++ body ++ blanks missing
      | .right => blanks missing ++ start ++ body
      | .centre => blanks (missing / 2) ++ start ++ body ++ blanks (missing - missing / 2)
      | .afterSign => start ++ blanks missing ++ body)

def layText (text : String) (format : Format) : Except Fault (List Char) :=
  if format.code != 's' then .error (.unknownCode format.code "str")
  else if format.sign = some ' ' then .error .spacedText
  else if format.sign.isSome then .error .signedText
  else if format.unsignedZero then .error (.unsignedZero "string")
  else if format.alternate then .error .alternateText
  else if format.side = .afterSign then .error .alignedText
  else pad format [] ((format.precision.map fun n => text.toList.take n).getD text.toList)

/-- Groups of `size` digits, the last first and each with its last digit first, with zeros up to `least` characters.
A group takes a character, so `fuel` above the number of digits and `least` is enough. -/
def digitGroups (size : Nat) : Nat → Nat → List Char → List (List Char)
  | 0, _, _ => []
  | fuel + 1, least, digits =>
    let length := min size (max (max digits.length least) 1)
    let group := digits.take length
    let padded := group ++ List.replicate (length - group.length) '0'
    let rest := digits.drop length
    if rest.isEmpty && least ≤ length then [padded] else padded :: digitGroups size fuel (least - length - 1) rest

def grouped (format : Format) (least : Nat) (digits : List Char) : List Char :=
  match format.separator with
  | none => List.replicate (least - digits.length) '0' ++ digits
  | some mark =>
    let size := if ['b', 'o', 'x', 'X'].contains format.code then 4 else 3
    ([mark].intercalate (digitGroups size (digits.length + least + 1) least digits.reverse)).reverse

def signOf (format : Format) : List Char :=
  match format.sign with
  | some '+' => ['+']
  | some ' ' => [' ']
  | _ => []

/-- A number from its parts: a mark for the base, digits that can be grouped, and what stands behind them. Zeros that fill
the number up behind its sign are grouped with its digits. -/
def layNumber (format : Format) (baseMark digits tail : List Char) : Except Fault (List Char) :=
  let start := signOf format ++ baseMark
  let least := if format.fill == '0' && format.side = .afterSign then format.width.getD 0 - (start.length + tail.length) else 0
  if lengthLimit < least then .error .tooLong else pad format start (grouped format least digits ++ tail)

def fixed (n places : Nat) (alternate : Bool) : List Char × List Char :=
  (Nat.toDigits 10 n, if places = 0 && !alternate then [] else '.' :: List.replicate places '0')

def significant (n size : Nat) : List Char × Nat :=
  let length := (Nat.toDigits 10 n).length
  if length ≤ size then (Nat.toDigits 10 n ++ List.replicate (size - length) '0', length - 1)
  else
    let rounded := Nat.toDigits 10 (Binary64.roundDiv n (Nat.pow 10 (length - size)))
    (rounded.take size, length - 1 + (rounded.length - size))

def stripZeros (digits : List Char) : List Char :=
  (digits.reverse.dropWhile (· == '0')).reverse

def exponential (mark : Char) (digits : List Char) (exponent : Nat) (alternate : Bool) : List Char × List Char :=
  let rest := digits.drop 1
  (digits.take 1, (if rest.isEmpty && !alternate then [] else '.' :: rest) ++ mark :: '+' :: decimal 2 exponent)

/-- `size` digits in all, with an exponent for a number that has more. Zeros at the end are kept in the alternate form. -/
def general (mark : Char) (n size : Nat) (alternate : Bool) : List Char × List Char :=
  let (digits, exponent) := significant n size
  if exponent < size then
    if alternate then fixed n (size - 1 - exponent) true else fixed n 0 false
  else exponential mark (if alternate then digits else stripZeros digits) exponent alternate

def precisionLimit : Nat := Nat.pow 2 31

def layFraction (n : Nat) (format : Format) : Except Fault (List Char) :=
  let precision := format.precision.getD 6
  let alternate := format.alternate
  if precisionLimit ≤ precision then .error .longPrecision
  else
    let (digits, tail) :=
      match format.code with
      | 'e' => let s := significant n (precision + 1); exponential 'e' s.1 s.2 alternate
      | 'E' => let s := significant n (precision + 1); exponential 'E' s.1 s.2 alternate
      | 'g' => general 'e' n (max precision 1) alternate
      | 'G' => general 'E' n (max precision 1) alternate
      | '%' => let f := fixed (100 * n) precision alternate; (f.1, f.2 ++ ['%'])
      | _ => fixed n precision alternate
    layNumber format [] digits tail

def layCharacter (n : Nat) (format : Format) : Except Fault (List Char) :=
  if format.sign.isSome then .error .signedCharacter
  else if format.alternate then .error .alternateCharacter
  else if 0x110000 ≤ n then .error .characterRange
  else pad format [] [Char.ofNat n]

def layWhole (n : Nat) (format : Format) : Except Fault (List Char) :=
  let mark (text : String) := if format.alternate then text.toList else []
  if format.precision.isSome then .error .precisionOfCount
  else if format.unsignedZero then .error (.unsignedZero "integer")
  else
    match format.code with
    | 'c' => layCharacter n format
    | 'b' => layNumber format (mark "0b") (Nat.toDigits 2 n) []
    | 'o' => layNumber format (mark "0o") (Nat.toDigits 8 n) []
    | 'x' => layNumber format (mark "0x") (Nat.toDigits 16 n) []
    | 'X' => layNumber format (mark "0X") ((Nat.toDigits 16 n).map Char.toUpper) []
    | _ => layNumber format [] (Nat.toDigits 10 n) []

def layCount (n : Nat) (format : Format) : Except Fault (List Char) :=
  if ['b', 'c', 'd', 'o', 'x', 'X', 'n'].contains format.code then layWhole n format
  else if ['e', 'E', 'f', 'F', 'g', 'G', '%'].contains format.code then layFraction n format
  else .error (.unknownCode format.code "int")

def lay (filling : Filling) (format : List Char) : Except Fault (List Char) :=
  if format.isEmpty then .ok filling.display.toList
  else
    match filling with
    | .text s => parseFormat "str" 's' .left format >>= layText s
    | .count n => parseFormat "int" 'd' .right format >>= layCount n
    | _ => .error (.noFormats filling.kindName)

end PluginAudit.Template
