import PluginAudit.Calendar
import PluginAudit.Text.Digit

namespace PluginAudit.Yaml

open PluginAudit.Text

/-- The parts of a moment behind its day. A zone is an offset in minutes. -/
structure Clock where
  hour : List Char
  minute : List Char
  second : List Char
  fraction : List Char
  zone : Option Int
deriving DecidableEq

structure Timestamp where
  year : List Char
  month : List Char
  day : List Char
  clock : Option Clock
deriving DecidableEq

def digitValue (text : List Char) : Nat :=
  ofDigits 10 (text.filterMap asciiDigit?)

def withoutBreak (text : List Char) : List Char :=
  if text.getLast? == some '\n' then text.dropLast else text

/-- Digits at the start of a text, at least `least` and at most `most`, and what follows. -/
def takeDigits (least most : Nat) (text : List Char) : Option (List Char × List Char) :=
  let digits := (text.takeWhile Char.isDigit).take most
  if digits.length < least then none else some (digits, text.drop digits.length)

def takeMark (mark : Char) : List Char → Option (List Char)
  | c :: rest => if c == mark then some rest else none
  | [] => none

def isTab (c : Char) : Bool :=
  c == ' ' || c == '\t'

def offset? (negative : Bool) (text : List Char) : Option Int := do
  let (hours, rest) ← takeDigits 1 2 text
  let minutes ←
    if rest.isEmpty then some []
    else do
      let rest ← takeMark ':' rest
      let (minutes, rest) ← takeDigits 2 2 rest
      if rest.isEmpty then some minutes else none
  let total : Int := digitValue hours * 60 + digitValue minutes
  return if negative then -total else total

def zone? (text : List Char) : Option (Option Int) :=
  match text.dropWhile isTab with
  | [] => if text.isEmpty then some none else none
  | ['Z'] => some (some 0)
  | '-' :: rest => (offset? true rest).map some
  | '+' :: rest => (offset? false rest).map some
  | _ => none

def clock? (text : List Char) : Option Clock := do
  let (hour, rest) ← takeDigits 1 2 text
  let rest ← takeMark ':' rest
  let (minute, rest) ← takeDigits 2 2 rest
  let rest ← takeMark ':' rest
  let (second, rest) ← takeDigits 2 2 rest
  let fraction := if rest.head? == some '.' then (rest.drop 1).takeWhile Char.isDigit else []
  let rest := if rest.head? == some '.' then rest.drop (fraction.length + 1) else rest
  let zone ← zone? rest
  return ⟨hour, minute, second, fraction, zone⟩

def behindDay? (text : List Char) : Option (List Char) :=
  match text with
  | 'T' :: rest => some rest
  | 't' :: rest => some rest
  | text => if (text.takeWhile isTab).isEmpty then none else some (text.dropWhile isTab)

namespace Timestamp

def ofText? (text : List Char) : Option Timestamp := do
  let (year, rest) ← takeDigits 4 4 (withoutBreak text)
  let rest ← takeMark '-' rest
  let (month, rest) ← takeDigits 1 2 rest
  let rest ← takeMark '-' rest
  let (day, rest) ← takeDigits 1 2 rest
  if rest.isEmpty then return ⟨year, month, day, none⟩
  else
    let rest ← behindDay? rest
    let clock ← clock? rest
    return ⟨year, month, day, some clock⟩

/-- A day without a time has two digits for month and day, if only its form tells what it is. -/
def ofForm? (text : List Char) : Option Timestamp :=
  (ofText? text).filter fun t => t.clock.isSome || (t.month.length == 2 && t.day.length == 2)

def micro (fraction : List Char) : Nat :=
  let digits := fraction.take 6
  digitValue digits * Nat.pow 10 (6 - digits.length)

def resolve (t : Timestamp) : Except Calendar.Fault (Day ⊕ Moment) :=
  match t.clock with
  | none => (Day.make (digitValue t.year) (digitValue t.month) (digitValue t.day)).map .inl
  | some clock =>
    (Moment.make (digitValue t.year) (digitValue t.month) (digitValue t.day) (digitValue clock.hour)
      (digitValue clock.minute) (digitValue clock.second) (micro clock.fraction) clock.zone).map .inr

end Timestamp

end PluginAudit.Yaml
