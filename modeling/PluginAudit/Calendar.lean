import PluginAudit.Text.Digit

namespace PluginAudit

namespace Calendar

inductive Fault where
  | year (n : Nat)
  | month
  | day
  | hour
  | minute
  | second
  | offset (minutes : Int)
deriving Repr, DecidableEq

/-- A span of so many minutes, as messages show it: whole days, and seconds that are not negative. -/
def spanText (minutes : Int) : String :=
  let days := minutes.fdiv 1440
  let seconds := minutes.fmod 1440 * 60
  let parts := (if days = 0 then [] else [s!"days={days}"]) ++ (if seconds = 0 then [] else [s!"seconds={seconds}"])
  "datetime.timedelta(" ++ (if parts.isEmpty then "0" else ", ".intercalate parts) ++ ")"

namespace Fault

def message : Fault → String
  | year n => s!"year {n} is out of range"
  | month => "month must be in 1..12"
  | day => "day is out of range for month"
  | hour => "hour must be in 0..23"
  | minute => "minute must be in 0..59"
  | second => "second must be in 0..59"
  | offset minutes =>
    "offset must be a timedelta strictly between -timedelta(hours=24) and timedelta(hours=24), not " ++
      spanText minutes ++ "."

end Fault

def isLeap (year : Nat) : Bool :=
  year % 4 == 0 && (year % 100 != 0 || year % 400 == 0)

def monthLength (year month : Nat) : Nat :=
  if month = 2 then (if isLeap year then 29 else 28)
  else if month = 4 ∨ month = 6 ∨ month = 9 ∨ month = 11 then 30
  else 31

end Calendar

structure Day where
  year : Nat
  month : Nat
  day : Nat
deriving Repr, DecidableEq

namespace Day

def make (year month day : Nat) : Except Calendar.Fault Day :=
  if year < 1 ∨ 9999 < year then .error (.year year)
  else if month < 1 ∨ 12 < month then .error .month
  else if day < 1 ∨ Calendar.monthLength year month < day then .error .day
  else .ok ⟨year, month, day⟩

def number (d : Day) : Nat :=
  let past := d.year - 1
  365 * past + past / 4 - past / 100 + past / 400 +
    (List.range (d.month - 1)).foldr (fun month days => Calendar.monthLength d.year (month + 1) + days) d.day

def display (d : Day) : String :=
  String.ofList (Text.decimal 4 d.year ++ '-' :: Text.decimal 2 d.month ++ '-' :: Text.decimal 2 d.day)

def shown (d : Day) : String :=
  s!"datetime.date({d.year}, {d.month}, {d.day})"

end Day

/-- A moment on a day. The offset of its zone is counted in minutes. -/
structure Moment where
  day : Day
  hour : Nat
  minute : Nat
  second : Nat
  micro : Nat
  offset : Option Int
deriving Repr, DecidableEq

namespace Moment

/-- The moment with these numbers, if there is one. An offset is less than a day. -/
def make (year month day hour minute second micro : Nat) (offset : Option Int) : Except Calendar.Fault Moment := do
  match offset with
  | some minutes => if 1440 ≤ minutes.natAbs then throw (.offset minutes)
  | none => pure ()
  let day ← Day.make year month day
  if 23 < hour then throw .hour
  if 59 < minute then throw .minute
  if 59 < second then throw .second
  return ⟨day, hour, minute, second, micro, offset⟩

def minutes (m : Moment) : Int :=
  ((m.day.number * 24 + m.hour) * 60 + m.minute : Nat) - m.offset.getD 0

/-- Moments with zones are the same if they are so everywhere; one with a zone is never one without. -/
def same (m n : Moment) : Bool :=
  m.offset.isSome == n.offset.isSome && m.minutes == n.minutes && m.second == n.second && m.micro == n.micro

def offsetText (minutes : Int) : List Char :=
  (if minutes < 0 then '-' else '+') :: Text.decimal 2 (minutes.natAbs / 60) ++
    ':' :: Text.decimal 2 (minutes.natAbs % 60)

def display (m : Moment) : String :=
  m.day.display ++ String.ofList (' ' :: Text.decimal 2 m.hour ++ ':' :: Text.decimal 2 m.minute ++
    ':' :: Text.decimal 2 m.second ++ (if m.micro = 0 then [] else '.' :: Text.decimal 6 m.micro) ++
    (m.offset.map offsetText).getD [])

def zoneText (minutes : Int) : String :=
  if minutes = 0 then "datetime.timezone.utc" else s!"datetime.timezone({Calendar.spanText minutes})"

def shown (m : Moment) : String :=
  let fine := if m.micro ≠ 0 then [m.second, m.micro] else if m.second ≠ 0 then [m.second] else []
  let numbers := [m.day.year, m.day.month, m.day.day, m.hour, m.minute] ++ fine
  let zone := m.offset.map fun minutes => "tzinfo=" ++ zoneText minutes
  "datetime.datetime(" ++ ", ".intercalate (numbers.map toString ++ zone.toList) ++ ")"

end Moment

end PluginAudit
