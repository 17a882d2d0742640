import PluginAudit.Number.Binary64

namespace PluginAudit

structure Decimal where
  digits : Nat
  exponent : Int
deriving Repr, DecidableEq

namespace Decimal

def stripZeros : Nat → Decimal → Decimal
  | 0, d => d
  | fuel + 1, d =>
    if d.digits ≠ 0 ∧ d.digits % 10 = 0 then stripZeros fuel ⟨d.digits / 10, d.exponent + 1⟩ else d

def magnitude (n d : Nat) : Int :=
  if d ≤ n then ((Nat.toDigits 10 (n / d)).length : Int) - 1
  else
    let size := (Nat.toDigits 10 (d / n)).length
    if d ≤ n * Nat.pow 10 (size - 1) then -((size - 1 : Nat) : Int) else -(size : Int)

structure Interval where
  low : Nat
  value : Nat
  high : Nat
  den : Nat
  closed : Bool

namespace Interval

def around (m : Nat) (e : Int) : Interval :=
  let below := if m = Nat.pow 2 52 ∧ Binary64.leastExponent < e then 1 else 2
  let (unit, den) := Binary64.ratio 1 (e - 2)
  { low := (4 * m - below) * unit
    value := 4 * m * unit
    high := (4 * m + 2) * unit
    den
    closed := m % 2 == 0 }

def holds (i : Interval) (num den : Nat) : Bool :=
  let n := num * i.den
  if i.closed then i.low * den ≤ n && n ≤ i.high * den else i.low * den < n && n < i.high * den

/-- The point of the grid `10 ^ exponent` in the interval, of two the one nearer to the value. -/
def onGrid? (i : Interval) (exponent : Int) : Option Decimal :=
  let (num, den) := if exponent < 0 then (1, Nat.pow 10 (-exponent).toNat) else (Nat.pow 10 exponent.toNat, 1)
  let lower := i.value * den / (i.den * num)
  let inside n := i.holds (n * num) den
  match inside lower, inside (lower + 1) with
  | true, true =>
    let twice := 2 * i.value * den
    let middle := (2 * lower + 1) * i.den * num
    some ⟨if twice < middle ∨ (twice = middle ∧ lower % 2 = 0) then lower else lower + 1, exponent⟩
  | true, false => some ⟨lower, exponent⟩
  | false, true => some ⟨lower + 1, exponent⟩
  | false, false => none

end Interval

def shortest (m : Nat) (e : Int) : Decimal :=
  let i := Interval.around m e
  let top := magnitude i.value i.den
  let found := (List.range 17).findSome? fun (n : Nat) => i.onGrid? (top - n)
  stripZeros 20 (found.getD ⟨i.value / i.den, 0⟩)

def digitChars (d : Decimal) : List Char :=
  Nat.toDigits 10 d.digits

end Decimal

end PluginAudit
