namespace PluginAudit

inductive Binary64 where
  | finite (negative : Bool) (mantissa : Nat) (exponent : Int)
  | infinite (negative : Bool)
  | nan
deriving Repr, DecidableEq, Inhabited

namespace Binary64

def leastExponent : Int := -1074

def greatestExponent : Int := 971

def zero : Binary64 :=
  finite false 0 leastExponent

def roundDiv (n d : Nat) : Nat :=
  let q := n / d
  let twice := 2 * (n % d)
  if d < twice || (d == twice && q % 2 == 1) then q + 1 else q

def scaled (n d : Nat) (e : Int) : Nat × Nat :=
  if e < 0 then (n * Nat.pow 2 (-e).toNat, d) else (n, d * Nat.pow 2 e.toNat)

/-- The exponent under which `n / d` has a mantissa of 53 bits, but not less than the least one. -/
def exponentOf (n d : Nat) : Int :=
  let guess : Int := (n.log2 : Int) - d.log2 - 52
  let (a, b) := scaled n d guess
  max leastExponent (if a < b * Nat.pow 2 52 then guess - 1 else guess)

def mantissaOf (n d : Nat) (e : Int) : Nat :=
  let fraction := scaled n d e
  roundDiv fraction.1 fraction.2

/-- The number `± m · 2 ^ e`. A mantissa that rounding has brought to 54 bits is halved. -/
def pack (negative : Bool) (m : Nat) (e : Int) : Binary64 :=
  if m = Nat.pow 2 53 then
    if greatestExponent < e + 1 then infinite negative else finite negative (Nat.pow 2 52) (e + 1)
  else if greatestExponent < e then infinite negative
  else finite negative m e

def ofRatio (negative : Bool) (n d : Nat) : Binary64 :=
  if n = 0 then finite negative 0 leastExponent
  else
    let e := exponentOf n d
    pack negative (mantissaOf n d e) e

def ofDecimal (negative : Bool) (digits : Nat) (exponent : Int) : Binary64 :=
  let size : Int := (Nat.toDigits 10 digits).length + exponent
  if digits = 0 || size < -330 then finite negative 0 leastExponent
  else if 310 < size then infinite negative
  else if exponent < 0 then ofRatio negative digits (Nat.pow 10 (-exponent).toNat)
  else ofRatio negative (digits * Nat.pow 10 exponent.toNat) 1

def ofInt (n : Int) : Binary64 :=
  ofRatio (n < 0) n.natAbs 1

def isZero : Binary64 → Bool
  | finite _ m _ => m == 0
  | _ => false

def ratio (m : Nat) (e : Int) : Nat × Nat :=
  if e < 0 then (m, Nat.pow 2 (-e).toNat) else (m * Nat.pow 2 e.toNat, 1)

def toInt? : Binary64 → Option Int
  | finite negative m e =>
    let (n, d) := ratio m e
    if n % d = 0 then some (if negative then -(n / d : Nat) else (n / d : Nat)) else none
  | _ => none

def round? : Binary64 → Option Int
  | finite negative m e =>
    let (n, d) := ratio m e
    some (if negative then -(roundDiv n d : Nat) else (roundDiv n d : Nat))
  | _ => none

def roundPlaces (places : Nat) : Binary64 → Binary64
  | finite negative m e =>
    let (n, d) := ratio m e
    ofRatio negative (roundDiv (n * Nat.pow 10 places) d) (Nat.pow 10 places)
  | x => x

def fraction? : Binary64 → Option (Int × Nat)
  | finite negative m e =>
    let (n, d) := ratio m e
    some (if negative then -(n : Int) else n, d)
  | _ => none

def ofFraction (n : Int) (d : Nat) : Binary64 :=
  ofRatio (n < 0) n.natAbs d

def isNegative : Binary64 → Bool
  | finite negative _ _ => negative
  | infinite negative => negative
  | nan => false

def neg : Binary64 → Binary64
  | finite negative m e => finite (!negative) m e
  | infinite negative => infinite (!negative)
  | nan => nan

/-- Applies an exact operation on fractions and rounds; `nan` unless both numbers are finite. -/
def combine (exact : Int × Nat → Int × Nat → Int × Nat) (x y : Binary64) : Binary64 :=
  match x.fraction?, y.fraction? with
  | some a, some b => let r := exact a b; ofFraction r.1 r.2
  | _, _ => nan

def add (x y : Binary64) : Binary64 :=
  match x, y with
  | infinite a, infinite b => if a = b then infinite a else nan
  | infinite a, finite _ _ _ => infinite a
  | finite _ _ _, infinite b => infinite b
  | x, y => combine (fun a b => (a.1 * b.2 + b.1 * a.2, a.2 * b.2)) x y

def sub (x y : Binary64) : Binary64 :=
  x.add y.neg

def mul (x y : Binary64) : Binary64 :=
  match x, y with
  | nan, _ => nan
  | _, nan => nan
  | finite _ _ _, finite _ _ _ => combine (fun a b => (a.1 * b.1, a.2 * b.2)) x y
  | x, y => if x.isZero || y.isZero then nan else infinite (x.isNegative != y.isNegative)

def div : Binary64 → Binary64 → Binary64 :=
  combine fun a b => (a.1 * b.2 * b.1.sign, a.2 * b.1.natAbs)

end Binary64

end PluginAudit
