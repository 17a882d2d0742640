import PluginAudit.Value.Basic

namespace PluginAudit.Value

def prime : Nat :=
  Nat.pow 2 61 - 1

/-- The rest of a number, with its sign. Halves have a rest too, since two has an inverse. -/
def rest? : Value → Option Int
  | bool b => some (if b then 1 else 0)
  | int n => some (signed (n < 0) (n.natAbs % prime))
  | float (.finite negative m e) => some (signed negative (m * Nat.pow 2 (e % 61).toNat % prime))
  | float (.infinite negative) => some (if negative then -314159 else 314159)
  | _ => none
where
  signed (negative : Bool) (n : Nat) : Int :=
    if negative then if n = 1 then -2 else -n else n

def slotCount (size : Nat) : Nat :=
  if size < 5 then 8 else Nat.pow 2 ((2 * size).log2 + 1)

def run (count first : Nat) : List Nat :=
  if first + 9 < count then (List.range 10).map (first + ·) else [first]

/-- The first free slot. `shift` is what is left of a number to go on with. -/
def freeSlot? (count : Nat) (taken : List Nat) : Nat → Nat → Nat → Option Nat
  | 0, _, _ => none
  | fuel + 1, shift, first =>
    ((run count first).find? fun slot => !taken.contains slot).or
      (freeSlot? count taken fuel (shift / 32) ((first * 5 + 1 + shift / 32) % count))

def slots (count : Nat) : List Nat → List Int → List Nat
  | _, [] => []
  | taken, n :: more =>
    let code := (n % (Nat.pow 2 64 : Nat)).toNat
    let slot := (freeSlot? count taken (count + 64) code (code % count)).getD 0
    slot :: slots count (slot :: taken) more

def setOrder (items : List Value) : List Value :=
  match items.mapM rest? with
  | some rests =>
    let places := slots (slotCount items.length) [] rests
    ((places.zip items).mergeSort fun a b => a.1 ≤ b.1).map (·.2)
  | none => items

end PluginAudit.Value
