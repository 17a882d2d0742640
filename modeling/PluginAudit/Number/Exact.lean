import PluginAudit.Number.Binary64

namespace PluginAudit

/-- The extended line, with a point for "not a number". -/
inductive Exact where
  | nan
  | below
  | fraction (num : Int) (den : Nat)
  | above
deriving Repr, DecidableEq

namespace Exact

def ofInt (n : Int) : Exact :=
  fraction n 1

def ofBinary64 : Binary64 → Exact
  | .nan => nan
  | .infinite true => below
  | .infinite false => above
  | .finite negative m e =>
    let (n, d) := Binary64.ratio m e
    fraction (if negative then -(n : Int) else n) d

def le : Exact → Exact → Bool
  | nan, _ => false
  | _, nan => false
  | below, _ => true
  | _, above => true
  | fraction a b, fraction c d => a * d ≤ c * b
  | _, _ => false

def same (x y : Exact) : Bool :=
  x.le y && y.le x

end Exact

end PluginAudit
