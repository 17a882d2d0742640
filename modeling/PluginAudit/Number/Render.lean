import PluginAudit.Number.Shortest
import PluginAudit.Text.Digit

namespace PluginAudit

structure NumberStyle where
  -- Written between the digits and the exponent of a number with one digit.
  loneDigit : String
  infinity : String
  notNumber : String

namespace NumberStyle

def plain : NumberStyle :=
  ⟨"", "inf", "nan"⟩

end NumberStyle

namespace Decimal

def isPositional (point : Int) : Bool :=
  -4 < point && point ≤ 16

/-- Digits with a point behind the first `point` of them; a whole number keeps one zero behind the point. -/
def positional (digits : List Char) (point : Int) : List Char :=
  if point ≤ 0 then "0.".toList ++ List.replicate (-point).toNat '0' ++ digits
  else
    let whole := digits.take point.toNat
    let rest := digits.drop point.toNat
    whole ++ List.replicate (point.toNat - digits.length) '0' ++ '.' :: (if rest.isEmpty then ['0'] else rest)

def scientific (style : NumberStyle) (digits : List Char) (point : Int) : List Char :=
  let exponent := point - 1
  let rest := digits.drop 1
  digits.take 1 ++ (if rest.isEmpty then style.loneDigit.toList else '.' :: rest) ++
    'e' :: (if exponent < 0 then '-' else '+') :: Text.decimal 2 exponent.natAbs

def render (style : NumberStyle) (d : Decimal) : List Char :=
  let digits := d.digitChars
  let point := digits.length + d.exponent
  if isPositional point then positional digits point else scientific style digits point

end Decimal

namespace Binary64

def render (style : NumberStyle) : Binary64 → String
  | nan => style.notNumber
  | infinite negative => (if negative then "-" else "") ++ style.infinity
  | finite negative m e =>
    let digits := if m = 0 then "0.0".toList else (Decimal.shortest m e).render style
    String.ofList (if negative then '-' :: digits else digits)

end Binary64

end PluginAudit
