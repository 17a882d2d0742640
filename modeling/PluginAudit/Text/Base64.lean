import PluginAudit.Text.Digit

namespace PluginAudit.Text.Base64

def sextet? (c : Char) : Option Nat :=
  if 'A' ≤ c && c ≤ 'Z' then some (c.toNat - 0x41)
  else if 'a' ≤ c && c ≤ 'z' then some (c.toNat - 0x61 + 26)
  else if '0' ≤ c && c ≤ '9' then some (c.toNat - 0x30 + 52)
  else if c == '+' then some 62
  else if c == '/' then some 63
  else none

/-- Bits that make no byte yet: how many characters of a group of four are there, the bits that are left of them, and how
many marks of padding follow. -/
structure Pending where
  count : Nat
  bits : Nat
  pads : Nat

/-- Bytes of a text. Characters that stand for no bits are skipped, and so is everything behind the padding of a group; a
group without its padding is no text of bytes. -/
def decodeFrom (pending : Pending) : List Char → Option (List UInt8)
  | [] => if pending.count == 0 then some [] else none
  | c :: rest =>
    if c == '=' then
      if pending.count < 2 then decodeFrom pending rest
      else if 4 ≤ pending.count + pending.pads + 1 then some []
      else decodeFrom { pending with pads := pending.pads + 1 } rest
    else
      match sextet? c with
      | none => decodeFrom pending rest
      | some n =>
        let bits := pending.bits * 64 + n
        match pending.count with
        | 0 => decodeFrom ⟨1, bits, 0⟩ rest
        | 1 => (decodeFrom ⟨2, bits % 16, 0⟩ rest).map (UInt8.ofNat (bits / 16) :: ·)
        | 2 => (decodeFrom ⟨3, bits % 4, 0⟩ rest).map (UInt8.ofNat (bits / 4) :: ·)
        | _ => (decodeFrom ⟨0, 0, 0⟩ rest).map (UInt8.ofNat bits :: ·)

def decode? (text : List Char) : Option (List UInt8) :=
  decodeFrom ⟨0, 0, 0⟩ text

def letter (n : Nat) : Char :=
  if n < 26 then Char.ofNat (0x41 + n)
  else if n < 52 then Char.ofNat (0x61 + n - 26)
  else if n < 62 then Char.ofNat (0x30 + n - 52)
  else if n = 62 then '+'
  else '/'

def encode : List UInt8 → List Char
  | [] => []
  | [a] => [letter (a.toNat / 4), letter (a.toNat % 4 * 16), '=', '=']
  | [a, b] => [letter (a.toNat / 4), letter (a.toNat % 4 * 16 + b.toNat / 16), letter (b.toNat % 16 * 4), '=']
  | a :: b :: c :: rest =>
    letter (a.toNat / 4) :: letter (a.toNat % 4 * 16 + b.toNat / 16) ::
      letter (b.toNat % 16 * 4 + c.toNat / 64) :: letter (c.toNat % 64) :: encode rest

end PluginAudit.Text.Base64
