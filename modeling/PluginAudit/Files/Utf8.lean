namespace PluginAudit.Utf8

inductive Problem where
  | startByte
  | continuation
  | ended
deriving Repr, DecidableEq

namespace Problem

def message : Problem → String
  | startByte => "invalid start byte"
  | continuation => "invalid continuation byte"
  | ended => "unexpected end of data"

end Problem

/-- A sequence of bytes that is no character: its place, its bytes, and what is wrong with it. -/
structure Fault where
  position : Nat
  bytes : List UInt8
  problem : Problem
deriving Repr, DecidableEq

def hexByte (b : UInt8) : String :=
  let digits := Nat.toDigits 16 b.toNat
  String.ofList (List.replicate (2 - digits.length) '0' ++ digits)

namespace Fault

def message (fault : Fault) : String :=
  let where_ := match fault.bytes with
    | [b] => s!"byte 0x{hexByte b} in position {fault.position}"
    | bytes => s!"bytes in position {fault.position}-{fault.position + bytes.length - 1}"
  s!"'utf-8' codec can't decode {where_}: {fault.problem.message}"

end Fault

/-- How the first byte of a character goes on: its payload, and the range of each byte that has to follow. -/
def lead? (b : UInt8) : Option (Nat × List (Nat × Nat)) :=
  let n := b.toNat
  let any := (0x80, 0xBF)
  if n < 0x80 then some (n, [])
  else if n < 0xC2 then none
  else if n < 0xE0 then some (n - 0xC0, [any])
  else if n = 0xE0 then some (0, [(0xA0, 0xBF), any])
  else if n = 0xED then some (0xD, [(0x80, 0x9F), any])
  else if n < 0xF0 then some (n - 0xE0, [any, any])
  else if n = 0xF0 then some (0, [(0x90, 0xBF), any, any])
  else if n < 0xF4 then some (n - 0xF0, [any, any, any])
  else if n = 0xF4 then some (4, [(0x80, 0x8F), any, any])
  else none

/-- Takes the bytes that follow the first one, which stand in `taken`, latest first. -/
def follow (position : Nat) (code : Nat) (taken : List UInt8) :
    List (Nat × Nat) → List UInt8 → Except Fault Nat
  | [], _ => .ok code
  | _ :: _, [] => .error ⟨position, taken.reverse, .ended⟩
  | range :: ranges, b :: bytes =>
    if range.1 ≤ b.toNat && b.toNat ≤ range.2 then
      follow position (code * 0x40 + (b.toNat - 0x80)) (b :: taken) ranges bytes
    else .error ⟨position, taken.reverse, .continuation⟩

/-- Decodes bytes from `position` on, of which the first `pending` belong to the character before. -/
def decodeFrom (position : Nat) : Nat → List UInt8 → Except Fault (List Char)
  | _, [] => .ok []
  | pending + 1, _ :: bytes => decodeFrom (position + 1) pending bytes
  | 0, b :: bytes =>
    match lead? b with
    | none => .error ⟨position, [b], .startByte⟩
    | some (code, ranges) =>
      match follow position code [b] ranges bytes with
      | .error fault => .error fault
      | .ok code => (decodeFrom (position + 1) ranges.length bytes).map (Char.ofNat code :: ·)

def decode (bytes : List UInt8) : Except Fault String :=
  (decodeFrom 0 0 bytes).map String.ofList

end PluginAudit.Utf8
