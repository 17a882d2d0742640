import PluginAudit.Yaml.Fault

namespace PluginAudit.Yaml

def isBreak (c : Char) : Bool :=
  c == '\n' || c == '\r' || c.toNat == 0x85 || c.toNat == 0x2028 || c.toNat == 0x2029

def isGap (c : Char) : Bool :=
  c == ' ' || c == '\t' || isBreak c

def gapOrEnd (c : Option Char) : Bool :=
  c.all isGap

def blankOrEnd (c : Option Char) : Bool :=
  c.all fun c => c == ' ' || isBreak c

def isNameChar (c : Char) : Bool :=
  c.isAlphanum || c == '-' || c == '_'

structure Cursor where
  rest : List Char
  index : Nat
  line : Nat
  column : Nat
deriving DecidableEq

namespace Cursor

def start (text : List Char) : Cursor :=
  ⟨text, 0, 0, 0⟩

def peek (cursor : Cursor) (n : Nat) : Option Char :=
  cursor.rest[n]?

/-- The place behind the next character. A byte order mark takes no column. -/
def next (cursor : Cursor) : Cursor :=
  match cursor.rest with
  | [] => cursor
  | c :: rest =>
    if isBreak c then ⟨rest, cursor.index + 1, cursor.line + 1, 0⟩
    else ⟨rest, cursor.index + 1, cursor.line, if c.toNat = 0xFEFF then cursor.column else cursor.column + 1⟩

def skip : Nat → Cursor → Cursor
  | 0, cursor => cursor
  | n + 1, cursor => skip n cursor.next

def skipWhile (kind : Char → Bool) (cursor : Cursor) : Cursor :=
  cursor.skip (cursor.rest.takeWhile kind).length

def takeWhile (kind : Char → Bool) (cursor : Cursor) : List Char × Cursor :=
  let text := cursor.rest.takeWhile kind
  (text, cursor.skip text.length)

def atSeparator (cursor : Cursor) : Bool :=
  let mark := cursor.rest.take 3
  (mark == ['-', '-', '-'] || mark == ['.', '.', '.']) && gapOrEnd (cursor.peek 3)

def break? (cursor : Cursor) : Option (Char × Cursor) :=
  match cursor.rest with
  | c :: _ =>
    if !isBreak c then none
    else if c == '\r' && cursor.peek 1 == some '\n' then some ('\n', cursor.next.next)
    else if c == '\r' || c.toNat == 0x85 then some ('\n', cursor.next)
    else some (c, cursor.next)
  | [] => none

def lineEnd (cursor : Cursor) : Except Fault (List Char × Cursor) :=
  let cursor := cursor.skipWhile (· == ' ')
  let cursor := if cursor.peek 0 == some '#' then cursor.skipWhile (!isBreak ·) else cursor
  match cursor.break? with
  | some (c, cursor) => .ok ([c], cursor)
  | none => if cursor.rest.isEmpty then .ok ([], cursor) else refuse

end Cursor

end PluginAudit.Yaml
