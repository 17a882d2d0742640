import PluginAudit.Text.Digit
import PluginAudit.Yaml.Cursor

namespace PluginAudit.Yaml

open PluginAudit.Text

inductive Chomping where
  | clip
  | strip
  | keep
deriving DecidableEq

structure BlockHeader where
  chomping : Chomping
  increment : Option Nat
deriving DecidableEq

namespace Cursor

def chomping? (cursor : Cursor) : Option Chomping × Cursor :=
  match cursor.peek 0 with
  | some '+' => (some .keep, cursor.next)
  | some '-' => (some .strip, cursor.next)
  | _ => (none, cursor)

def increment? (cursor : Cursor) : Except Fault (Option Nat × Cursor) :=
  match (cursor.peek 0).bind asciiDigit? with
  | some 0 => refuse
  | some n => .ok (some n, cursor.next)
  | none => .ok (none, cursor)

def blockHeader (cursor : Cursor) : Except Fault (BlockHeader × Cursor) := do
  let (before, cursor) := cursor.chomping?
  let (increment, cursor) ← cursor.increment?
  let (behind, cursor) := if before.isNone && increment.isSome then cursor.chomping? else (none, cursor)
  if !blankOrEnd (cursor.peek 0) then refuse
  else
    let (_, cursor) ← cursor.lineEnd
    return (⟨(before.or behind).getD .clip, increment⟩, cursor)

/-- Empty lines at the start of a block scalar, and the greatest column that blanks reach in them or before its text. -/
def blockStart : Nat → List Char → Nat → Cursor → List Char × Nat × Cursor
  | 0, breaks, reached, cursor => (breaks, reached, cursor)
  | fuel + 1, breaks, reached, cursor =>
    let cursor := cursor.skipWhile (· == ' ')
    let reached := max reached cursor.column
    match cursor.break? with
    | some (c, cursor) => blockStart fuel (breaks ++ [c]) reached cursor
    | none => (breaks, reached, cursor)

def toColumn (column : Nat) (cursor : Cursor) : Cursor :=
  cursor.skip (min (column - cursor.column) (cursor.rest.takeWhile (· == ' ')).length)

def blockBreaks (indent : Nat) : Nat → List Char → Cursor → List Char × Cursor
  | 0, breaks, cursor => (breaks, cursor)
  | fuel + 1, breaks, cursor =>
    let cursor := cursor.toColumn indent
    match cursor.break? with
    | some (c, cursor) => blockBreaks indent fuel (breaks ++ [c]) cursor
    | none => (breaks, cursor)

def atBlockLine (indent : Nat) (cursor : Cursor) : Bool :=
  cursor.column == indent && !cursor.rest.isEmpty

def atText (cursor : Cursor) : Bool :=
  cursor.peek 0 != some ' ' && cursor.peek 0 != some '\t'

/-- The lines of a block scalar, with the empty lines before each. A single break between two lines of text folds. The last
line break and the empty lines behind it are given apart. -/
def blockLines (isFolded : Bool) (indent : Nat) : Nat → List Char → List Char → Cursor →
    List Char × List Char × List Char × Cursor
  | 0, found, breaks, cursor => (found, [], breaks, cursor)
  | fuel + 1, found, breaks, cursor =>
    if !cursor.atBlockLine indent then (found, [], breaks, cursor)
    else
      let startsText := cursor.atText
      let (line, cursor) := cursor.takeWhile (!isBreak ·)
      let found := found ++ breaks ++ line
      let (ending, cursor) :=
        match cursor.break? with
        | some (c, cursor) => ([c], cursor)
        | none => ([], cursor)
      let (breaks, cursor) := blockBreaks indent (cursor.rest.length + 1) [] cursor
      if !cursor.atBlockLine indent then (found, ending, breaks, cursor)
      else
        let joined :=
          if isFolded && ending == ['\n'] && startsText && cursor.atText then (if breaks.isEmpty then [' '] else [])
          else ending
        blockLines isFolded indent fuel (found ++ joined) breaks cursor

def block (isFolded : Bool) (outer : Int) (cursor : Cursor) : Except Fault (List Char × Cursor) := do
  let (header, cursor) ← cursor.next.blockHeader
  let least := (max (outer + 1) 1).toNat
  let (breaks, indent, cursor) :=
    match header.increment with
    | none =>
      let (breaks, reached, cursor) := blockStart (cursor.rest.length + 1) [] 0 cursor
      (breaks, max least reached, cursor)
    | some n =>
      let indent := least + n - 1
      let (breaks, cursor) := blockBreaks indent (cursor.rest.length + 1) [] cursor
      (breaks, indent, cursor)
  let (text, ending, breaks, cursor) := blockLines isFolded indent (cursor.rest.length + 1) [] breaks cursor
  return (text ++ (if header.chomping = .strip then [] else ending) ++ (if header.chomping = .keep then breaks else []), cursor)

end Cursor

end PluginAudit.Yaml
