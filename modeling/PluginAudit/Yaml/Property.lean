import PluginAudit.Files.Utf8
import PluginAudit.Text.Digit
import PluginAudit.Yaml.Cursor

namespace PluginAudit.Yaml

open PluginAudit.Text

/-- A tag as it is written: a handle, unless the tag is given in full, and what follows it. -/
structure TagText where
  handle : Option (List Char)
  suffix : List Char
deriving DecidableEq

inductive Directive where
  | version (major : Nat)
  | tag (handle start : List Char)
  | other
deriving DecidableEq

namespace Cursor

def anchorName (cursor : Cursor) : Except Fault (List Char × Cursor) :=
  let (name, cursor) := cursor.next.takeWhile isNameChar
  let ends := cursor.peek 0
  if name.isEmpty || !(gapOrEnd ends || ends.any ['?', ':', ',', ']', '\x7d', '%', '@', '\x60'].contains) then refuse
  else .ok (name, cursor)

def tagHandle (cursor : Cursor) : Except Fault (List Char × Cursor) :=
  if cursor.peek 0 != some '!' then refuse
  else if cursor.peek 1 == some ' ' then .ok (['!'], cursor.next)
  else
    let (name, behind) := cursor.next.takeWhile isNameChar
    if behind.peek 0 == some '!' then .ok ('!' :: name ++ ['!'], behind.next) else refuse

def isTagChar (c : Char) : Bool :=
  c.isAlphanum || "-;/?:@&=+$,_.!~*'()[]".toList.contains c

def percentBytes : Nat → List Nat → Cursor → Except Fault (List Char × Cursor)
  | 0, _, _ => refuse
  | fuel + 1, bytes, cursor =>
    if cursor.peek 0 == some '%' then
      match (cursor.peek 1).bind hexDigit?, (cursor.peek 2).bind hexDigit? with
      | some a, some b => percentBytes fuel (bytes ++ [a * 16 + b]) (cursor.skip 3)
      | _, _ => refuse
    else
      match Utf8.decode (bytes.map UInt8.ofNat) with
      | .ok text => .ok (text.toList, cursor)
      | .error _ => refuse

def tagChars : Nat → List Char → Cursor → Except Fault (List Char × Cursor)
  | 0, _, _ => refuse
  | fuel + 1, found, cursor =>
    let (text, cursor) := cursor.takeWhile isTagChar
    if cursor.peek 0 == some '%' then do
      let (more, cursor) ← percentBytes (cursor.rest.length + 1) [] cursor
      tagChars fuel (found ++ text ++ more) cursor
    else .ok (found ++ text, cursor)

def tagSuffix (cursor : Cursor) : Except Fault (List Char × Cursor) := do
  if !((cursor.peek 0).any fun c => isTagChar c || c == '%') then refuse
  else tagChars (cursor.rest.length + 1) [] cursor

def hasHandle (cursor : Cursor) : Bool :=
  ((cursor.next.rest.takeWhile fun c => c != ' ' && !isBreak c)).contains '!'

def tag (cursor : Cursor) : Except Fault (TagText × Cursor) := do
  let (found, cursor) ←
    if cursor.peek 1 == some '<' then do
      let (suffix, cursor) ← (cursor.skip 2).tagSuffix
      if cursor.peek 0 == some '>' then pure (TagText.mk none suffix, cursor.next) else refuse
    else if gapOrEnd (cursor.peek 1) then pure (⟨none, ['!']⟩, cursor.next)
    else do
      let (handle, cursor) ← if cursor.hasHandle then cursor.tagHandle else pure (['!'], cursor.next)
      let (suffix, cursor) ← cursor.tagSuffix
      pure (⟨some handle, suffix⟩, cursor)
  if blankOrEnd (cursor.peek 0) then return (found, cursor) else refuse

def versionNumber (cursor : Cursor) : Except Fault (Nat × Cursor) :=
  let (digits, cursor) := cursor.takeWhile Char.isDigit
  if digits.isEmpty then refuse
  else if Number.digitLimit < digits.length then .error (.data (.longInteger Number.digitLimit digits.length))
  else .ok (ofDigits 10 (digits.filterMap asciiDigit?), cursor)

def versionDirective (cursor : Cursor) : Except Fault (Directive × Cursor) := do
  let (major, cursor) ← (cursor.skipWhile (· == ' ')).versionNumber
  if cursor.peek 0 != some '.' then refuse
  else
    let (_, cursor) ← cursor.next.versionNumber
    if blankOrEnd (cursor.peek 0) then return (.version major, cursor) else refuse

def tagDirective (cursor : Cursor) : Except Fault (Directive × Cursor) := do
  let (handle, cursor) ← (cursor.skipWhile (· == ' ')).tagHandle
  if cursor.peek 0 != some ' ' then refuse
  else
    let (start, cursor) ← (cursor.skipWhile (· == ' ')).tagSuffix
    if blankOrEnd (cursor.peek 0) then return (.tag handle start, cursor) else refuse

def directive (cursor : Cursor) : Except Fault (Directive × Cursor) := do
  let (name, cursor) := cursor.next.takeWhile isNameChar
  if name.isEmpty || !blankOrEnd (cursor.peek 0) then refuse
  else
    let (found, cursor) ←
      if name == "YAML".toList then cursor.versionDirective
      else if name == "TAG".toList then cursor.tagDirective
      else pure (.other, cursor.skipWhile (!isBreak ·))
    let (_, cursor) ← cursor.lineEnd
    return (found, cursor)

end Cursor

end PluginAudit.Yaml
