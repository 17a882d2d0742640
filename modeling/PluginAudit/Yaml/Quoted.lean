import PluginAudit.Text.Digit
import PluginAudit.Yaml.Cursor

namespace PluginAudit.Yaml.Cursor

open PluginAudit.Text

def folded (first : Char) (breaks : List Char) : List Char :=
  if first != '\n' then first :: breaks else if breaks.isEmpty then [' '] else breaks

def quotedBreaks : Nat → List Char → Cursor → Except Fault (List Char × Cursor)
  | 0, _, _ => refuse
  | fuel + 1, found, cursor =>
    if cursor.atSeparator then refuse
    else
      let cursor := cursor.skipWhile fun c => c == ' ' || c == '\t'
      match cursor.break? with
      | some (c, cursor) => quotedBreaks fuel (found ++ [c]) cursor
      | none => .ok (found, cursor)

def simpleEscapes : List (Char × Char) :=
  [('0', '\x00'), ('a', '\x07'), ('b', '\x08'), ('t', '\t'), ('\t', '\t'), ('n', '\n'), ('v', '\x0b'), ('f', '\x0c'),
    ('r', '\r'), ('e', '\x1b'), (' ', ' '), ('\x22', '\x22'), ('\\', '\\'), ('/', '/'), ('N', '\u0085'), ('_', '\u00a0'),
    ('L', '\u2028'), ('P', '\u2029')]

def codeLengths : List (Char × Nat) :=
  [('x', 2), ('u', 4), ('U', 8)]

def ofCode (code : Nat) : Except Fault Char :=
  if 0x80000000 ≤ code then .error (.data .largeCode)
  else if 0x110000 ≤ code then .error (.data .codePoint)
  else .ok (if code.isValidChar then Char.ofNat code else '\ufffd')

def escape (cursor : Cursor) : Except Fault (List Char × Cursor) := do
  let c ← require (cursor.peek 0)
  match simpleEscapes.lookup c with
  | some d => return ([d], cursor.next)
  | none =>
    match codeLengths.lookup c with
    | some length =>
      let digits ← require ((cursor.next.rest.take length).mapM hexDigit?)
      if digits.length < length then refuse
      else
        let d ← ofCode (ofDigits 16 digits)
        return ([d], cursor.next.skip length)
    | none =>
      let (_, cursor) ← require cursor.break?
      quotedBreaks (cursor.rest.length + 1) [] cursor

def quotedGap (cursor : Cursor) : Except Fault (List Char × Cursor) :=
  let (blanks, cursor) := cursor.takeWhile fun c => c == ' ' || c == '\t'
  match cursor.break? with
  | some (c, cursor) => do
    let (breaks, cursor) ← quotedBreaks (cursor.rest.length + 1) [] cursor
    return (folded c breaks, cursor)
  | none => .ok (blanks, cursor)

def quotedFrom (mark : Char) : Nat → List Char → Cursor → Except Fault (List Char × Cursor)
  | 0, _, _ => refuse
  | fuel + 1, found, cursor =>
    match cursor.rest with
    | [] => refuse
    | c :: rest =>
      if c == mark then
        if mark == '\x27' && rest.head? == some mark then quotedFrom mark fuel (mark :: found) cursor.next.next
        else .ok (found.reverse, cursor.next)
      else if c == '\\' && mark == '\x22' then do
        let (text, cursor) ← escape cursor.next
        quotedFrom mark fuel (text.reverse ++ found) cursor
      else if isGap c then do
        let (text, cursor) ← quotedGap cursor
        quotedFrom mark fuel (text.reverse ++ found) cursor
      else quotedFrom mark fuel (c :: found) cursor.next

def quoted (mark : Char) (cursor : Cursor) : Except Fault (List Char × Cursor) :=
  quotedFrom mark (cursor.rest.length + 1) [] cursor.next

end PluginAudit.Yaml.Cursor
