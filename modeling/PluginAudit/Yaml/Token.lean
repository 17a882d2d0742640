import PluginAudit.Yaml.Block
import PluginAudit.Yaml.Property
import PluginAudit.Yaml.Quoted

namespace PluginAudit.Yaml

inductive Token where
  | directive (content : Directive)
  | documentStart
  | documentEnd
  | blockSequence
  | blockMapping
  | blockEnd
  | flowSequence
  | flowSequenceEnd
  | flowMapping
  | flowMappingEnd
  | flowEntry
  | blockEntry
  | key
  | value
  | anchor (name : List Char)
  | reference (name : List Char)
  | tag (text : TagText)
  | plain (text : List Char)
  | quoted (text : List Char)
  | broken (fault : Fault)
deriving DecidableEq

/-- A token that may turn out to be a key: its number among the tokens, whether it has to be one, and its place. -/
structure KeyMark where
  token : Nat
  required : Bool
  index : Nat
  line : Nat
  column : Nat
deriving DecidableEq

structure Scan where
  cursor : Cursor
  flowLevel : Int
  -- The column of the innermost block collection, and of those around it.
  indent : Int
  indents : List Int
  keyAllowed : Bool
  -- Tokens that may turn out to be keys, at most one for each flow level.
  keys : List (Int × KeyMark)
  tokens : List Token

namespace Scan

def start (text : List Char) : Scan :=
  ⟨.start text, 0, -1, [], true, [], []⟩

def inFlow (scan : Scan) : Bool :=
  scan.flowLevel != 0

def push (token : Token) (scan : Scan) : Scan :=
  { scan with tokens := scan.tokens ++ [token] }

def skip (n : Nat) (scan : Scan) : Scan :=
  { scan with cursor := scan.cursor.skip n }

/-- Skips blanks, comments and line breaks. A line break in block context allows a key. -/
def toToken : Nat → Scan → Scan
  | 0, scan => scan
  | fuel + 1, scan =>
    let cursor := scan.cursor.skipWhile (· == ' ')
    let cursor := if cursor.peek 0 == some '#' then cursor.skipWhile (!isBreak ·) else cursor
    match cursor.break? with
    | some (_, cursor) => toToken fuel { scan with cursor, keyAllowed := scan.keyAllowed || !scan.inFlow }
    | none => { scan with cursor }

def isStale (scan : Scan) (key : KeyMark) : Bool :=
  key.line != scan.cursor.line || scan.cursor.index - key.index > 1024

def dropStale (scan : Scan) : Except Fault Scan :=
  if scan.keys.any fun entry => scan.isStale entry.2 && entry.2.required then refuse
  else .ok { scan with keys := scan.keys.filter fun entry => !scan.isStale entry.2 }

def dropKey (scan : Scan) : Except Fault Scan :=
  match scan.keys.lookup scan.flowLevel with
  | some key => if key.required then refuse else .ok { scan with keys := scan.keys.filter (·.1 != scan.flowLevel) }
  | none => .ok scan

def saveKey (scan : Scan) : Except Fault Scan :=
  if scan.keyAllowed then
    let cursor := scan.cursor
    let required := !scan.inFlow && scan.indent == cursor.column
    let key : KeyMark := ⟨scan.tokens.length, required, cursor.index, cursor.line, cursor.column⟩
    scan.dropKey.map fun scan => { scan with keys := (scan.flowLevel, key) :: scan.keys }
  else .ok scan

def unwind (column : Int) (scan : Scan) : Scan :=
  if scan.inFlow then scan
  else
    let ended := (scan.indent :: scan.indents).takeWhile (column < ·)
    let left := (scan.indent :: scan.indents).drop ended.length
    { scan with
      indent := left.head?.getD (-1)
      indents := left.drop 1
      tokens := scan.tokens ++ List.replicate ended.length .blockEnd }

/-- Opens a block collection, with its token at `place`, if the column is to the right of the current one. -/
def openBlock (column : Int) (place : Nat) (token : Token) (scan : Scan) : Scan :=
  if scan.indent < column then
    { scan with
      indent := column
      indents := scan.indent :: scan.indents
      tokens := scan.tokens.insertIdx place token }
  else scan

def openHere (token : Token) (scan : Scan) : Scan :=
  scan.openBlock scan.cursor.column scan.tokens.length token

def directive (scan : Scan) : Except Fault Scan := do
  let scan ← (scan.unwind (-1)).dropKey
  let (content, cursor) ← scan.cursor.directive
  return { scan with cursor, keyAllowed := false }.push (.directive content)

def separator (token : Token) (scan : Scan) : Except Fault Scan := do
  let scan ← (scan.unwind (-1)).dropKey
  return ({ scan with keyAllowed := false }.skip 3).push token

def flowOpen (token : Token) (scan : Scan) : Except Fault Scan := do
  let scan ← scan.saveKey
  return ({ scan with flowLevel := scan.flowLevel + 1, keyAllowed := true }.skip 1).push token

def flowClose (token : Token) (scan : Scan) : Except Fault Scan := do
  let scan ← scan.dropKey
  return ({ scan with flowLevel := scan.flowLevel - 1, keyAllowed := false }.skip 1).push token

def flowEntry (scan : Scan) : Except Fault Scan := do
  let scan ← scan.dropKey
  return ({ scan with keyAllowed := true }.skip 1).push .flowEntry

def blockEntry (scan : Scan) : Except Fault Scan := do
  if !scan.inFlow && !scan.keyAllowed then refuse
  else
    let scan := if scan.inFlow then scan else scan.openHere .blockSequence
    let scan ← scan.dropKey
    return ({ scan with keyAllowed := true }.skip 1).push .blockEntry

def explicitKey (scan : Scan) : Except Fault Scan := do
  if !scan.inFlow && !scan.keyAllowed then refuse
  else
    let scan := if scan.inFlow then scan else scan.openHere .blockMapping
    let scan ← scan.dropKey
    return ({ scan with keyAllowed := !scan.inFlow }.skip 1).push .key

def valueMark (scan : Scan) : Except Fault Scan :=
  match scan.keys.lookup scan.flowLevel with
  | some key =>
    let scan := { scan with
      keys := scan.keys.filter (·.1 != scan.flowLevel)
      tokens := scan.tokens.insertIdx key.token .key
      keyAllowed := false }
    let scan := if scan.inFlow then scan else scan.openBlock key.column key.token .blockMapping
    .ok ((scan.skip 1).push .value)
  | none =>
    if !scan.inFlow && !scan.keyAllowed then refuse
    else
      let scan := if scan.inFlow then scan else scan.openHere .blockMapping
      .ok (({ scan with keyAllowed := !scan.inFlow }.skip 1).push .value)

def property (read : Cursor → Except Fault (Token × Cursor)) (scan : Scan) : Except Fault Scan := do
  let scan ← scan.saveKey
  let (token, cursor) ← read scan.cursor
  return { scan with cursor, keyAllowed := false }.push token

def anchor : Scan → Except Fault Scan :=
  property fun cursor => cursor.anchorName.map fun found => (.anchor found.1, found.2)

def reference : Scan → Except Fault Scan :=
  property fun cursor => cursor.anchorName.map fun found => (.reference found.1, found.2)

def tag : Scan → Except Fault Scan :=
  property fun cursor => cursor.tag.map fun found => (.tag found.1, found.2)

def blockScalar (isFolded : Bool) (scan : Scan) : Except Fault Scan := do
  let scan ← scan.dropKey
  let (text, cursor) ← scan.cursor.block isFolded scan.indent
  return { scan with cursor, keyAllowed := true }.push (.quoted text)

def quotedScalar (mark : Char) (scan : Scan) : Except Fault Scan := do
  let scan ← scan.saveKey
  let (text, cursor) ← scan.cursor.quoted mark
  return { scan with cursor, keyAllowed := false }.push (.quoted text)

def plainLength (inFlow : Bool) : List Char → Nat
  | [] => 0
  | c :: rest =>
    let endsAtColon := c == ':' && (gapOrEnd rest.head? || (inFlow && rest.head?.any [',', '[', ']', '\x7b', '\x7d'].contains))
    if isGap c || endsAtColon || (inFlow && [',', '?', '[', ']', '\x7b', '\x7d'].contains c) then 0
    else plainLength inFlow rest + 1

/-- Line breaks and blanks between the lines of a plain scalar; nothing if a mark between documents stands there. -/
def plainBreaks : Nat → List Char → Cursor → Option (List Char) × Cursor
  | 0, found, cursor => (some found, cursor)
  | fuel + 1, found, cursor =>
    let cursor := cursor.skipWhile (· == ' ')
    match cursor.break? with
    | some (c, cursor) => if cursor.atSeparator then (none, cursor) else plainBreaks fuel (found ++ [c]) cursor
    | none => (some found, cursor)

def plainGap (cursor : Cursor) : Option (List Char) × Bool × Cursor :=
  let (blanks, cursor) := cursor.takeWhile (· == ' ')
  match cursor.break? with
  | some (c, cursor) =>
    if cursor.atSeparator then (none, true, cursor)
    else
      let (breaks, cursor) := plainBreaks (cursor.rest.length + 1) [] cursor
      (breaks.map (Cursor.folded c), true, cursor)
  | none => (if blanks.isEmpty then none else some blanks, false, cursor)

def plainFrom : Nat → List Char → Scan → List Char × Scan
  | 0, found, scan => (found, scan)
  | fuel + 1, found, scan =>
    let length := plainLength scan.inFlow scan.cursor.rest
    if scan.cursor.peek 0 == some '#' || length == 0 then (found, scan)
    else
      let found := found ++ scan.cursor.rest.take length
      let (gap, brokeLine, cursor) := plainGap (scan.cursor.skip length)
      let scan := { scan with cursor, keyAllowed := brokeLine }
      match gap with
      | none => (found, scan)
      | some gap =>
        if cursor.peek 0 == some '#' || (!scan.inFlow && (cursor.column : Int) < scan.indent + 1) then (found, scan)
        else
          let (more, scan) := plainFrom fuel [] scan
          if more.isEmpty then (found, scan) else (found ++ gap ++ more, scan)

def plainScalar (scan : Scan) : Except Fault Scan := do
  let scan ← scan.saveKey
  let (text, scan) := plainFrom (scan.cursor.rest.length + 1) [] { scan with keyAllowed := false }
  return scan.push (.plain text)

def indicators : List Char :=
  ['-', '?', ':', ',', '[', ']', '\x7b', '\x7d', '#', '&', '*', '!', '|', '>', '\x27', '\x22', '%', '@', '\x60']

def startsPlain (scan : Scan) (c : Char) : Bool :=
  (!isGap c && !indicators.contains c) ||
    (!gapOrEnd (scan.cursor.peek 1) && (c == '-' || (!scan.inFlow && (c == '?' || c == ':'))))

def fetch (c : Char) (scan : Scan) : Except Fault Scan :=
  let gapFollows := gapOrEnd (scan.cursor.peek 1)
  let atSeparator := scan.cursor.column == 0 && scan.cursor.atSeparator
  if c == '%' && scan.cursor.column == 0 then scan.directive
  else if atSeparator && c == '-' then scan.separator .documentStart
  else if atSeparator && c == '.' then scan.separator .documentEnd
  else if c == '[' then scan.flowOpen .flowSequence
  else if c == '\x7b' then scan.flowOpen .flowMapping
  else if c == ']' then scan.flowClose .flowSequenceEnd
  else if c == '\x7d' then scan.flowClose .flowMappingEnd
  else if c == ',' then scan.flowEntry
  else if c == '-' && gapFollows then scan.blockEntry
  else if c == '?' && (scan.inFlow || gapFollows) then scan.explicitKey
  else if c == ':' && (scan.inFlow || gapFollows) then scan.valueMark
  else if c == '*' then scan.reference
  else if c == '&' then scan.anchor
  else if c == '!' then scan.tag
  else if c == '|' && !scan.inFlow then scan.blockScalar false
  else if c == '>' && !scan.inFlow then scan.blockScalar true
  else if c == '\x27' || c == '\x22' then scan.quotedScalar c
  else if scan.startsPlain c then scan.plainScalar
  else refuse

def step (scan : Scan) : Except Fault (Option Scan) := do
  let scan ← (scan.toToken (scan.cursor.rest.length + 1)).dropStale
  let scan := scan.unwind scan.cursor.column
  match scan.cursor.rest with
  | [] => return none
  | c :: _ => (scan.fetch c).map some

def finish (scan : Scan) : Except Fault Scan := do
  let scan ← (scan.toToken (scan.cursor.rest.length + 1)).dropStale
  (scan.unwind (-1)).dropKey

/-- The tokens before a fault. A token that may yet be a key is not there before it is known whether it is one, and no token
behind it. -/
def tokensBefore (fault : Fault) (scan : Scan) : List Token :=
  let undecided := (scan.keys.filter fun entry => !scan.isStale entry.2).map (·.2.token)
  scan.tokens.take (undecided.foldl min scan.tokens.length) ++ [.broken fault]

def run : Nat → Scan → List Token
  | 0, scan => scan.tokensBefore .malformed
  | fuel + 1, scan =>
    match scan.step with
    | .error fault => scan.tokensBefore fault
    | .ok (some scan) => run fuel scan
    | .ok none =>
      match scan.finish with
      | .error fault => scan.tokensBefore fault
      | .ok scan => scan.tokens

end Scan

def isAllowed (c : Char) : Bool :=
  let code := c.toNat
  code == 0x09 || code == 0x0A || code == 0x0D || (0x20 ≤ code && code ≤ 0x7E) || code == 0x85 ||
    (0xA0 ≤ code && code ≤ 0xFFFD) || 0x10000 ≤ code

def tokens (text : List Char) : List Token :=
  if text.all isAllowed then
    let scan := Scan.start text
    let scan := if text.head? == some '\ufeff' then scan.skip 1 else scan
    scan.run (text.length + 2)
  else [.broken .malformed]

end PluginAudit.Yaml
