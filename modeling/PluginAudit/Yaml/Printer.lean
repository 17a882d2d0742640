import PluginAudit.Number.Render
import PluginAudit.Text.Digit
import PluginAudit.Yaml.Token
import PluginAudit.Yaml.Scalar
import PluginAudit.Yaml.Tree

namespace PluginAudit.Yaml

open PluginAudit.Text

def numberStyle : NumberStyle :=
  ⟨".0", ".inf", ".nan"⟩

def lineWidth : Nat := 80

/-- A text under way: what is written, and the column reached. -/
structure Pen where
  written : List Char
  column : Nat

namespace Pen

def write (pen : Pen) (text : List Char) : Pen :=
  ⟨pen.written ++ text, pen.column + text.length⟩

def newLine (pen : Pen) (column : Nat) : Pen :=
  ⟨pen.written ++ '\n' :: List.replicate column ' ', column⟩

end Pen

def runs (text : List Char) : List (List Char) :=
  text.splitBy fun a b => (a == ' ') == (b == ' ') && (a == '\n') == (b == '\n')

/-- Writes a run that is not the first or the last one of its text if `inner` says so. -/
def writeRun (indent : Nat) (inner : Bool) (escape : Char → List Char) (pen : Pen) (run : List Char) : Pen :=
  match run with
  | [' '] => if lineWidth < pen.column && inner then pen.newLine indent else pen.write run
  | '\n' :: more => ⟨pen.written ++ '\n' :: '\n' :: more ++ List.replicate indent ' ', indent⟩
  | run => pen.write (run.flatMap escape)

def writeRuns (indent : Nat) (escape : Char → List Char) (pen : Pen) (text : List Char) : Pen :=
  let all := runs text
  all.zipIdx.foldl (fun pen entry =>
    writeRun indent (entry.2 != 0 && entry.2 + 1 != all.length) escape pen entry.1) pen

def plainScalar (indent column : Nat) (text : List Char) : List Char :=
  (writeRuns indent (fun c => [c]) ⟨[], column⟩ text).written

def singleQuoted (indent column : Nat) (text : List Char) : List Char :=
  let escape c := if c == '\x27' then [c, c] else [c]
  (writeRuns indent escape ⟨['\x27'], column + 1⟩ text).written ++ ['\x27']

def letters : List (Char × Char) :=
  [('\x00', '0'), ('\x07', 'a'), ('\x08', 'b'), ('\t', 't'), ('\n', 'n'), ('\x0b', 'v'), ('\x0c', 'f'), ('\r', 'r'),
    ('\x1b', 'e'), ('\x22', '\x22'), ('\\', '\\'), ('\u0085', 'N'), ('\u00a0', '_'), ('\u2028', 'L'), ('\u2029', 'P')]

def isSimple (c : Char) : Bool :=
  ' ' ≤ c && c ≤ '~' && c != '\x22' && c != '\\'

def doubleEscape (c : Char) : List Char :=
  if isSimple c then [c]
  else
    match letters.lookup c with
    | some letter => ['\\', letter]
    | none =>
      if c.toNat ≤ 0xFF then '\\' :: 'x' :: hexCapital 2 c.toNat
      else if c.toNat ≤ 0xFFFF then '\\' :: 'u' :: hexCapital 4 c.toNat
      else '\\' :: 'U' :: hexCapital 8 c.toNat

/-- Breaks the line with a backslash, before the character `next`. A blank that starts the next line has a backslash too. -/
def breakDouble (indent : Nat) (next : Option Char) (pen : Pen) : Pen :=
  let pen := (pen.write ['\\']).newLine indent
  if next == some ' ' then pen.write ['\\'] else pen

/-- Writes the rest of a text in double quotes. The line may break before a blank and behind an escape, but not behind the
first character or before the last one. `place` counts characters, and `escaped` tells whether the last one was escaped. -/
def writeDouble (indent : Nat) : Nat → Bool → Pen → List Char → Pen
  | _, _, pen, [] => pen
  | place, escaped, pen, c :: rest =>
    let breakable := place != 0 && !rest.isEmpty
    if isSimple c then
      let due := breakable && (c == ' ' || escaped) && lineWidth < pen.column
      let pen := if due then breakDouble indent (some c) pen else pen
      writeDouble indent (place + 1) false (pen.write [c]) rest
    else
      let pen := pen.write (doubleEscape c)
      let pen := if breakable && lineWidth + 1 < pen.column then breakDouble indent rest.head? pen else pen
      writeDouble indent (place + 1) true pen rest

def doubleQuoted (indent column : Nat) (text : List Char) : List Char :=
  (writeDouble indent 0 false ⟨['\x22'], column + 1⟩ text).written ++ ['\x22']

def leadMarks : List Char :=
  ['#', ',', '[', ']', '\x7b', '\x7d', '&', '*', '!', '|', '>', '\x27', '\x22', '%', '@', '\x60']

def hasMarkInside : List Char → Bool
  | a :: b :: rest => (a == ':' && isGap b) || (isGap a && b == '#') || hasMarkInside (b :: rest)
  | _ => false

/-- Whether a text would be taken for something else if it stood without quotes. -/
def hasMark (text : List Char) : Bool :=
  ['-', '-', '-'].isPrefixOf text || ['.', '.', '.'].isPrefixOf text ||
    text.head?.any leadMarks.contains ||
    (text.head?.any ['-', '?', ':'].contains && gapOrEnd text[1]?) ||
    hasMarkInside text || text.getLast? == some ':'

def hasPair (first second : Char) : List Char → Bool
  | a :: b :: rest => (a == first && b == second) || hasPair first second (b :: rest)
  | _ => false

def needsDouble (text : List Char) : Bool :=
  text.any (fun c => !(c == '\n' || (' ' ≤ c && c ≤ '~'))) || hasPair ' ' '\n' text || hasPair '\n' ' ' text

def canBePlain (text : List Char) : Bool :=
  isOwnText text && !hasMark text && !text.contains '\n' && text.head? != some ' ' && text.getLast? != some ' '

def textScalar (indent column : Nat) (text : List Char) : List Char :=
  if needsDouble text then doubleQuoted indent column text
  else if canBePlain text then plainScalar indent column text
  else singleQuoted indent column text

def lineBytes : Nat := 57

def byteLines (data : List UInt8) : List (List Char) :=
  (List.range ((data.length + lineBytes - 1) / lineBytes)).map fun n =>
    Base64.encode ((data.drop (lineBytes * n)).take lineBytes)

def binaryTag : List Char :=
  "!!binary ".toList

def scalar (indent column : Nat) : Value → List Char
  | .null => "null".toList
  | .bool true => "true".toList
  | .bool false => "false".toList
  | .int n => (toString n).toList
  | .float x => (x.render numberStyle).toList
  | .text s => textScalar indent column s.toList
  | .day d => d.display.toList
  | .moment m => plainScalar indent column m.display.toList
  | .bytes [] => binaryTag ++ ['\x22', '\x22']
  | .bytes data => binaryTag ++ '|' :: (byteLines data).flatMap fun line => '\n' :: List.replicate indent ' ' ++ line
  | _ => []

def markLength : Value → Nat
  | .null => 6
  | .bool _ => 6
  | .int _ => 5
  | .float _ => 7
  | .day _ => 11
  | .moment _ => 11
  | _ => 5

def keyLimit : Nat := 128

def breaksLine (c : Char) : Bool :=
  c == '\n' || c == '\u0085' || c == '\u2028' || c == '\u2029'

def scalarText : Value → List Char
  | .text s => s.toList
  | v => scalar 0 0 v

def anchorName (n : Nat) : List Char :=
  'i' :: 'd' :: decimal 3 n

def anchorMark : Option Nat → List Char
  | some n => '&' :: anchorName n ++ [' ']
  | none => []

def anchorLength : Option Nat → Nat
  | some n => (anchorName n).length
  | none => 0

def isSimpleKey : Tree → Bool
  | .leaf anchor v =>
    let text := scalarText v
    anchorLength anchor + markLength v + text.length < keyLimit && !text.isEmpty && !text.any breaksLine
  | .again n => (anchorName n).length < keyLimit
  | _ => false

def simpleScalar : Value → List Char
  | .text s =>
    let text := s.toList
    if needsDouble text then '\x22' :: text.flatMap doubleEscape ++ ['\x22']
    else if canBePlain text then text
    else '\x27' :: text.flatMap (fun c => if c == '\x27' then [c, c] else [c]) ++ ['\x27']
  | .moment m => m.display.toList
  | v => scalar 0 0 v

/-- What stands on one line for a tree: a scalar, the name of an anchor, or an empty collection. -/
def inline (indent column : Nat) : Tree → List Char
  | .leaf anchor v => anchorMark anchor ++ scalar indent (column + (anchorMark anchor).length) v
  | .again n => '*' :: anchorName n
  | .sequence anchor _ => anchorMark anchor ++ ['[', ']']
  | .mapping anchor _ => anchorMark anchor ++ ['\x7b', '\x7d']
  | .members anchor _ => anchorMark anchor ++ "!!set \x7b\x7d".toList

def simpleKey : Tree → List Char
  | .leaf anchor v => anchorMark anchor ++ simpleScalar v
  | tree => inline 0 0 tree

def heading (anchor : Option Nat) (tag : List Char) : List Char :=
  (match anchor with
  | some n => " &".toList ++ anchorName n
  | none => []) ++ tag

def setTag : List Char :=
  " !!set".toList

mutual

def writeItems (indent : Nat) : List Tree → List Char
  | [] => []
  | item :: rest => List.replicate indent ' ' ++ '-' :: writeBehindMark indent (indent + 2) item ++ writeItems indent rest

def writePairs (indent : Nat) : List (Tree × Tree) → List Char
  | [] => []
  | (key, item) :: rest =>
    if isSimpleKey key then
      let name := simpleKey key
      List.replicate indent ' ' ++ name ++ ':' :: writeBehindKey indent (indent + name.length + 2) item ++
        writePairs indent rest
    else
      List.replicate indent ' ' ++ '?' :: ' ' :: inline (indent + 2) (indent + 2) key ++ '\n' ::
        List.replicate indent ' ' ++ ':' :: writeBehindMark indent indent item ++ writePairs indent rest

def writeMembers (indent : Nat) : List Tree → List Char
  | [] => []
  | item :: rest =>
    (if isSimpleKey item then List.replicate indent ' ' ++ simpleKey item ++ ": null\n".toList
    else
      List.replicate indent ' ' ++ '?' :: ' ' :: inline (indent + 2) (indent + 2) item ++ '\n' ::
        List.replicate indent ' ' ++ ": null\n".toList) ++
      writeMembers indent rest

def writeBehindKey (indent column : Nat) : Tree → List Char
  | .sequence anchor (item :: rest) => heading anchor [] ++ '\n' :: writeItems indent (item :: rest)
  | .mapping anchor (pair :: rest) => heading anchor [] ++ '\n' :: writePairs (indent + 2) (pair :: rest)
  | .members anchor (item :: rest) => heading anchor setTag ++ '\n' :: writeMembers (indent + 2) (item :: rest)
  | tree => ' ' :: inline (indent + 2) column tree ++ ['\n']

/-- A value behind a dash or a colon in column `indent`, with the end of its line. A collection starts on the same line, two
columns on, unless an anchor or a tag stands there; then a sequence has its dashes in column `lines`. -/
def writeBehindMark (indent lines : Nat) : Tree → List Char
  | .sequence none (item :: rest) => ' ' :: (writeItems (indent + 2) (item :: rest)).drop (indent + 2)
  | .mapping none (pair :: rest) => ' ' :: (writePairs (indent + 2) (pair :: rest)).drop (indent + 2)
  | .sequence anchor (item :: rest) => heading anchor [] ++ '\n' :: writeItems lines (item :: rest)
  | .mapping anchor (pair :: rest) => heading anchor [] ++ '\n' :: writePairs (indent + 2) (pair :: rest)
  | .members anchor (item :: rest) => heading anchor setTag ++ '\n' :: writeMembers (indent + 2) (item :: rest)
  | tree => ' ' :: inline (indent + 2) (indent + 2) tree ++ ['\n']

end

def print (pairs : List (Value × Value)) : String :=
  match Tree.ofValue (.map pairs) with
  | .mapping _ (pair :: rest) => String.ofList (writePairs 0 (pair :: rest))
  | _ => "\x7b\x7d\n"

end PluginAudit.Yaml
