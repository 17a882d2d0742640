import PluginAudit.Text.Blank
import PluginAudit.Text.Pieces
import PluginAudit.Text.Width

namespace PluginAudit.Layout

open PluginAudit.Text

inductive Overflow where
  | fold
  | ellipsis
deriving DecidableEq

inductive Alignment where
  | none
  | left
  | centre
  | right
deriving DecidableEq

def tabSize : Nat := 8

def fillTabs (column : Nat) : List (List Char) → List Char
  | [] => []
  | [piece] => piece
  | piece :: rest =>
    let piece := piece ++ [' ']
    let reached := column + columns piece
    let blanks := (tabSize - reached % tabSize) % tabSize
    piece ++ List.replicate blanks ' ' ++ fillTabs (reached + blanks) rest

def expandTabs (line : List Char) : List Char :=
  fillTabs 0 (pieces (· == '\t') line)

/-- Words of a text, each with the blanks behind it, the first also with those before it. A text of blanks has none. -/
def wordsFrom : Nat → List Char → List (List Char)
  | 0, _ => []
  | fuel + 1, text =>
    let before := text.takeWhile isBlank
    let word := (text.drop before.length).takeWhile (!isBlank ·)
    let behind := (text.drop (before.length + word.length)).takeWhile isBlank
    if word.isEmpty then []
    else (before ++ word ++ behind) :: wordsFrom fuel (text.drop (before.length + word.length + behind.length))

def words (text : List Char) : List (List Char) :=
  wordsFrom (text.length + 1) text

/-- Pieces of at most `width` columns; `piece` is the one begun, which takes `size` columns. -/
def chopFrom (width : Nat) (piece : List Char) (size : Nat) : List Grapheme → List (List Char)
  | [] => [piece]
  | g :: rest =>
    if size + g.columns ≤ width then chopFrom width (piece ++ g.text) (size + g.columns) rest
    else piece :: chopFrom width g.text g.columns rest

def chop (width : Nat) (text : List Char) : List (List Char) :=
  chopFrom width [] 0 (graphemes text)

structure Lines where
  done : List (List Char)
  line : List Char
  taken : Nat

namespace Lines

def start : Lines :=
  ⟨[], [], 0⟩

def isStart (lines : Lines) : Bool :=
  lines.done.isEmpty && lines.line.isEmpty

def next (lines : Lines) (text : List Char) : Lines :=
  ⟨lines.done ++ [lines.line], text, columns text⟩

def addPieces (lines : Lines) (pieces : List (List Char)) : Lines :=
  pieces.foldl (fun lines piece =>
    if lines.isStart then ⟨[], piece, columns piece⟩ else lines.next piece) lines

def addWord (width : Nat) (overflow : Overflow) (lines : Lines) (word : List Char) : Lines :=
  let size := columns (trimRight word)
  if lines.taken + size ≤ width then { lines with line := lines.line ++ word, taken := lines.taken + columns word }
  else if width < size then
    match overflow with
    | .fold => lines.addPieces (chop width word)
    | .ellipsis => lines.addPieces [word]
  else lines.next word

def all (lines : Lines) : List (List Char) :=
  lines.done ++ [lines.line]

end Lines

def breakLine (width : Nat) (overflow : Overflow) (line : List Char) : List (List Char) :=
  match words line with
  | [] => [line]
  | words => (words.foldl (Lines.addWord width overflow) Lines.start).all

def dropExcess (width : Nat) (line : List Char) : List Char :=
  let blanks := line.length - (trimRight line).length
  line.take (line.length - min blanks (line.length - width))

/-- The graphemes that have room in `width` columns; a blank stands for the half of one. -/
def cropGraphemes (width : Nat) : List Grapheme → List Char
  | [] => []
  | g :: rest =>
    if width = 0 then []
    else if g.columns ≤ width then g.text ++ cropGraphemes (width - g.columns) rest
    else [' ']

def crop (width : Nat) (text : List Char) : List Char :=
  cropGraphemes width (graphemes text)

def truncate (width : Nat) (overflow : Overflow) (line : List Char) : List Char :=
  if columns line ≤ width then line
  else
    match overflow with
    | .fold => crop width line
    | .ellipsis => crop (width - 1) line ++ ['…']

def padRight (width : Nat) (line : List Char) : List Char :=
  line ++ List.replicate (width - columns line) ' '

def padLeft (width : Nat) (line : List Char) : List Char :=
  List.replicate (width - columns line) ' ' ++ line

def centre (width : Nat) (line : List Char) : List Char :=
  padRight width (List.replicate ((width - columns line) / 2) ' ' ++ line)

def align (width : Nat) (overflow : Overflow) (line : List Char) : Alignment → List Char
  | .none => truncate width overflow line
  | .left => padRight width (truncate width overflow line)
  | .centre => centre width (truncate width overflow (trimRight line))
  | .right => padLeft width (truncate width overflow (trimRight line))

def lines (width : Nat) (overflow : Overflow) (alignment : Alignment) (text : List Char) : List (List Char) :=
  (pieces (· == '\n') text).flatMap fun line =>
    (breakLine width overflow (expandTabs line)).map fun line =>
      align width overflow (dropExcess width line) alignment

def endsLine (c : Char) : Bool :=
  let code := c.toNat
  (0x0A ≤ code && code ≤ 0x0D) || (0x1C ≤ code && code ≤ 0x1E) || code == 0x85 || code == 0x2028 || code == 0x2029

def naturalWidth (text : List Char) : Nat :=
  (((pieces endsLine text).map columns).max?).getD 0

end PluginAudit.Layout
