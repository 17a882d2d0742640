import PluginAudit.Console.Layout
import PluginAudit.Console.Style

namespace PluginAudit

open PluginAudit.Text
open PluginAudit.Layout

structure Span where
  start : Nat
  stop : Nat
  style : List Char
deriving DecidableEq

structure Marked where
  text : List Char
  spans : List Span
deriving DecidableEq

/-- How a text is laid out: in so many columns, with lines that are broken between words or that stay whole. -/
structure Room where
  width : Nat
  overflow : Overflow
  breaksLines : Bool

namespace Room

def parts (room : Room) (line : List Char) : List (List Char) :=
  if room.breaksLines then breakLine room.width room.overflow line else [line]

def kept (room : Room) (part : List Char) : Nat :=
  (truncate room.width room.overflow (dropExcess room.width part)).length

def showsIn (room : Room) (start stop : Nat) : Nat → List (List Char) → Bool
  | _, [] => false
  | place, part :: rest =>
    let first := max start place
    (first < min stop (place + part.length) && first < place + room.kept part) ||
      showsIn room start stop (place + part.length) rest

def shows (room : Room) (span : Span) : Nat → List (List Char) → Bool
  | _, [] => false
  | place, line :: rest =>
    let filled n := (expandTabs (line.take (n - place))).length
    room.showsIn (filled span.start) (filled span.stop) 0 (room.parts (expandTabs line)) ||
      shows room span (place + line.length + 1) rest

def isWhole (room : Room) (text : List Char) : Bool :=
  !text.contains '\n' && !text.contains '\t' && (room.parts text).length ≤ 1

end Room

namespace Marked

/-- The spans that are left when a text is laid out. A span without characters is left only if the text stays in one
piece. -/
def shownSpans (marked : Marked) (room : Room) : List Span :=
  if room.isWhole marked.text then
    let kept := room.kept marked.text
    marked.spans.filter fun span => marked.text.length ≤ kept || span.start < kept
  else marked.spans.filter fun span => room.shows span 0 (pieces (· == '\n') marked.text)

def check (marked : Marked) (room : Room) : Except DataFault Unit :=
  (marked.shownSpans room).forM fun span => Style.check span.style

end Marked

end PluginAudit
