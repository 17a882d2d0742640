import PluginAudit.Console.Markup

namespace PluginAudit

structure Column where
  heading : String
  alignment : Layout.Alignment
deriving DecidableEq

structure Table where
  title : String
  columns : List Column
  rows : List (List String)
deriving DecidableEq

/-- The marks at the start of a border line, in its columns, between them, and at its end. -/
structure Border where
  start : Char
  line : Char
  joint : Char
  stop : Char

namespace Border

def top : Border := ⟨'┏', '━', '┳', '┓'⟩

def underHeading : Border := ⟨'┡', '━', '╇', '┩'⟩

def bottom : Border := ⟨'└', '─', '┴', '┘'⟩

def render (border : Border) (widths : List Nat) : List Char :=
  border.start :: [border.joint].intercalate (widths.map fun width => List.replicate width border.line) ++ [border.stop]

end Border

namespace Table

def padding : Nat := 2

def headings (table : Table) : List String :=
  table.columns.map (·.heading)

def room (table : Table) : Nat :=
  Markup.consoleWidth - (table.columns.length + 1)

def naturalWidthAt (table : Table) (place : Nat) : Nat :=
  let widths := (table.headings :: table.rows).map fun row => Layout.naturalWidth ((row[place]?).getD "").toList
  min ((widths.max?).getD 0 + padding) table.room

def roundedQuotient (a b : Nat) : Nat :=
  let rest := 2 * (a % b)
  if b < rest || (rest == b && a / b % 2 == 1) then a / b + 1 else a / b

/-- Takes columns away from the widths that pass a test, as evenly as can be, but from each at most `limit`; `count` of them
are left. -/
def takeAway (isShort : Nat → Bool) (limit : Nat) : Nat → Nat → List Nat → List Nat
  | _, _, [] => []
  | total, count, width :: rest =>
    if isShort width then width :: takeAway isShort limit total count rest
    else
      let share := min limit (roundedQuotient total count)
      (width - share) :: takeAway isShort limit (total - share) (count - 1) rest

def totalWidth (widths : List Nat) : Nat :=
  widths.foldr (· + ·) 0

def collapse (room : Nat) : Nat → List Nat → List Nat
  | 0, widths => widths
  | fuel + 1, widths =>
    let excess := totalWidth widths - room
    let widest := (widths.max?).getD 0
    let second := ((widths.filter (· ≠ widest)).max?).getD 0
    if excess = 0 ∨ widest = 0 then widths
    else
      collapse room fuel
        (takeAway (· ≠ widest) (min excess (widest - second)) excess (widths.count widest) widths)

def widths (table : Table) : List Nat :=
  let natural := (List.range table.columns.length).map table.naturalWidthAt
  collapse table.room (totalWidth natural) natural

def width (table : Table) : Nat :=
  totalWidth table.widths + table.columns.length + 1

def cellLines (alignment : Layout.Alignment) (width : Nat) (cell : String) : List (List Char) :=
  (Layout.lines (width - padding) .ellipsis alignment cell.toList).map fun line =>
    ' ' :: Layout.padRight (width - padding) line ++ [' ']

def rowLines (bar : Char) (table : Table) (widths : List Nat) (cells : List String) : List (List Char) :=
  let filled := (table.columns.zip (widths.zip cells)).map fun entry =>
    (entry.2.1, cellLines entry.1.alignment entry.2.1 entry.2.2)
  let height := ((filled.map (·.2.length)).max?).getD 1
  (List.range height).map fun n =>
    bar :: [bar].intercalate (filled.map fun cell => (cell.2[n]?).getD (List.replicate cell.1 ' ')) ++ [bar]

def lines (table : Table) : List String :=
  let widths := table.widths
  let title := Layout.lines table.width .fold .centre table.title.toList
  let head := Border.top.render widths :: table.rowLines '┃' widths table.headings ++ [Border.underHeading.render widths]
  (title ++ head ++ table.rows.flatMap (table.rowLines '│' widths) ++ [Border.bottom.render widths]).map String.ofList

end Table

end PluginAudit
