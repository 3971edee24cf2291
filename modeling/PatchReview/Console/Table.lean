import PatchReview.Console.Layout

/-!
# Tables on a console

A table with a title, a header and rows between rules. A column is as wide as its widest cell; a
cell of several lines makes its row that high.
-/

namespace PatchReview
namespace Console

/-- A column of a table. -/
structure Column where
  header : String
  justify : Justify := .left
  /-- The width, where it does not follow the cells. -/
  fixedWidth : Option Nat := none
  leastWidth : Nat := 0
  /-- Whether lines are left whole. -/
  unbroken : Bool := false

/-- A table; every row has a cell for each column. -/
structure Table where
  title : String
  columns : List Column
  rows : List (List (List Char))
  /-- Whether rules separate the rows. -/
  ruled : Bool := false

/-- Characters that end a line when a cell is measured. -/
def endsMeasuredLine (c : Char) : Bool :=
  (0x0A ≤ c.toNat && c.toNat ≤ 0x0D) || (0x1C ≤ c.toNat && c.toNat ≤ 0x1E) || c.toNat == 0x85 ||
    c.toNat == 0x2028 || c.toNat == 0x2029

/-- The width of the widest line of a cell. -/
def measure (cell : List Char) : Nat :=
  let lines := cell.splitBy fun a b => !endsMeasuredLine a && !endsMeasuredLine b
  (lines.map fun line => width (line.filter fun c => !endsMeasuredLine c)).foldl max 0

/-- The width of a column, given its cells. -/
def Column.neededWidth (c : Column) (cells : List (List Char)) : Nat :=
  c.fixedWidth.getD
    (max c.leastWidth (((c.header.toList :: cells).map measure).foldl max 0))

def Column.cellLines (c : Column) (limit : Nat) (cell : List Char) : List (List Char) :=
  (Layout.lines ⟨limit, c.justify, .ellipsis, c.unbroken⟩ cell).map fun line =>
    if width line ≤ limit then line ++ blanks (limit - width line) else fit limit line

/-- The characters of a rule or of a row: at its left, inside, between columns and at its right. -/
structure Edges where
  left : Char
  inside : Char
  divider : Char
  right : Char

/-- A rule across columns of given widths. -/
def Edges.rule (e : Edges) (widths : List Nat) : List Char :=
  e.left :: Text.joinWith [e.divider] (widths.map fun w => List.replicate (w + 2) e.inside) ++
    [e.right]

/-- A line of a row, with a blank around each cell. -/
def Edges.line (e : Edges) (cells : List (List Char)) : List Char :=
  e.left :: Text.joinWith [e.divider] (cells.map fun cell => e.inside :: cell ++ [e.inside]) ++
    [e.right]

/-- The lines of a row; cells with fewer lines are filled up with blank ones. -/
def Edges.row (e : Edges) (cells : List (Nat × List (List Char))) : List (List Char) :=
  let height := (cells.map fun (_, lines) => lines.length).foldl max 1
  (List.range height).map fun i =>
    e.line (cells.map fun (limit, lines) => (lines[i]?).getD (blanks limit))

namespace Table

def widths (t : Table) : List Nat :=
  t.columns.zipIdx.map fun (c, i) => c.neededWidth (t.rows.filterMap fun row => row[i]?)

def rowLines (t : Table) (e : Edges) (cells : List (List Char)) : List (List Char) :=
  e.row (((t.columns.zip t.widths).zip cells).map fun ((c, limit), cell) =>
    (limit, c.cellLines limit cell))

def lines (t : Table) : List (List Char) :=
  let widths := t.widths
  let total := (widths.map (· + 3)).foldl (· + ·) 1
  let body := t.rows.map (t.rowLines ⟨'│', ' ', '│', '│'⟩)
  let separator := if t.ruled then [Edges.rule ⟨'├', '─', '┼', '┤'⟩ widths] else []
  Layout.lines { limit := total, justify := .center } t.title.toList ++
    [Edges.rule ⟨'┏', '━', '┳', '┓'⟩ widths] ++
    t.rowLines ⟨'┃', ' ', '┃', '┃'⟩ (t.columns.map (·.header.toList)) ++
    [Edges.rule ⟨'┡', '━', '╇', '┩'⟩ widths] ++
    List.intercalate separator body ++
    [Edges.rule ⟨'└', '─', '┴', '┘'⟩ widths]

end Table
end Console
end PatchReview
