import CrudPlan.Batch
import CrudPlan.Number.Rounding
import CrudPlan.Report.Cell
import CrudPlan.Report.Markup
import CrudPlan.Report.Value

/-!
# Tables

A table has a title centred above it, a heading between heavy lines and a body between light ones.
Each column is as wide as its widest cell, with a blank at either side, unless the table would be
too wide. The widest columns then give way.

* `Table.widths` are the widths of the columns, `Table.text` draws a table;
* `Report.status` is the table with one row for each resource of a batch. There is none if the
  markup in a cell is faulty.
-/

namespace CrudPlan

/-- A column of a table. -/
structure Column where
  /-- Its heading. -/
  heading : String
  /-- Whether its cells end at its right side. -/
  toRight : Bool := false
  deriving DecidableEq, Repr

/-- A table. -/
structure Table where
  /-- What stands above it. -/
  title : String
  /-- Its columns. -/
  columns : List Column
  /-- Its rows, each with a cell for every column. -/
  rows : List (List StyledText)
  /-- The most cells of a line. -/
  limit : Nat := 1000
  deriving DecidableEq, Repr

/-- The strokes of a horizontal line. -/
structure Rule where
  /-- At the left side. -/
  left : String
  /-- Along the columns. -/
  along : Char
  /-- Where two columns meet. -/
  between : String
  /-- At the right side. -/
  right : String

namespace Table

/-- The line above the heading. -/
def topRule : Rule := ⟨"┏", '━', "┳", "┓"⟩

/-- The line below the heading. -/
def headRule : Rule := ⟨"┡", '━', "╇", "┩"⟩

/-- The line below the body. -/
def bottomRule : Rule := ⟨"└", '─', "┴", "┘"⟩

/-! ### Widths -/

/-- Takes `excess` from the widths that take `part`, in shares as equal as rounding allows, and from
each at most `most`. -/
def reduce (excess most : Nat) (part : Nat → Bool) (widths : List Nat) : List Nat :=
  match widths with
  | [] => []
  | width :: rest =>
    let sharers := (widths.filter part).length
    if part width then
      let share := min most (roundDiv excess sharers)
      (width - share) :: reduce (excess - share) most part rest
    else width :: reduce excess most part rest

/-- Brings the widest of some widths nearer to the second widest, until their sum is at most
`limit`; `fuel` is how often. -/
def collapse (limit : Nat) : Nat → List Nat → List Nat
  | 0, widths => widths
  | fuel + 1, widths =>
    let excess := Text.totalCells widths - limit
    let widest := widths.foldl max 0
    let second := (widths.filter (· != widest)).foldl max 0
    if excess = 0 then widths
    else collapse limit fuel (reduce excess (min excess (widest - second)) (· == widest) widths)

/-- Widths whose sum is at most `limit`: every step takes something away. -/
def narrowed (limit : Nat) (widths : List Nat) : List Nat :=
  collapse limit (Text.totalCells widths) widths

variable (t : Table)

/-- The cells of a column, its heading first. -/
def column (column : Column) (i : Nat) : List StyledText :=
  .ofText column.heading :: t.rows.map (·.getD i ⟨[], 0⟩)

/-- The cells that the strokes of a line take. -/
def strokes : Nat := t.columns.length + 1

/-- The widths of the columns, with the blanks at their sides. -/
def widths : List Nat :=
  narrowed (t.limit - t.strokes) <| t.columns.zipIdx.map fun (c, i) =>
    min (t.limit - t.strokes) (((t.column c i).map fun s => Cell.width s.chars).foldl max 0 + 2)

/-! ### Lines -/

/-- A horizontal line. -/
def drawRule (rule : Rule) : String :=
  rule.left ++ rule.between.intercalate
    (t.widths.map fun w => String.ofList (List.replicate w rule.along)) ++ rule.right

/-- A line of a cell moved to the right side of its column. -/
def moved (line : List Char) : List Char :=
  let text := Text.trimEnd Text.isBlank line
  List.replicate (line.length - text.length) ' ' ++ text

/-- The lines of a cell, each as wide as its column. -/
def cellLines (column : Column) (width : Nat) (cell : StyledText) : List String :=
  (Cell.lines (width - 2) cell).map fun line =>
    String.ofList ((' ' :: if column.toRight then moved line else line) ++ [' '])

/-- A row, as many lines as its highest cell has, between vertical strokes. -/
def drawRow (stroke : String) (cells : List StyledText) : List String :=
  let columns := (t.columns.zip t.widths).zip cells
  let parts := columns.map fun ((column, w), cell) => (w, cellLines column w cell)
  let height := (parts.map fun (_, lines) => lines.length).foldl max 1
  (List.range height).map fun i =>
    stroke ++ stroke.intercalate (parts.map fun (w, lines) =>
      lines.getD i (String.ofList (List.replicate w ' '))) ++ stroke

/-- The width of the whole table. -/
def totalWidth : Nat := Text.totalCells t.widths + t.strokes

/-- The title, centred; an odd blank is at its right. -/
def drawTitle : String :=
  Report.padRight t.totalWidth
    (String.ofList (List.replicate ((t.totalWidth - t.title.length) / 2) ' ') ++ t.title)

/-- The table, drawn. -/
def text : String :=
  "\n".intercalate (
    [t.drawTitle, t.drawRule topRule] ++ t.drawRow "┃" (t.columns.map fun c => .ofText c.heading) ++
      [t.drawRule headRule] ++ t.rows.flatMap (t.drawRow "│") ++ [t.drawRule bottomRule])

end Table

namespace Report

/-- The row of a plan. -/
def planRow (p : Plan) : List String :=
  [p.resource, "resolved", p.urls.selfLink, (p.mutex.map Lock.template).getD "-",
    toString p.state.upgradeVersions.length]

/-- The row of a resource without a plan. -/
def emptyRow (name status : String) : List String := [name, status, "-", "-", "-"]

/-- The rows for the resources of a batch, in markup. -/
def statusRows (r : BatchResult) : List (List String) :=
  r.plans.map planRow ++ r.failures.map (fun f => emptyRow f.name "failed") ++
    r.skipped.map fun name => emptyRow name "skipped"

/-- One row for each resource of a batch; none if the markup in a cell is faulty. -/
def status (r : BatchResult) : Option Table :=
  ((statusRows r).mapM (List.mapM Markup.styled?)).map fun rows =>
    { title := "Resources"
      columns := [⟨"Resource", false⟩, ⟨"Status", false⟩, ⟨"Self link", false⟩,
        ⟨"Mutex", false⟩, ⟨"Upgrades", true⟩]
      rows := rows }

end Report

end CrudPlan
