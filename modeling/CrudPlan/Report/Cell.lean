import CrudPlan.Report.StyledText
import CrudPlan.Text.Split

/-!
# Table cells

A cell is a text that is shown in a column of limited width. Its lines are broken between words, and
a word that is too long for a line is cut short.

* `Cell.width` is the width that a cell asks for;
* `Cell.lines` are the lines of a cell, each as wide as its column.
-/

namespace CrudPlan.Cell

open Text (cellLength cutCells totalCells)

/-- A character that ends a line where the width of a text is measured. -/
def endsLine (c : Char) : Bool :=
  let n := c.toNat
  (10 ≤ n && n ≤ 13) || (0x1c ≤ n && n ≤ 0x1e) || n == 0x85 || n == 0x2028 || n == 0x2029

/-- The width of the widest line of a text. -/
def width (s : List Char) : Nat := ((Text.splitAt endsLine s).map cellLength).foldl max 0

/-! ### Lines -/

/-- The distance of two tab stops. -/
def tabStop : Nat := 8

/-- Whether a glyph is a tab. -/
def isTab (g : Glyph) : Bool := g.char == '\t'

/-- The part of a line before a tab, with blanks up to the next tab stop. The first of them stands
for the tab itself. -/
def upToTabStop (part : List Glyph) (tab : Glyph) : List Glyph :=
  let blank := { tab with char := ' ' }
  let started := part ++ [blank]
  started ++ List.replicate ((tabStop - Glyph.cells started % tabStop) % tabStop) blank

/-- A line with blanks for its tabs, behind a part that has none. -/
def expandTabs (part : List Glyph) : List Glyph → List Glyph
  | [] => part
  | g :: rest =>
    if isTab g then upToTabStop part g ++ expandTabs [] rest else expandTabs (part ++ [g]) rest

/-- The words of a line, each with the blanks after it. -/
def words (s : List Glyph) : List (List Glyph) :=
  match s with
  | [] => []
  | g :: rest =>
    let word := rest.takeWhile (!·.isBlank)
    let blanks := (rest.drop word.length).takeWhile Glyph.isBlank
    (g :: word ++ blanks) :: words (rest.drop (word.length + blanks.length))
termination_by s.length
decreasing_by simp only [List.length_drop, List.length_cons]; omega

/-- The words of a line; blanks at its head belong to the first one. -/
def wordsOf (s : List Glyph) : List (List Glyph) :=
  match words (s.dropWhile Glyph.isBlank) with
  | [] => [s]
  | first :: rest => (s.takeWhile Glyph.isBlank ++ first) :: rest

/-- Puts words into lines. The line so far is `line`, and `column` is where it ends. A word starts a
new line if it does not fit into this one, unless it would be the first to take room in it. -/
def fill (limit column : Nat) (line : List Glyph) : List (List Glyph) → List (List Glyph)
  | [] => [line]
  | word :: rest =>
    let needed := Glyph.cells (Text.trimEnd Glyph.isBlank word)
    if column + needed ≤ limit then fill limit (column + Glyph.cells word) (line ++ word) rest
    else if limit < needed ∨ column ≠ 0 then
      if line.isEmpty then fill limit (Glyph.cells word) word rest
      else line :: fill limit (Glyph.cells word) word rest
    else fill limit column (line ++ word) rest

/-- A line without the blanks at its end that lie beyond a number of characters. -/
def withoutOverhang (limit : Nat) (s : List Glyph) : List Glyph :=
  let blanks := s.length - (Text.trimEnd Glyph.isBlank s).length
  s.take (s.length - min blanks (s.length - limit))

/-- A line filled with a blank up to `limit` cells. One that is too long ends in an ellipsis. -/
def fit (limit : Nat) (blank : Glyph) (s : List Glyph) : List Glyph :=
  if limit < Glyph.cells s then
    Glyph.restyled s (cutCells (limit - 1) (Glyph.chars s) ++ ['…'])
  else s ++ List.replicate (limit - Glyph.cells s) blank

/-- As many runs as fill a number of cells. -/
def cropRuns : Nat → List (List Char) → List (List Char)
  | _, [] => []
  | limit, run :: rest =>
    if cellLength run < limit then run :: cropRuns (limit - cellLength run) rest
    else if cellLength run = limit then [run]
    else [cutCells limit run]

/-- The number of cells of runs. -/
def runCells (runs : List (List Char)) : Nat := totalCells (runs.map cellLength)

/-- Runs as a line of `limit` cells. A run is measured by itself, so that they may take less room
than the line that they make up, or more. -/
def drawRuns (limit : Nat) (runs : List (List Char)) : List Char :=
  let shown := if limit < runCells runs then cropRuns limit runs else runs
  shown.flatten ++ List.replicate (limit - runCells shown) ' '

/-- The lines of a cell in a column of `limit` cells. -/
def lines (limit : Nat) (t : StyledText) : List (List Char) :=
  let given := Text.splitAt (·.char == '\n') t.glyphs
  given.flatMap fun line =>
    let filled := fill limit 0 [] (wordsOf (expandTabs [] line))
    let whole := given.length == 1 && filled.length == 1 && !line.any isTab
    filled.map fun part =>
      let blank : Glyph := { char := ' ', changes := t.changes }
      drawRuns limit (Glyph.runs whole (fit limit blank (withoutOverhang limit part)))

end CrudPlan.Cell
