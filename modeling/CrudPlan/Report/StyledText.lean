import CrudPlan.Text.Blank
import CrudPlan.Text.CellWidth

/-!
# Styled text

A text whose characters stand in styles. What lies between two places where a style begins or ends
is a run. A line is shown run by run, and every run is measured by itself: a joiner at the end of a
run joins nothing of the next one.

* `Glyph` is a character with the styles around it, `StyledText` a text of such characters;
* `Glyph.runs` takes glyphs apart into runs.
-/

namespace CrudPlan

/-- A character in styles. -/
structure Glyph where
  /-- The character. -/
  char : Char
  /-- The styles around it, by their numbers, the innermost first. -/
  styles : List Nat := []
  /-- How many times a style begins or ends before it. -/
  changes : Nat := 0
  deriving DecidableEq, Repr

/-- A text in styles. -/
structure StyledText where
  /-- The characters, in order. -/
  glyphs : List Glyph
  /-- How many times a style begins or ends. -/
  changes : Nat := 0
  deriving DecidableEq, Repr

namespace Glyph

/-- Whether a glyph is a blank. -/
def isBlank (g : Glyph) : Bool := Text.isBlank g.char

/-- The characters of glyphs. -/
def chars (s : List Glyph) : List Char := s.map char

/-- The number of cells of glyphs that are measured together. -/
def cells (s : List Glyph) : Nat := Text.cellLength (chars s)

/-- Whether neighbours belong to one run. A style around nothing separates them only in a text that
is `whole`: taking a text apart leaves such styles out. -/
def sameRun (whole : Bool) (a b : Glyph) : Bool :=
  a.styles == b.styles && (!whole || a.changes == b.changes)

/-- The runs of glyphs. -/
def runs (whole : Bool) (s : List Glyph) : List (List Char) :=
  (s.splitBy (sameRun whole)).map chars

/-- Other characters in the styles of glyphs at the same places. -/
def restyled : List Glyph → List Char → List Glyph
  | g :: rest, c :: more => { g with char := c } :: restyled rest more
  | _, more => more.map fun c => { char := c }

end Glyph

namespace StyledText

/-- A text without styles. -/
def ofText (s : String) : StyledText where
  glyphs := s.toList.map fun c => { char := c }

/-- The characters of a text. -/
def chars (t : StyledText) : List Char := Glyph.chars t.glyphs

end StyledText

end CrudPlan
