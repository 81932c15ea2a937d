/-!
# Blank characters

Two sets of characters that separate words.

* `Text.isWhiteSpace` is the Unicode property `White_Space`;
* `Text.isBlank` also holds of the four information separators of ASCII.
-/

namespace CrudPlan.Text

/-- The Unicode property `White_Space`. -/
def isWhiteSpace (c : Char) : Bool :=
  let n := c.toNat
  (9 ≤ n && n ≤ 13) || n == 0x20 || n == 0x85 || n == 0xa0 || n == 0x1680 ||
    (0x2000 ≤ n && n ≤ 0x200a) || n == 0x2028 || n == 0x2029 || n == 0x202f || n == 0x205f ||
    n == 0x3000

/-- White space or an information separator. -/
def isBlank (c : Char) : Bool :=
  isWhiteSpace c || (0x1c ≤ c.toNat && c.toNat ≤ 0x1f)

variable {α : Type}

/-- A list without the members of a class at its end. -/
def trimEnd (p : α → Bool) (s : List α) : List α := (s.reverse.dropWhile p).reverse

/-- A list without the members of a class at either end. -/
def trim (p : α → Bool) (s : List α) : List α := trimEnd p (s.dropWhile p)

end CrudPlan.Text
