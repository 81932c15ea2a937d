import CrudPlan.Text.Blank

/-!
# Integers in text

A plain numeral is an optional minus sign and digits without needless zeros at the head. A text may
also spell an integer more freely: with blanks around it, a plus sign, zeros at the head, a fraction
of zeros, and single underscores between digits. `Numeral.plain?` gives the plain numeral that it
stands for.

* `Numeral.read` reads a plain numeral, of at most `Numeral.maxLength` characters;
* `Numeral.integer` reads an integer in either spelling.
-/

namespace CrudPlan.Numeral

/-- Why a text spells no integer. -/
inductive Refusal where
  | malformed
  | tooLong
  deriving DecidableEq, Repr

/-- The most characters of a plain numeral, its sign among them. -/
def maxLength : Nat := 4300

/-! ### Plain numerals -/

/-- The value of decimal digits. -/
def digitsValue (s : List Char) : Nat :=
  s.foldl (fun n c => 10 * n + (c.toNat - '0'.toNat)) 0

/-- Reads digits without zeros at the head, after a sign of `signLength` characters. Too many digits
are refused before what follows them is looked at. -/
def readDigits (signLength : Nat) : List Char → Except Refusal Nat
  | ['0'] => .ok 0
  | '0' :: _ => .error .malformed
  | s =>
    let digits := s.takeWhile Char.isDigit
    if maxLength < signLength + digits.length then .error .tooLong
    else if digits.isEmpty ∨ digits.length < s.length then .error .malformed
    else .ok (digitsValue digits)

/-- Reads a plain numeral. -/
def read : List Char → Except Refusal Int
  | '-' :: digits => (readDigits 1 digits).map fun n => -(n : Int)
  | digits => (readDigits 0 digits).map Int.ofNat

/-! ### Freer spellings -/

/-- A text without a fraction of zeros at its end. -/
def withoutFraction (s : List Char) : List Char :=
  match s.dropWhile (· != '.') with
  | '.' :: zeros =>
    if zeros ≠ [] ∧ zeros.all (· == '0') then s.takeWhile (· != '.') else s
  | _ => s

/-- Whether a character ends the zeros at the head of a numeral: a digit, or a sign that belongs to
what follows. -/
def endsZeros (c : Char) : Bool := ('1' ≤ c && c ≤ '9') || c == '-'

/-- A numeral without the zeros at its head and the underscores among them; of zeros alone the last
character is left. -/
def withoutZeros? : List Char → Option (List Char)
  | [] => none
  | c :: rest =>
    if c = '0' then
      match rest.dropWhile fun d => d == '0' || d == '_' with
      | [] => some [rest.getLastD c]
      | d :: more => if endsZeros d then some (d :: more) else none
    else if endsZeros c then some (c :: rest)
    else none

/-- Whether two underscores follow each other. -/
def hasDoubleUnderscore (s : List Char) : Bool := (s.zip s.tail).contains ('_', '_')

/-- A numeral without its underscores, if each stands alone between other characters. -/
def withoutUnderscores (s : List Char) : List Char :=
  if s.head? = some '_' ∨ s.getLast? = some '_' ∨ hasDoubleUnderscore s then s
  else s.filter (· != '_')

/-- The plain numeral that a spelling without blanks around it stands for, as far as it is one. -/
def plain? (s : List Char) : Option (List Char) :=
  match s with
  | '+' :: '-' :: _ => none
  | '+' :: rest => (withoutZeros? (withoutFraction rest)).map withoutUnderscores
  | '-' :: rest => (withoutZeros? (withoutFraction rest)).map fun t => withoutUnderscores ('-' :: t)
  | rest => (withoutZeros? (withoutFraction rest)).map withoutUnderscores

/-- Reads an integer. -/
def integer (s : String) : Except Refusal Int :=
  let spelled := Text.trim Text.isWhiteSpace s.toList
  match read spelled with
  | .error .malformed =>
    match plain? spelled with
    | some numeral => read numeral
    | none => .error .malformed
  | found => found

end CrudPlan.Numeral
