import CrudPlan.Number.Rounding

/-!
# Floating-point numbers of 64 bits

Every finite number of this kind is a multiple of the least one, `2 ^ -1074`, so a `Double` is a
sign and a natural number of such units.

* `Double.ofScaled` is the number that is nearest to a decimal fraction, halves to the even one;
* `Double.integer?` is the integer that a number is, if it is one;
* `Double.text` writes a number in the fewest digits that are nearest to it.
-/

namespace CrudPlan

/-- A number in 64-bit floating point. -/
inductive Double where
  /-- A finite number: its sign, and its distance from zero in units of `2 ^ -1074`. -/
  | finite (negative : Bool) (units : Nat)
  /-- A number too large to be finite. -/
  | infinite (negative : Bool)
  deriving DecidableEq, Repr, Inhabited

namespace Double

/-- The number of units in one. -/
def one : Nat := Nat.pow 2 1074

/-- The number of units from which on numbers are not finite. -/
def limit : Nat := Nat.pow 2 1024 * one

/-! ### Rounding -/

/-- The exponent of the gap between neighbours at a number of units: a number has 53 binary
digits, but no part of a unit. -/
def gap (units : Nat) : Nat := units.log2 - 52

/-- The units of the number nearest to a quotient. -/
def nearestUnits (n d : Nat) : Nat :=
  let q := gap (n / d)
  roundDiv n (d * Nat.pow 2 q) * Nat.pow 2 q

/-- The number nearest to `n * 10 ^ e`. -/
def ofScaled (negative : Bool) (n : Nat) (e : Int) : Double :=
  let size := (Nat.toDigits 10 n).length + e
  if n = 0 ∨ size < -330 then .finite negative 0
  else if 310 < size then .infinite negative
  else
    let units := nearestUnits (n * Nat.pow 10 e.toNat * one) (Nat.pow 10 (-e).toNat)
    if units < limit then .finite negative units else .infinite negative

/-! ### Views -/

/-- The integer that a number is, if it is one. -/
def integer? : Double → Option Int
  | .finite negative units =>
    if units % one = 0 then
      let n : Int := units / one
      some (if negative then -n else n)
    else none
  | .infinite _ => none

/-- Whether a number is zero. -/
def isZero : Double → Bool
  | .finite _ units => units == 0
  | .infinite _ => false

/-! ### Text -/

/-- The decimal exponent of a quotient: the power of ten of its first digit. -/
def decimalExponent (n d : Nat) : Int :=
  if d ≤ n then (Nat.toDigits 10 (n / d)).length - 1
  else -(Nat.toDigits 10 ((d - 1) / n)).length

/-- Twice the ends of the interval of numbers of units to which `units` is the nearest, and whether
the ends belong to it. -/
def interval (units : Nat) : Nat × Nat × Bool :=
  let q := gap units
  let width := Nat.pow 2 q
  let below := if q ≠ 0 ∧ units = Nat.pow 2 (q + 52) then width / 2 else width
  (2 * units - below, 2 * units + width, units / width % 2 == 0)

/-- Whether the decimal fraction `c * 10 ^ g` lies in the interval of a number of units. -/
def isNearest (units c : Nat) (g : Int) : Bool :=
  let (low, high, closed) := interval units
  let n := 2 * c * Nat.pow 10 g.toNat * one
  let d := Nat.pow 10 (-g).toNat
  if closed then low * d ≤ n && n ≤ high * d else low * d < n && n < high * d

/-- The nearer neighbour of a number of units among the multiples of `10 ^ g`, if it is near
enough. -/
def neighbour? (units : Nat) (g : Int) : Option Nat :=
  let n := units * Nat.pow 10 (-g).toNat
  let d := one * Nat.pow 10 g.toNat
  let lower := n / d
  match isNearest units lower g, isNearest units (lower + 1) g with
  | true, true => some (roundDiv n d)
  | true, false => some lower
  | false, true => some (lower + 1)
  | false, false => none

/-- The fewest digits whose decimal fraction is nearest to a number of units, as a natural number
and the power of ten of its last digit. -/
def shortest (units : Nat) : Nat × Int :=
  let e := decimalExponent units one
  let found := (List.range 17).findSome? fun (k : Nat) =>
    (neighbour? units (e - (k : Int))).map fun c => (c, e - (k : Int))
  found.getD (0, 0)

/-- A decimal exponent of at least two digits, with its sign. -/
def exponentText (e : Int) : List Char :=
  let digits := Nat.toDigits 10 e.natAbs
  (if e < 0 then '-' else '+') :: List.replicate (2 - digits.length) '0' ++ digits

/-- Digits whose first one has the power of ten `e`: in full near one, else with an exponent. -/
def digitsText (digits : List Char) (e : Int) : List Char :=
  if -4 ≤ e ∧ e < 0 then '0' :: '.' :: List.replicate (-e - 1).toNat '0' ++ digits
  else if 0 ≤ e ∧ e < 16 then
    let whole := e.toNat + 1
    let fraction := digits.drop whole
    digits.take whole ++ List.replicate (whole - digits.length) '0' ++
      '.' :: (if fraction.isEmpty then ['0'] else fraction)
  else
    digits.take 1 ++ (if digits.length ≤ 1 then [] else '.' :: digits.drop 1) ++
      'e' :: exponentText e

/-- The text of a number of units. -/
def unitsText (units : Nat) : List Char :=
  if units = 0 then ['0', '.', '0']
  else
    let (c, g) := shortest units
    let written := Nat.toDigits 10 c
    let digits := (written.reverse.dropWhile (· == '0')).reverse
    digitsText digits (g + (written.length - 1 : Nat))

/-- Writes a number. -/
def text : Double → List Char
  | .finite negative units => (if negative then ['-'] else []) ++ unitsText units
  | .infinite negative => (if negative then ['-'] else []) ++ ['i', 'n', 'f']

end Double

end CrudPlan
