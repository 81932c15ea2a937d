/-!
# Limits of the machine

A descriptor may have numbers of any size, but no machine lists any number of items, and a number is
only written if it does not have too many digits. Whoever asks for more gets no answer. A list whose
items can be addressed is taken to find room.

* `Overload` is what the machine cannot do, and `Overload.message` its report;
* `Overload.listing?` says whether a list is too long, `Overload.writing?` whether a number is.
-/

namespace CrudPlan

/-- What the machine cannot do. -/
inductive Overload where
  /-- Count the items of a list. -/
  | tooManyItems
  /-- Hold the items of a list. -/
  | outOfMemory
  /-- Write the digits of a number. -/
  | tooManyDigits
  deriving DecidableEq, Repr

namespace Overload

/-- The report of an overload. -/
def message : Overload → String
  | .tooManyItems => "Python int too large to convert to C ssize_t"
  | .outOfMemory => ""
  | .tooManyDigits =>
    "Exceeds the limit (4300 digits) for integer string conversion; " ++
      "use sys.set_int_max_str_digits() to increase the limit"

/-! ### Lists -/

/-- So many items cannot be counted. -/
def itemLimit : Nat := 1 <<< 63

/-- There is no room for so many items, at eight bytes each. -/
def memoryLimit : Nat := 1 <<< 60

/-- What stands in the way of a list of some length. -/
def listing? (length : Nat) : Option Overload :=
  if itemLimit ≤ length then some .tooManyItems
  else if memoryLimit ≤ length then some .outOfMemory
  else none

theorem listing?_eq_none_iff {length : Nat} : listing? length = none ↔ length < memoryLimit := by
  have hlimits : memoryLimit ≤ itemLimit := by decide
  unfold listing?
  split
  · next h =>
    simp only [reduceCtorEq, false_iff]
    omega
  · split
    · next h =>
      simp only [reduceCtorEq, false_iff]
      omega
    · next h => simpa using h

/-! ### Numbers -/

/-- The most digits of a number that is written. -/
def maxDigits : Nat := 4300

/-- The least number with more digits. It is not worked out by accident. -/
@[irreducible]
def numberLimit : Nat := Nat.pow 10 maxDigits

theorem lt_numberLimit_iff {n : Nat} :
    n < numberLimit ↔ (Nat.toDigits 10 n).length ≤ maxDigits := by
  have hlength : ∀ digits, 0 < digits →
      ((Nat.toDigits 10 n).length ≤ digits ↔ n < Nat.pow 10 digits) :=
    fun digits hpos => Nat.length_toDigits_le_iff (by decide) hpos
  unfold numberLimit
  exact (hlength maxDigits (by decide)).symm

/-- What stands in the way of writing a number. -/
def writing? (n : Nat) : Option Overload :=
  if maxDigits < (Nat.toDigits 10 n).length then some .tooManyDigits else none

theorem writing?_eq_none_iff {n : Nat} : writing? n = none ↔ n < numberLimit := by
  rw [lt_numberLimit_iff, writing?, ite_eq_right_iff]
  simp

end Overload

end CrudPlan
