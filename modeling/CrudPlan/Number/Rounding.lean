/-!
# Rounding

`roundDiv` rounds a quotient to the nearest natural number, a half to the even one.
-/

namespace CrudPlan

/-- A quotient rounded to the nearest natural number, a half to the even one. -/
def roundDiv (n d : Nat) : Nat :=
  match compare (2 * (n % d)) d with
  | .lt => n / d
  | .eq => n / d + n / d % 2
  | .gt => n / d + 1

end CrudPlan
