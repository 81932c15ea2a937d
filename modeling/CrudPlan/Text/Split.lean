/-!
# Splitting texts

* `Text.splitAt` splits a list at the members of a class, which are left out.
-/

namespace CrudPlan.Text

variable {α : Type}

/-- The parts of a list between its breaks, as `isBreak` tells them. -/
def splitAt (isBreak : α → Bool) : List α → List (List α)
  | [] => [[]]
  | a :: rest =>
    match splitAt isBreak rest with
    | [] => [[a]]
    | part :: parts => if isBreak a then [] :: part :: parts else (a :: part) :: parts

end CrudPlan.Text
