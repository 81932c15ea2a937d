/-!
# Lists of names

* `firstOccurrences` keeps the first of equal names;
* `firstRepeated?` finds the first name that is not new.
-/

namespace CrudPlan

/-- The entries of a list, each once and in the order in which they first occur. -/
def firstOccurrences : List String → List String
  | [] => []
  | x :: xs => x :: (firstOccurrences xs).filter (· != x)

theorem mem_firstOccurrences {x : String} {xs : List String} :
    x ∈ firstOccurrences xs ↔ x ∈ xs := by
  induction xs with
  | nil => simp [firstOccurrences]
  | cons y ys ih =>
    by_cases h : x = y <;> simp [firstOccurrences, ih, h]

/-- The first entry of a list that occurs in `seen` or earlier in the list. -/
def firstRepeated? (seen : List String) : List String → Option String
  | [] => none
  | x :: xs => if seen.contains x then some x else firstRepeated? (x :: seen) xs

theorem firstRepeated?_eq_none_iff {seen xs : List String} :
    firstRepeated? seen xs = none ↔ xs.Nodup ∧ ∀ x ∈ xs, x ∉ seen := by
  induction xs generalizing seen with
  | nil => simp [firstRepeated?]
  | cons y ys ih =>
    rw [firstRepeated?]
    split
    · next h =>
      simp only [List.contains_iff_mem] at h
      simp [h]
    · next h =>
      simp only [List.contains_iff_mem] at h
      rw [ih, List.nodup_cons]
      constructor
      · rintro ⟨hn, hs⟩
        refine ⟨⟨fun hy => hs y hy List.mem_cons_self, hn⟩, fun x hx => ?_⟩
        rcases List.mem_cons.1 hx with rfl | hx
        · exact h
        · exact fun hm => hs x hx (List.mem_cons_of_mem _ hm)
      · rintro ⟨⟨hy, hn⟩, hs⟩
        refine ⟨hn, fun x hx hm => ?_⟩
        rcases List.mem_cons.1 hm with rfl | hm
        · exact hy hx
        · exact hs x (List.mem_cons_of_mem _ hx) hm

end CrudPlan
