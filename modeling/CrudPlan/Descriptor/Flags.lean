import CrudPlan.Json.Basic

/-!
# Flags

`Flags` are truth values by key. They are kept in the order of their keys, so that two of them are
equal as soon as they have the same value for every key.

* `Flags.insert` sets a flag, and `Flags.ofList` a list of them, of which the last one for a key
  counts.
-/

namespace CrudPlan

/-- Truth values by key. -/
structure Flags where
  /-- The keys with their values. -/
  entries : List (String × Bool) := []
  /-- Every key occurs once, and they are in order. -/
  sorted : entries.Pairwise fun a b => a.1 < b.1 := by simp
  deriving DecidableEq, Repr

namespace Flags

/-- Entries with the value of a key set. -/
def insertEntry (key : String) (value : Bool) : List (String × Bool) → List (String × Bool)
  | [] => [(key, value)]
  | e :: rest =>
    if key < e.1 then (key, value) :: e :: rest
    else if key = e.1 then (key, value) :: rest
    else e :: insertEntry key value rest

theorem eq_or_mem_of_mem_insertEntry {key : String} {value : Bool} {e : String × Bool}
    {entries : List (String × Bool)} (h : e ∈ insertEntry key value entries) :
    e = (key, value) ∨ e ∈ entries := by
  induction entries with
  | nil => simpa [insertEntry] using h
  | cons f rest ih =>
    rw [insertEntry] at h
    split at h
    · simpa using h
    · split at h
      · rcases List.mem_cons.1 h with h | h
        · exact .inl h
        · exact .inr (List.mem_cons_of_mem _ h)
      · rcases List.mem_cons.1 h with rfl | h
        · exact .inr List.mem_cons_self
        · exact (ih h).imp_right (List.mem_cons_of_mem _)

theorem sorted_insertEntry {key : String} {value : Bool} {entries : List (String × Bool)}
    (h : entries.Pairwise fun a b => a.1 < b.1) :
    (insertEntry key value entries).Pairwise fun a b => a.1 < b.1 := by
  induction entries with
  | nil => simp [insertEntry]
  | cons e rest ih =>
    obtain ⟨head, tail⟩ := List.pairwise_cons.1 h
    rw [insertEntry]
    split
    · next lt =>
      refine List.pairwise_cons.2 ⟨fun f hf => ?_, h⟩
      rcases List.mem_cons.1 hf with rfl | hf
      · exact lt
      · exact String.lt_trans lt (head f hf)
    · next notLt =>
      split
      · next eq => exact List.pairwise_cons.2 ⟨fun f hf => eq ▸ head f hf, tail⟩
      · next ne =>
        have lt : e.1 < key := Std.lt_of_le_of_ne (String.not_lt.1 notLt) (Ne.symm ne)
        refine List.pairwise_cons.2 ⟨fun f hf => ?_, ih tail⟩
        rcases eq_or_mem_of_mem_insertEntry hf with rfl | hf
        · exact lt
        · exact head f hf

/-- The flags with the value of a key set. -/
def insert (flags : Flags) (key : String) (value : Bool) : Flags :=
  ⟨insertEntry key value flags.entries, sorted_insertEntry flags.sorted⟩

/-- The flags of a list; the last value of a key counts. -/
def ofList (entries : List (String × Bool)) : Flags :=
  entries.foldl (fun flags (key, value) => flags.insert key value) {}

variable (flags : Flags)

/-- The keys of the flags that are set. -/
def enabled : List String := (flags.entries.filter (·.2)).map (·.1)

/-- The dump of flags. -/
def toJson : Json := .object (flags.entries.map fun (key, value) => (key, .bool value))

end Flags

end CrudPlan
