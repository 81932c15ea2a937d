import CrudPlan.Proofs.Json.Atoms

/-!
# Reading what was written

The canonical text of a JSON value is read as that value, with the members of its objects in the
order of their keys.

* `Json.Exact`: there is no floating-point number in a value. Such numbers are rounded when they
  are read, so the law is not stated for them;
* `Json.IsReadBack` is the law for one value, with any text after it. It holds of atoms, of lists if
  it holds of their items, of objects if it holds of their members, and so, by induction on the
  value, of all (`Json.isReadBack_of_exact`);
* `Json.parse?_canonical` is the law for whole texts.
-/

namespace CrudPlan.Json

/-! ### Values without floating-point numbers -/

/-- A value in which every number is an integer. -/
inductive Exact : Json → Prop
  | null : Exact .null
  | bool (b : Bool) : Exact (.bool b)
  | int (n : Int) : Exact (.int n)
  | text (s : String) : Exact (.text s)
  | list {items : List Json} (items_exact : ∀ v ∈ items, Exact v) : Exact (.list items)
  | object {members : List (String × Json)} (members_exact : ∀ m ∈ members, Exact m.2) :
    Exact (.object members)

theorem sortKeysItems_eq_map (items : List Json) : sortKeysItems items = items.map sortKeys := by
  induction items with
  | nil => rfl
  | cons v rest ih => rw [sortKeysItems, ih, List.map_cons]

theorem sortKeysMembers_eq_map (members : List (String × Json)) :
    sortKeysMembers members = members.map fun m => (m.1, m.2.sortKeys) := by
  induction members with
  | nil => rfl
  | cons m rest ih =>
    obtain ⟨k, v⟩ := m
    rw [sortKeysMembers, ih, List.map_cons]

theorem mem_sortMembers {members : List (String × Json)} {m : String × Json} :
    m ∈ sortMembers members ↔ m ∈ members :=
  List.mem_mergeSort

theorem Exact.sortKeys {v : Json} (h : v.Exact) : v.sortKeys.Exact := by
  induction h with
  | null => exact .null
  | bool b => exact .bool b
  | int n => exact .int n
  | text s => exact .text s
  | list _ ih =>
    rw [Json.sortKeys, sortKeysItems_eq_map]
    refine .list fun v hv => ?_
    obtain ⟨w, hw, rfl⟩ := List.mem_map.1 hv
    exact ih w hw
  | object _ ih =>
    rw [Json.sortKeys, sortKeysMembers_eq_map]
    refine .object fun m hm => ?_
    obtain ⟨n, hn, rfl⟩ := List.mem_map.1 (mem_sortMembers.1 hm)
    exact ih n hn

/-! ### The first character of a value -/

/-- Whether a value may begin with a character. -/
def beginsValue (c : Char) : Bool := c.isDigit || "\"[\x7b-ntf".toList.contains c

theorem isGap_of_beginsValue {c : Char} (h : beginsValue c = true) : isGap c = false := by
  by_contra hgap
  simp only [isGap, Bool.not_eq_false, Bool.or_eq_true, beq_iff_eq] at hgap
  rcases hgap with ((rfl | rfl) | rfl) | rfl <;> revert h <;> decide

/-- An integer begins with a digit or a sign. -/
theorem exists_intText_eq_cons (n : Int) :
    ∃ c rest, intText n = c :: rest ∧ (c.isDigit = true ∨ c = '-') := by
  cases n with
  | ofNat n =>
    rw [Int.ofNat_eq_natCast, intText_ofNat]
    cases hn : digits n with
    | nil => exact absurd hn (digits_ne_nil n)
    | cons c rest => exact ⟨c, rest, rfl, .inl (isDigit_of_mem_digits (by rw [hn]; simp))⟩
  | negSucc n => exact ⟨'-', _, intText_neg n, .inr rfl⟩

theorem beginsValue_of_numeral {c : Char} (h : c.isDigit = true ∨ c = '-') :
    beginsValue c = true := by
  rcases h with h | rfl
  · simp [beginsValue, h]
  · decide

theorem exists_compact_eq_cons {v : Json} (h : v.Exact) :
    ∃ c rest, compact escapeAscii v = c :: rest ∧ beginsValue c = true := by
  cases h with
  | null => exact ⟨'n', _, rfl, by decide⟩
  | bool b => cases b <;> exact ⟨_, _, rfl, by decide⟩
  | int n =>
    obtain ⟨c, rest, hn, hc⟩ := exists_intText_eq_cons n
    exact ⟨c, rest, hn, beginsValue_of_numeral hc⟩
  | text s => exact ⟨'"', _, rfl, by decide⟩
  | list => exact ⟨'[', _, rfl, by decide⟩
  | object => exact ⟨'\x7b', _, rfl, by decide⟩

theorem skipGaps_cons {c : Char} (h : isGap c = false) (s : List Char) :
    skipGaps (c :: s) = c :: s := by
  simp [skipGaps, h]

theorem skipGaps_of_ends {rest : List Char} (h : Ends rest) : skipGaps rest = rest := by
  cases rest with
  | nil => rfl
  | cons c rest =>
    exact skipGaps_cons (by rcases h c rfl with rfl | rfl | rfl <;> decide) rest

/-! ### Atoms -/

/-- A value is read back from its text, whatever follows. Fuel for every character is enough. -/
def IsReadBack (v : Json) : Prop :=
  ∀ fuel rest, (compact escapeAscii v).length ≤ fuel → Ends rest →
    value? fuel (compact escapeAscii v ++ rest) = some (v, rest)

/-- There is fuel for a first step, since no text is empty. -/
theorem isReadBack_of_succ {v : Json} (hne : compact escapeAscii v ≠ [])
    (h : ∀ fuel rest, (compact escapeAscii v).length ≤ fuel + 1 → Ends rest →
      value? (fuel + 1) (compact escapeAscii v ++ rest) = some (v, rest)) : IsReadBack v := by
  intro fuel rest hfuel hrest
  cases fuel with
  | zero => exact absurd (List.length_eq_zero_iff.1 (Nat.le_zero.1 hfuel)) hne
  | succ fuel => exact h fuel rest hfuel hrest

theorem value?_cons_of_atom {c : Char} (hgap : isGap c = false)
    (hc : c ≠ '"' ∧ c ≠ '[' ∧ c ≠ '\x7b') (fuel : Nat) (s : List Char) :
    value? (fuel + 1) (c :: s) = atom? (c :: s) := by
  rw [value?, skipGaps_cons hgap]
  split <;> simp_all

theorem isReadBack_null : IsReadBack .null :=
  isReadBack_of_succ nofun fun fuel _ _ _ =>
    value?_cons_of_atom (by decide) (by decide) fuel _

theorem isReadBack_bool (b : Bool) : IsReadBack (.bool b) := by
  cases b <;> exact isReadBack_of_succ nofun fun fuel _ _ _ =>
    value?_cons_of_atom (by decide) (by decide) fuel _

theorem afterWord?_eq_none {c d : Char} {word : String} {tail : List Char}
    (hword : word.toList = d :: tail) (h : c ≠ d) (s : List Char) :
    afterWord? word (c :: s) = none := by
  simp [afterWord?, hword, Ne.symm h]

theorem isReadBack_int (n : Int) : IsReadBack (.int n) := by
  obtain ⟨c, tail, hn, hc⟩ := exists_intText_eq_cons n
  have hne : ∀ d, d.isDigit = false → d ≠ '-' → c ≠ d := by
    rintro d hdigit hminus rfl
    rcases hc with hc | hc
    · rw [hc] at hdigit
      cases hdigit
    · exact hminus hc
  have hgap : isGap c = false := isGap_of_beginsValue (beginsValue_of_numeral hc)
  have hatom : ∀ s, atom? (c :: s) = number? (c :: s) := by
    intro s
    rw [atom?, afterWord?_eq_none rfl (hne 'n' (by decide) (by decide)),
      afterWord?_eq_none rfl (hne 't' (by decide) (by decide)),
      afterWord?_eq_none rfl (hne 'f' (by decide) (by decide))]
  have hcompact : compact escapeAscii (.int n) = c :: tail := by rw [compact, hn]
  refine isReadBack_of_succ (by rw [hcompact]; exact nofun) fun fuel rest _ hrest => ?_
  rw [hcompact, List.cons_append, value?_cons_of_atom hgap ⟨hne _ (by decide) (by decide),
    hne _ (by decide) (by decide), hne _ (by decide) (by decide)⟩, hatom, ← List.cons_append, ← hn]
  exact number?_intText n hrest

theorem isReadBack_text (s : String) : IsReadBack (.text s) := by
  refine isReadBack_of_succ nofun fun fuel rest _ _ => ?_
  rw [compact, quote, List.append_assoc, List.cons_append, value?, skipGaps_cons (by decide)]
  exact congrArg (Option.map _) (quotedText?_escapeAscii s rest)

/-! ### Lists -/

variable {items : List Json}

/-- Items are read back up to the bracket that ends their list. -/
theorem items?_compactItems (hne : items ≠ []) (hitems : ∀ v ∈ items, IsReadBack v)
    (fuel : Nat) (rest : List Char) (hfuel : (compactItems escapeAscii items).length ≤ fuel) :
    items? (fuel + 1) (compactItems escapeAscii items ++ ']' :: rest) = some (items, rest) := by
  induction items generalizing fuel with
  | nil => exact absurd rfl hne
  | cons v more ih =>
    obtain ⟨hv, hmore⟩ := List.forall_mem_cons.1 hitems
    cases more with
    | nil =>
      have hread := hv fuel (']' :: rest) hfuel (ends_bracket rest)
      simp only [compactItems, items?, hread, skipGaps_of_ends (ends_bracket rest)]
    | cons w more =>
      have hcompact : compactItems escapeAscii (v :: w :: more) =
          compact escapeAscii v ++ ',' :: compactItems escapeAscii (w :: more) := rfl
      rw [hcompact, List.length_append, List.length_cons] at hfuel
      obtain ⟨fuel, rfl⟩ := Nat.exists_eq_add_one.2 (by omega : 0 < fuel)
      have hread := hv (fuel + 1) _ (by omega)
        (ends_comma (compactItems escapeAscii (w :: more) ++ ']' :: rest))
      have htail := ih (List.cons_ne_nil _ _) hmore fuel (by omega)
      rw [hcompact, List.append_assoc, List.cons_append, items?, hread]
      simp only [skipGaps_of_ends (ends_comma _), htail, Option.map_some]

theorem exists_compactItems_eq_cons (hne : items ≠ []) (hexact : ∀ v ∈ items, Exact v) :
    ∃ c rest, compactItems escapeAscii items = c :: rest ∧ beginsValue c = true := by
  cases items with
  | nil => exact absurd rfl hne
  | cons v more =>
    obtain ⟨c, rest, hv, hc⟩ := exists_compact_eq_cons (hexact v List.mem_cons_self)
    cases more with
    | nil => exact ⟨c, rest, hv, hc⟩
    | cons w more => exact ⟨c, _, by rw [compactItems, hv, List.cons_append]; exact nofun, hc⟩

theorem isReadBack_list (hexact : ∀ v ∈ items, Exact v) (hitems : ∀ v ∈ items, IsReadBack v) :
    IsReadBack (.list items) := by
  refine isReadBack_of_succ nofun fun fuel rest hfuel _ => ?_
  rw [compact, List.cons_append, List.length_cons, List.length_append, List.length_singleton]
    at hfuel
  rw [compact, List.append_assoc, List.cons_append, List.singleton_append, value?,
    skipGaps_cons (by decide)]
  by_cases hnil : items = []
  · subst hnil
    simp only [compactItems, List.nil_append, skipGaps_of_ends (ends_bracket rest)]
  · obtain ⟨fuel, rfl⟩ := Nat.exists_eq_add_one.2 (by omega : 0 < fuel)
    have hread := items?_compactItems hnil hitems fuel rest (by omega)
    obtain ⟨c, tail, hcons, hc⟩ := exists_compactItems_eq_cons hnil hexact
    have hbracket : c ≠ ']' := by
      rintro rfl
      revert hc
      decide
    rw [hcons, List.cons_append] at hread ⊢
    simp only [skipGaps_cons (isGap_of_beginsValue hc), hread]
    split
    · next after h => exact absurd (List.cons.inj h).1 hbracket
    · rfl

/-! ### Objects -/

variable {members : List (String × Json)}

/-- The text of a member. -/
def memberText (m : String × Json) : List Char :=
  quote escapeAscii m.1 ++ ':' :: compact escapeAscii m.2

theorem compactMembers_cons_cons (m n : String × Json) :
    compactMembers escapeAscii (m :: n :: members) =
      memberText m ++ ',' :: compactMembers escapeAscii (n :: members) := by
  rw [compactMembers, memberText, List.append_assoc, List.cons_append]
  exact nofun

/-- The members from a given one on, by what follows it. -/
def membersAfter? (fuel : Nat) (m : String × Json) :
    List Char → Option (List (String × Json) × List Char)
  | '\x7d' :: after => some ([m], after)
  | ',' :: more => (members? fuel more).map fun (members, after) => (m :: members, after)
  | _ => none

/-- A member is read back, and what follows it decides how to go on. -/
theorem members?_memberText {m : String × Json} (hm : IsReadBack m.2) (fuel : Nat)
    (rest : List Char) (hfuel : (memberText m).length ≤ fuel) (hrest : Ends rest) :
    members? (fuel + 1) (memberText m ++ rest) = membersAfter? fuel m rest := by
  have hlength : (compact escapeAscii m.2).length ≤ fuel := by
    rw [memberText, List.length_append, List.length_cons] at hfuel
    omega
  rw [memberText, quote, List.append_assoc, List.append_assoc, List.cons_append,
    List.singleton_append, members?, skipGaps_cons (by decide)]
  simp only [quotedText?_escapeAscii, List.cons_append,
    skipGaps_cons (show isGap ':' = false by decide), hm fuel rest hlength hrest,
    skipGaps_of_ends hrest]
  rfl

/-- Members are read back up to the brace that ends their object. -/
theorem members?_compactMembers (hne : members ≠ []) (hmembers : ∀ m ∈ members, IsReadBack m.2)
    (fuel : Nat) (rest : List Char)
    (hfuel : (compactMembers escapeAscii members).length ≤ fuel) :
    members? (fuel + 1) (compactMembers escapeAscii members ++ '\x7d' :: rest) =
      some (members, rest) := by
  induction members generalizing fuel with
  | nil => exact absurd rfl hne
  | cons m more ih =>
    obtain ⟨hm, hmore⟩ := List.forall_mem_cons.1 hmembers
    cases more with
    | nil => exact members?_memberText hm fuel _ hfuel (ends_brace rest)
    | cons n more =>
      rw [compactMembers_cons_cons, List.length_append, List.length_cons] at hfuel
      obtain ⟨fuel, rfl⟩ := Nat.exists_eq_add_one.2 (by omega : 0 < fuel)
      have htail := ih (List.cons_ne_nil _ _) hmore fuel (by omega)
      rw [compactMembers_cons_cons, List.append_assoc, List.cons_append,
        members?_memberText hm _ _ (by omega) (ends_comma _)]
      simp only [membersAfter?, htail, Option.map_some]

theorem isReadBack_object (hmembers : ∀ m ∈ members, IsReadBack m.2) :
    IsReadBack (.object members) := by
  refine isReadBack_of_succ nofun fun fuel rest hfuel _ => ?_
  rw [compact, List.cons_append, List.length_cons, List.length_append, List.length_singleton]
    at hfuel
  rw [compact, List.append_assoc, List.cons_append, List.singleton_append, value?,
    skipGaps_cons (by decide)]
  cases members with
  | nil => simp only [compactMembers, List.nil_append, skipGaps_of_ends (ends_brace rest)]
  | cons m more =>
    obtain ⟨fuel, rfl⟩ := Nat.exists_eq_add_one.2 (by omega : 0 < fuel)
    have hread := members?_compactMembers (List.cons_ne_nil m more) hmembers fuel rest (by omega)
    obtain ⟨tail, hcons⟩ : ∃ tail, compactMembers escapeAscii (m :: more) = '"' :: tail := by
      cases more with
      | nil => exact ⟨_, rfl⟩
      | cons n more => exact ⟨_, compactMembers_cons_cons m n⟩
    rw [hcons, List.cons_append] at hread ⊢
    simp only [skipGaps_cons (show isGap '"' = false by decide), hread, Option.map_some]
    rfl

/-! ### Whole texts -/

/-- **Every value without floating-point numbers is read back from its text**, whatever follows. -/
theorem isReadBack_of_exact {v : Json} (h : v.Exact) : IsReadBack v := by
  induction h with
  | null => exact isReadBack_null
  | bool b => exact isReadBack_bool b
  | int n => exact isReadBack_int n
  | text s => exact isReadBack_text s
  | list items_exact ih => exact isReadBack_list items_exact ih
  | object _ ih => exact isReadBack_object ih

/-- **The canonical text of a value is read as the value** with its keys in order. -/
theorem parse?_canonical {v : Json} (h : v.Exact) : parse? v.canonical = some v.sortKeys := by
  have hread := isReadBack_of_exact h.sortKeys
    (2 * (compact escapeAscii v.sortKeys).length + 2) [] (by omega) ends_nil
  rw [List.append_nil] at hread
  rw [parse?, canonical, String.toList_ofList]
  simp only [hread]
  rfl

end CrudPlan.Json
