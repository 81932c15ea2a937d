import Mathlib.Data.List.Forall2
import CrudPlan.Proofs.Json.Reading

/-!
# Canonical texts

A canonical text is made of printable ASCII only, and tells the value apart from any other, up to
the order of the members of its objects. A record that is dumped without floating-point numbers and
without loss can therefore be told from its text.

* `Json.printableAscii_canonical`: the characters of a canonical text;
* `Json.Same`: values that differ in the order of members only, and `Json.canonical_eq_iff`: these
  are the values with one text;
* `Json.Same.members`: objects with the same distinct keys are the same member by member;
* `Json.Faithful`: a dump that loses nothing, with the lemmas that derive it for lists and for what
  may be absent. `Json.Faithful.canonical_eq_iff` is what it means for texts.
-/

namespace CrudPlan.Json

/-! ### Printable ASCII -/

/-- Every character is printable ASCII. -/
def PrintableAscii (s : List Char) : Prop := ∀ c ∈ s, 0x20 ≤ c.toNat ∧ c.toNat ≤ 0x7e

@[simp] theorem printableAscii_nil : PrintableAscii [] := nofun

@[simp] theorem printableAscii_cons {c : Char} {s : List Char} :
    PrintableAscii (c :: s) ↔ (0x20 ≤ c.toNat ∧ c.toNat ≤ 0x7e) ∧ PrintableAscii s :=
  List.forall_mem_cons

@[simp] theorem printableAscii_append {s t : List Char} :
    PrintableAscii (s ++ t) ↔ PrintableAscii s ∧ PrintableAscii t :=
  List.forall_mem_append

theorem printableAscii_digits (n : Nat) : PrintableAscii (digits n) := by
  intro c hc
  have hdigit : 48 ≤ c.toNat ∧ c.toNat ≤ 57 := Char.isDigit_iff_toNat.1 (isDigit_of_mem_digits hc)
  omega

theorem printableAscii_intText (n : Int) : PrintableAscii (intText n) := by
  cases n with
  | ofNat n =>
    rw [Int.ofNat_eq_natCast, intText_ofNat]
    exact printableAscii_digits n
  | negSucc n =>
    rw [Int.negSucc_eq, ← Int.natCast_succ, intText_neg]
    simp [printableAscii_digits]

theorem printableAscii_hexDigits (width n : Nat) : PrintableAscii (Text.hexDigits width n) := by
  have hdigit : ∀ d < 16, 0x20 ≤ (Nat.digitChar d).toNat ∧ (Nat.digitChar d).toNat ≤ 0x7e := by
    decide
  induction width generalizing n with
  | zero => exact printableAscii_nil
  | succ width ih =>
    have hlast := hdigit (n % 16) (Nat.mod_lt _ (by decide))
    simp [Text.hexDigits, Text.hexDigit, ih, hlast]

theorem printableAscii_unitEscape (n : Nat) : PrintableAscii (unitEscape n) := by
  simp [unitEscape, printableAscii_hexDigits]

theorem printableAscii_escapeAscii (c : Char) : PrintableAscii (escapeAscii c) := by
  rw [escapeAscii]
  cases hshort : shortEscape? c with
  | some letter =>
    have hletter : 0x20 ≤ letter.toNat ∧ letter.toNat ≤ 0x7e := by
      rw [shortEscape?] at hshort
      split_ifs at hshort <;> cases hshort <;> decide
    simp [hletter]
  | none =>
    simp only
    split_ifs with hprintable
    · simp [hprintable]
    · exact printableAscii_unitEscape _
    · simp [printableAscii_unitEscape]

theorem printableAscii_quote (s : String) : PrintableAscii (quote escapeAscii s) := by
  have hchars : PrintableAscii (s.toList.flatMap escapeAscii) := by
    intro c hc
    obtain ⟨d, -, hd⟩ := List.mem_flatMap.1 hc
    exact printableAscii_escapeAscii d c hd
  simp [quote, hchars]

theorem printableAscii_compactItems {items : List Json}
    (h : ∀ v ∈ items, PrintableAscii (compact escapeAscii v)) :
    PrintableAscii (compactItems escapeAscii items) := by
  induction items with
  | nil => exact printableAscii_nil
  | cons v more ih =>
    obtain ⟨hv, hmore⟩ := List.forall_mem_cons.1 h
    cases more with
    | nil => exact hv
    | cons w more => exact printableAscii_append.2 ⟨hv, printableAscii_cons.2 ⟨by decide, ih hmore⟩⟩

theorem printableAscii_compactMembers {members : List (String × Json)}
    (h : ∀ m ∈ members, PrintableAscii (compact escapeAscii m.2)) :
    PrintableAscii (compactMembers escapeAscii members) := by
  induction members with
  | nil => exact printableAscii_nil
  | cons m more ih =>
    obtain ⟨hm, hmore⟩ := List.forall_mem_cons.1 h
    have hmember : PrintableAscii (memberText m) := by simp [memberText, printableAscii_quote, hm]
    cases more with
    | nil => exact hmember
    | cons n more => simp [compactMembers_cons_cons, hmember, ih hmore]

theorem printableAscii_compact {v : Json} (h : v.Exact) :
    PrintableAscii (compact escapeAscii v) := by
  induction h with
  | null => simp [compact]
  | bool b => cases b <;> simp [compact, boolText]
  | int n => exact printableAscii_intText n
  | text s => exact printableAscii_quote s
  | list _ ih => simp [compact, printableAscii_compactItems ih]
  | object _ ih => simp [compact, printableAscii_compactMembers ih]

/-- **A canonical text is printable ASCII.** -/
theorem printableAscii_canonical {v : Json} (h : v.Exact) : PrintableAscii v.canonical.toList := by
  rw [canonical, String.toList_ofList]
  exact printableAscii_compact h.sortKeys

/-! ### Values with one text -/

/-- Values that differ in the order of members only. -/
def Same (v w : Json) : Prop := v.sortKeys = w.sortKeys

/-- **Values have one canonical text if they are the same**, and only then. -/
theorem canonical_eq_iff {v w : Json} (hv : v.Exact) (hw : w.Exact) :
    v.canonical = w.canonical ↔ v.Same w := by
  constructor
  · intro h
    have hread := parse?_canonical hv
    rw [h, parse?_canonical hw] at hread
    exact (Option.some.inj hread).symm
  · intro h
    rw [canonical, canonical, h]

@[simp] theorem same_bool {a b : Bool} : (Json.bool a).Same (.bool b) ↔ a = b := by
  simp [Same, sortKeys]

@[simp] theorem same_int {m n : Int} : (Json.int m).Same (.int n) ↔ m = n := by
  simp [Same, sortKeys]

@[simp] theorem same_text {s t : String} : (Json.text s).Same (.text t) ↔ s = t := by
  simp [Same, sortKeys]

theorem same_null {v : Json} : v.Same .null ↔ v = .null := by
  cases v <;> simp [Same, sortKeys]

theorem same_list {xs ys : List Json} :
    (Json.list xs).Same (.list ys) ↔ List.Forall₂ Same xs ys := by
  rw [Same, sortKeys, sortKeys, sortKeysItems_eq_map, sortKeysItems_eq_map, list.injEq,
    ← List.forall₂_eq_eq_eq, List.forall₂_map_left_iff, List.forall₂_map_right_iff]
  rfl

/-- Lists with one order of distinct keys are permutations of each other only if they are equal. -/
theorem eq_of_perm {ms ns : List (String × Json)} (hperm : ms.Perm ns)
    (hkeys : ms.map Prod.fst = ns.map Prod.fst) (hnodup : (ms.map Prod.fst).Nodup) : ms = ns := by
  induction ms generalizing ns with
  | nil => exact hperm.nil_eq
  | cons m ms ih =>
    cases ns with
    | nil => exact hperm.eq_nil
    | cons n ns =>
      have hrest : ms.map Prod.fst = ns.map Prod.fst := (List.cons.inj hkeys).2
      obtain ⟨hnew, hnodup⟩ := List.nodup_cons.1 hnodup
      -- the first member has its place at the head, since no other one has its key
      have hmn : m = n := by
        rcases List.mem_cons.1 (hperm.subset List.mem_cons_self) with h | h
        · exact h
        · exact absurd (hrest ▸ List.mem_map_of_mem h) hnew
      subst hmn
      rw [ih hperm.cons_inv hrest hnodup]

theorem sortMembers_perm (members : List (String × Json)) : (sortMembers members).Perm members :=
  List.mergeSort_perm _ _

theorem Same.perm {ms ns : List (String × Json)} (h : (object ms).Same (.object ns)) :
    (sortKeysMembers ms).Perm (sortKeysMembers ns) := by
  have hsorted : sortMembers (sortKeysMembers ms) = sortMembers (sortKeysMembers ns) := by
    simpa only [Same, sortKeys, object.injEq] using h
  exact (sortMembers_perm _).symm.trans (hsorted ▸ sortMembers_perm _)

theorem map_fst_sortKeysMembers (members : List (String × Json)) :
    (sortKeysMembers members).map Prod.fst = members.map Prod.fst := by
  rw [sortKeysMembers_eq_map, List.map_map]
  rfl

/-- **Objects with the same distinct keys are the same only member by member.** -/
theorem Same.members {ms ns : List (String × Json)} (h : (object ms).Same (.object ns))
    (hkeys : ms.map Prod.fst = ns.map Prod.fst) (hnodup : (ms.map Prod.fst).Nodup) :
    List.Forall₂ (fun m n => m.2.Same n.2) ms ns := by
  have heq : sortKeysMembers ms = sortKeysMembers ns := by
    refine eq_of_perm h.perm ?_ ?_
    · rw [map_fst_sortKeysMembers, map_fst_sortKeysMembers, hkeys]
    · rw [map_fst_sortKeysMembers]
      exact hnodup
  rw [sortKeysMembers_eq_map, sortKeysMembers_eq_map, ← List.forall₂_eq_eq_eq,
    List.forall₂_map_left_iff, List.forall₂_map_right_iff] at heq
  exact heq.imp fun _ _ hmn => (Prod.mk.inj hmn).2

/-! ### Dumps that lose nothing -/

theorem exact_object {members : List (String × Json)} :
    (Json.object members).Exact ↔ ∀ m ∈ members, m.2.Exact :=
  ⟨fun | .object h => h, .object⟩

/-- A dump from which the value can be told, without floating-point numbers. -/
structure Faithful {α : Type} (dump : α → Json) : Prop where
  exact : ∀ a, (dump a).Exact
  injective : ∀ {a b}, (dump a).Same (dump b) → a = b

namespace Faithful

variable {α : Type} {dump : α → Json} {a b : α}

theorem same_iff (h : Faithful dump) : (dump a).Same (dump b) ↔ a = b :=
  ⟨h.injective, fun hab => hab ▸ rfl⟩

/-- **The text of a faithful dump tells the value.** -/
theorem canonical_eq_iff (h : Faithful dump) : (dump a).canonical = (dump b).canonical ↔ a = b :=
  (Json.canonical_eq_iff (h.exact a) (h.exact b)).trans h.same_iff

theorem bool : Faithful Json.bool := ⟨.bool, same_bool.1⟩

theorem int : Faithful Json.int := ⟨.int, same_int.1⟩

theorem nat : Faithful Json.nat :=
  ⟨fun n => .int n, fun h => Int.natCast_inj.1 (same_int.1 h)⟩

theorem text : Faithful Json.text := ⟨.text, same_text.1⟩

theorem listOf (h : Faithful dump) : Faithful (Json.listOf dump) where
  exact xs := .list <| by
    rintro _ hv
    obtain ⟨a, -, rfl⟩ := List.mem_map.1 hv
    exact h.exact a
  injective := by
    intro xs ys hsame
    rw [Json.listOf, Json.listOf, same_list, List.forall₂_map_left_iff,
      List.forall₂_map_right_iff] at hsame
    exact List.forall₂_eq_eq_eq ▸ hsame.imp fun _ _ => h.injective

theorem texts : Faithful Json.texts := text.listOf

theorem optJson (h : Faithful dump) (hnull : ∀ a, dump a ≠ .null) :
    Faithful (Json.optJson dump) where
  exact
    | none => .null
    | some a => h.exact a
  injective := by
    rintro (_ | a) (_ | b) hsame
    · rfl
    · exact absurd (same_null.1 hsame.symm) (hnull b)
    · exact absurd (same_null.1 hsame) (hnull a)
    · exact congrArg some (h.injective hsame)

theorem optText : Faithful Json.optText := by
  have hoptText : Json.optText = Json.optJson Json.text := by
    funext x
    cases x <;> rfl
  exact hoptText ▸ text.optJson fun _ => nofun

end Faithful

end CrudPlan.Json
