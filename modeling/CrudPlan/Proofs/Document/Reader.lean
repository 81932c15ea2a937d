import Mathlib.Data.List.Forall2
import CrudPlan.Document.Reader

/-!
# What readers accept

* `Reader.listOf_eq_valid_iff`: a list is read item by item;
* `Reader.Yields` says what is true of every value that a reader accepts, and the lemmas that follow
  derive it for composite readers and for the members of an object;
* the lemmas on dumps say when a reader takes back what is written of a value: they are stated for
  single values first, then for options, lists and members.
-/

namespace CrudPlan

namespace Checked

variable {α β : Type}

@[simp] theorem map_valid (f : α → β) (a : α) : f <$> (valid a : Checked α) = valid (f a) := rfl

@[simp] theorem seq_valid (f : α → β) (a : α) : (valid f : Checked (α → β)) <*> valid a =
    valid (f a) := rfl

@[simp] theorem seqLeft_valid (a : α) (b : β) : (valid a : Checked α) <* (valid b : Checked β) =
    valid a := rfl

@[simp] theorem within_valid (step : Step) (a : α) : (valid a).within step = valid a := rfl

theorem map_eq_valid_iff {f : α → β} {x : Checked α} {b : β} :
    f <$> x = .valid b ↔ ∃ a, x = .valid a ∧ f a = b := by
  cases x <;> simp [Functor.map, map]

/-- The value has a property, if there is one. -/
def Holds (P : α → Prop) (x : Checked α) : Prop := ∀ a, x = .valid a → P a

variable {P : α → Prop} {Q : β → Prop} {f : Checked (α → β)} {x : Checked α}

theorem Holds.map {f : α → β} (h : x.Holds fun a => Q (f a)) : (f <$> x).Holds Q := by
  intro b hb
  obtain ⟨a, ha, rfl⟩ := map_eq_valid_iff.1 hb
  exact h a ha

theorem Holds.seq (hf : f.Holds fun g => ∀ a, P a → Q (g a)) (hx : x.Holds P) :
    (f <*> x).Holds Q := by
  intro b hb
  obtain ⟨g, a, hg, ha, rfl⟩ := seq_eq_valid_iff.1 hb
  exact hf g hg a (hx a ha)

/-- The second reading may yield anything. -/
theorem Holds.skip (hf : f.Holds fun g => ∀ a, Q (g a)) : (f <*> x).Holds Q :=
  Holds.seq (P := fun _ => True) (fun g hg a _ => hf g hg a) fun _ _ => trivial

theorem Holds.seqLeft {y : Checked β} (h : x.Holds P) : (x <* y).Holds P := by
  intro a ha
  refine h a ?_
  cases x with
  | valid _ =>
    cases y with
    | valid _ => exact ha
    | invalid _ => cases ha
  | invalid _ => cases y <;> cases ha

theorem Holds.andThen {f : α → Checked β} (h : ∀ a, (f a).Holds Q) : (x.andThen f).Holds Q := by
  intro b hb
  obtain ⟨a, -, ha⟩ := andThen_eq_valid_iff.1 hb
  exact h a b ha

theorem Holds.within {step : Step} (h : x.Holds P) : (x.within step).Holds P :=
  fun a ha => h a (within_eq_valid_iff.1 ha)

end Checked

namespace Reader

variable {α : Type} {read : Reader α} {P : α → Prop} {dump : α → Json}

/-! ### Texts -/

theorem textWhere_eq_valid_iff {ok : String → Bool} {kind : FaultKind} {s t : String} :
    textWhere ok kind (.text s) = .valid t ↔ ok s = true ∧ t = s := by
  rw [textWhere, Checked.andThen_eq_valid_iff]
  simp only [text, Checked.valid.injEq, exists_eq_left']
  cases ok s with
  | false => simp [Checked.fault]
  | true => simp [eq_comm]

/-! ### Lists -/

theorem itemsFrom_eq_valid_iff {items : List Json} {xs : List α} {position : Nat} :
    itemsFrom read position items = .valid xs ↔
      List.Forall₂ (fun v a => read v = .valid a) items xs := by
  induction items generalizing xs position with
  | nil => simp [itemsFrom, eq_comm]
  | cons v rest ih =>
    rw [itemsFrom, Checked.seq_eq_valid_iff]
    constructor
    · rintro ⟨_, as, hcons, has, rfl⟩
      obtain ⟨a, ha, rfl⟩ := Checked.map_eq_valid_iff.1 hcons
      exact .cons (Checked.within_eq_valid_iff.1 ha) (ih.1 has)
    · rintro (_ | ⟨ha, has⟩)
      exact ⟨_, _, Checked.map_eq_valid_iff.2 ⟨_, Checked.within_eq_valid_iff.2 ha, rfl⟩,
        ih.2 has, rfl⟩

/-- A list is read item by item. -/
theorem listOf_eq_valid_iff {items : List Json} {xs : List α} :
    listOf read (.list items) = .valid xs ↔
      List.Forall₂ (fun v a => read v = .valid a) items xs :=
  itemsFrom_eq_valid_iff

theorem nonEmptyTexts_eq_valid_iff {texts xs : List String} :
    listOf nonEmptyText (.texts texts) = .valid xs ↔ "" ∉ texts ∧ xs = texts := by
  rw [Json.texts, listOf_eq_valid_iff, List.forall₂_map_left_iff]
  simp only [nonEmptyText, textWhere_eq_valid_iff, bne_iff_ne]
  constructor
  · intro h
    induction h with
    | nil => simp
    | cons hs _ ih =>
      obtain ⟨hs, rfl⟩ := hs
      obtain ⟨hrest, rfl⟩ := ih
      exact ⟨by simp [hrest, Ne.symm hs], rfl⟩
  · rintro ⟨hne, rfl⟩
    exact List.forall₂_same.2 fun s hs => ⟨fun he => hne (he ▸ hs), rfl⟩

/-! ### What is true of every value read -/

/-- A reader that accepts values with a property only. -/
def Yields (read : Reader α) (P : α → Prop) : Prop := ∀ v, (read v).Holds P

theorem yields_record {read : Members → Checked α} (h : ∀ members, (read members).Holds P) :
    (record read).Yields P := by
  intro v
  cases v with
  | object members => exact h members
  | _ => exact fun _ ha => nomatch ha

theorem yields_textWhere (ok : String → Bool) (kind : FaultKind) :
    (textWhere ok kind).Yields fun s => ok s = true := by
  intro v s h
  obtain ⟨t, -, ht⟩ := Checked.andThen_eq_valid_iff.1 h
  split at ht
  · next hok =>
    cases ht
    exact hok
  · cases ht

theorem yields_nonEmptyText : nonEmptyText.Yields fun s => s ≠ "" :=
  fun v s h => bne_iff_ne.1 (yields_textWhere _ _ v s h)

theorem yields_positive : positive.Yields fun n => 0 < n := by
  intro v n h
  obtain ⟨i, -, hi⟩ := Checked.andThen_eq_valid_iff.1 h
  split at hi
  · cases hi
    omega
  · cases hi

theorem nullable_of_ne_null {v : Json} (h : v ≠ .null) :
    nullable read v = some <$> read v := by
  cases v with
  | null => exact absurd rfl h
  | _ => rfl

theorem Yields.nullable (h : read.Yields P) : (nullable read).Yields fun x => ∀ a ∈ x, P a := by
  intro v x hv a ha
  by_cases hnull : v = .null
  · subst hnull
    cases hv
    cases ha
  · rw [nullable_of_ne_null hnull] at hv
    obtain ⟨b, hb, rfl⟩ := Checked.map_eq_valid_iff.1 hv
    cases ha
    exact h v _ hb

theorem Yields.listOf (h : read.Yields P) : (listOf read).Yields fun xs => ∀ a ∈ xs, P a := by
  intro v xs hv
  cases v with
  | list items =>
    have hitems := listOf_eq_valid_iff.1 hv
    clear hv
    induction hitems with
    | nil => simp
    | cons ha _ ih => exact List.forall_mem_cons.2 ⟨h _ _ ha, ih⟩
  | _ => cases hv

theorem yields_nonEmptyTexts : (listOf nonEmptyText).Yields fun xs => "" ∉ xs :=
  fun v xs h hmem => yields_nonEmptyText.listOf v xs h "" hmem rfl

theorem Yields.nonEmptyListOf (h : read.Yields P) :
    (nonEmptyListOf read).Yields fun xs => xs ≠ [] ∧ ∀ a ∈ xs, P a := by
  intro v xs hv
  cases v with
  | list items =>
    cases items with
    | nil => cases hv
    | cons item rest =>
      have hlist : Reader.listOf read (.list (item :: rest)) = .valid xs := hv
      refine ⟨?_, h.listOf _ _ hlist⟩
      rintro rfl
      cases listOf_eq_valid_iff.1 hlist
  | _ => cases hv

theorem yields_someNonEmptyTexts :
    (nonEmptyListOf nonEmptyText).Yields fun xs => xs ≠ [] ∧ "" ∉ xs := by
  intro v xs h
  obtain ⟨hnil, hne⟩ := yields_nonEmptyText.nonEmptyListOf v xs h
  exact ⟨hnil, fun hmem => hne "" hmem rfl⟩

/-! ### Reading what was dumped -/

@[simp] theorem text_text (s : String) : text (.text s) = .valid s := rfl

@[simp] theorem bool_bool (b : Bool) : bool (.bool b) = .valid b := rfl

@[simp] theorem int_int (n : Int) : int (.int n) = .valid n := rfl

@[simp] theorem nat_nat (n : Nat) : nat (.nat n) = .valid n := by
  simp [nat, Json.nat, Checked.andThen]

theorem positive_nat {n : Nat} (h : 0 < n) : positive (.nat n) = .valid n := by
  simp [positive, Json.nat, Checked.andThen, h]

@[simp] theorem nullable_optText (s : Option String) :
    nullable text (.optText s) = .valid s := by
  cases s with
  | none => rfl
  | some s => rfl

theorem nullable_optJson {x : Option α} (hnull : ∀ a, dump a ≠ .null)
    (h : ∀ a ∈ x, read (dump a) = .valid a) : nullable read (.optJson dump x) = .valid x := by
  cases x with
  | none => rfl
  | some a =>
    rw [Json.optJson, nullable_of_ne_null (hnull a), h a rfl]
    rfl

theorem listOf_listOf {xs : List α} (h : ∀ a ∈ xs, read (dump a) = .valid a) :
    listOf read (.listOf dump xs) = .valid xs := by
  rw [Json.listOf, listOf_eq_valid_iff, List.forall₂_map_left_iff]
  exact List.forall₂_same.2 h

theorem nonEmptyTexts_texts {texts : List String} (h : "" ∉ texts) :
    listOf nonEmptyText (.texts texts) = .valid texts :=
  nonEmptyTexts_eq_valid_iff.2 ⟨h, rfl⟩

theorem nonEmptyListOf_texts {texts : List String} (hnil : texts ≠ []) (h : "" ∉ texts) :
    nonEmptyListOf nonEmptyText (.texts texts) = .valid texts := by
  cases texts with
  | nil => exact absurd rfl hnil
  | cons s rest => exact nonEmptyTexts_texts h

theorem choice_text {spelling : α → String} {choices : List α} {a : α} (ha : a ∈ choices)
    (hinj : ∀ b ∈ choices, spelling b = spelling a → b = a) :
    choice spelling choices (.text (spelling a)) = .valid a := by
  rw [choice]
  cases hfound : choices.find? fun b => spelling b == spelling a with
  | none => simpa using List.find?_eq_none.1 hfound a ha
  | some b =>
    have hb := List.find?_some hfound
    rw [hinj b (List.mem_of_find?_eq_some hfound) (by simpa using hb)]

end Reader

/-! ### Members -/

namespace Members

variable {α : Type} {members : Members} {key : String} {read : Reader α} {absent : α} {v : Json}
  {P : α → Prop}

theorem holds_required (hread : read.Yields P) : (members.required key read).Holds P := by
  rw [required]
  split
  · exact (hread _).within
  · exact fun _ ha => nomatch ha

theorem holds_optional (hread : read.Yields P) (habsent : P absent) :
    (members.optional key read absent).Holds P := by
  rw [optional]
  split
  · exact (hread _).within
  · rintro _ ⟨⟩
    exact habsent

theorem holds_optional_texts (members : Members) (key : String) :
    (members.optional key (.listOf .nonEmptyText) []).Holds fun texts => "" ∉ texts :=
  holds_optional Reader.yields_nonEmptyTexts List.not_mem_nil

theorem required_texts_eq_valid_iff (key : String) {texts xs : List String} :
    required [(key, .texts texts)] key (.listOf .nonEmptyText) = .valid xs ↔
      "" ∉ texts ∧ xs = texts := by
  rw [required, List.lookup_cons_self]
  exact Checked.within_eq_valid_iff.trans Reader.nonEmptyTexts_eq_valid_iff

/-- The members of a part are found among all members. -/
def Include (members part : Members) : Prop := ∀ x ∈ part, members.lookup x.1 = some x.2

theorem lookup_of_mem (hkeys : (members.map Prod.fst).Nodup) (h : (key, v) ∈ members) :
    members.lookup key = some v := by
  obtain ⟨before, after, rfl⟩ := List.append_of_mem h
  refine List.lookup_eq_some_iff.2 ⟨before, after, rfl, fun x hx => bne_iff_ne.2 fun he => ?_⟩
  rw [List.map_append, List.nodup_append] at hkeys
  exact hkeys.2.2 x.1 (List.mem_map_of_mem hx) key (by simp) he.symm

theorem include_of_subset {part : Members} (hkeys : (members.map Prod.fst).Nodup)
    (h : part ⊆ members) : members.Include part :=
  fun _ hx => lookup_of_mem hkeys (h hx)

theorem closed_eq_valid {known : List String} (h : members.map Prod.fst ⊆ known) :
    members.closed known = .valid () := by
  have hnone : unknownKeys members known = [] := by
    simp only [unknownKeys, List.map_eq_nil_iff, List.filter_eq_nil_iff]
    intro x hx
    simpa using h (List.mem_map_of_mem hx)
  rw [closed, hnone]

end Members

end CrudPlan
