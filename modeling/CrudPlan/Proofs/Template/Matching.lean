import CrudPlan.Proofs.Template.Grammar
import CrudPlan.Template.ImportFormat
import Mathlib.Data.List.Basic
import Mathlib.Data.List.TakeWhile

/-!
# Matching ids

An import format finds field values in an id by trying the longest value of each token first. This
file says which values it finds, without reference to how it searches.

* `Template.Admissible` says which values the tokens of a template may take, `Template.fill` puts
  values in their place, and `Template.ValidFor` is both together for a given id;
* `Splits` cuts an id along the segments of a template; if no token is repeated, the valid values
  are the ways to do so (`Template.validFor_iff_splits`);
* `matchSegments_eq_none_iff` and `matchSegments_greatest`: the search finds the way whose values
  are longest, and fails only if there is none;
* `ImportFormat.values?_greatest` is the law of import formats that follows.
-/

namespace CrudPlan

/-- The values of fields, by name. -/
abbrev FieldValues := List (String × String)

/-- The lengths of values, in order. -/
def FieldValues.lengths (values : FieldValues) : List Nat := values.map fun v => v.2.length

namespace Segment

/-- What stands in the place of a segment: literal text itself, the value of a token. -/
def fill (values : FieldValues) : Segment → String
  | .literal text => text
  | .token name => (values.lookup name).getD ""
  | .greedy name => (values.lookup name).getD ""

/-- The values that a token may take. -/
def Admits : Segment → String → Prop
  | .literal _, _ => True
  | .token _, value => value ≠ "" ∧ '/' ∉ value.toList ∧ '\n' ∉ value.toList
  | .greedy _, value => value ≠ "" ∧ '\n' ∉ value.toList

instance (s : Segment) (value : String) : Decidable (s.Admits value) :=
  match s with
  | .literal _ => .isTrue trivial
  | .token _ =>
    inferInstanceAs (Decidable (value ≠ "" ∧ '/' ∉ value.toList ∧ '\n' ∉ value.toList))
  | .greedy _ => inferInstanceAs (Decidable (value ≠ "" ∧ '\n' ∉ value.toList))

/-- The characters that a token may take. -/
def allows : Segment → Char → Bool
  | .literal _ => fun _ => true
  | .token _ => isPartChar
  | .greedy _ => isLineChar

theorem admits_iff {s : Segment} {name value : String} (hname : s.tokenName? = some name) :
    s.Admits value ↔ value.toList ≠ [] ∧ ∀ c ∈ value.toList, s.allows c = true := by
  cases s with
  | literal text => cases hname
  | token name =>
    simp only [Admits, allows, isPartChar, Bool.and_eq_true, bne_iff_ne, ne_eq,
      String.toList_eq_nil_iff]
    refine and_congr_right fun _ =>
      ⟨?_, fun h => ⟨fun hc => (h _ hc).1 rfl, fun hc => (h _ hc).2 rfl⟩⟩
    rintro ⟨hslash, hline⟩ c hc
    exact ⟨fun he => hslash (he ▸ hc), fun he => hline (he ▸ hc)⟩
  | greedy name =>
    simp only [Admits, allows, isLineChar, bne_iff_ne, ne_eq, String.toList_eq_nil_iff]
    refine and_congr_right fun _ => ⟨?_, fun h hc => h _ hc rfl⟩
    rintro hline c hc he
    exact hline (he ▸ hc)

theorem fill_of_tokenName? {s : Segment} {name : String} (hname : s.tokenName? = some name)
    (values : FieldValues) : s.fill values = (values.lookup name).getD "" := by
  cases s with
  | literal text => cases hname
  | token name' => cases hname; rfl
  | greedy name' => cases hname; rfl

theorem fill_cons {s : Segment} {name value : String} {values : FieldValues}
    (h : s.tokenName? ≠ some name) : s.fill ((name, value) :: values) = s.fill values := by
  have hne : ∀ name', s.tokenName? = some name' → (name' == name) = false := by
    intro name' hname'
    rw [beq_eq_false_iff_ne]
    rintro rfl
    exact h hname'
  cases s with
  | literal text => rfl
  | token name' => simp [fill, List.lookup_cons, hne name' rfl]
  | greedy name' => simp [fill, List.lookup_cons, hne name' rfl]

end Segment

namespace Template

/-- The text of a template with values in the place of its tokens. -/
def fill (t : Template) (values : FieldValues) : String :=
  String.join (t.segments.map (Segment.fill values))

/-- Values for the tokens of a template, in their order. -/
structure Admissible (t : Template) (values : FieldValues) : Prop where
  names : values.map Prod.fst = t.tokens
  admits : ∀ s ∈ t.segments, s.Admits (s.fill values)

/-- Values with which a template makes up an id. -/
structure ValidFor (t : Template) (id : String) (values : FieldValues) : Prop where
  admissible : t.Admissible values
  fill_eq : t.fill values = id

end Template

/-! ### Cutting a text along segments -/

/-- A text is cut along segments, and the parts at the tokens are their values. -/
inductive Splits : List Segment → List Char → FieldValues → Prop
  | nil : Splits [] [] []
  | literal {text : String} {rest : List Segment} {s : List Char} {values : FieldValues} :
    Splits rest s values → Splits (.literal text :: rest) (text.toList ++ s) values
  | token {segment : Segment} {name : String} {rest : List Segment} {v s : List Char}
    {values : FieldValues} : segment.tokenName? = some name → v ≠ [] →
    (∀ c ∈ v, segment.allows c = true) → Splits rest s values →
    Splits (segment :: rest) (v ++ s) ((name, String.ofList v) :: values)

namespace Splits

variable {segment : Segment} {rest : List Segment} {s : List Char} {values : FieldValues}

theorem nil_iff : Splits [] s values ↔ s = [] ∧ values = [] := by
  constructor
  · rintro ⟨⟩; exact ⟨rfl, rfl⟩
  · rintro ⟨rfl, rfl⟩; exact .nil

theorem literal_iff {text : String} : Splits (.literal text :: rest) s values ↔
    ∃ after, s = text.toList ++ after ∧ Splits rest after values := by
  constructor
  · intro h
    cases h with
    | literal h => exact ⟨_, rfl, h⟩
    | token hname _ _ _ => cases hname
  · rintro ⟨after, rfl, h⟩; exact .literal h

theorem token_iff {name : String} (hname : segment.tokenName? = some name) :
    Splits (segment :: rest) s values ↔ ∃ v after values', v ≠ [] ∧
      (∀ c ∈ v, segment.allows c = true) ∧ s = v ++ after ∧
      values = (name, String.ofList v) :: values' ∧ Splits rest after values' := by
  constructor
  · intro h
    cases h with
    | literal h => cases hname
    | token hname' hne hall h =>
      obtain rfl := Option.some.inj (hname.symm.trans hname')
      exact ⟨_, _, _, hne, hall, rfl, rfl, h⟩
  · rintro ⟨v, after, values', hne, hall, rfl, rfl, h⟩
    exact .token hname hne hall h

/-- The same with the length of the first value alone, which the search counts down. -/
theorem token_iff_length {name : String} (hname : segment.tokenName? = some name) :
    Splits (segment :: rest) s values ↔ ∃ n values', 1 ≤ n ∧
      n ≤ (s.takeWhile segment.allows).length ∧
      values = (name, String.ofList (s.take n)) :: values' ∧ Splits rest (s.drop n) values' := by
  rw [token_iff hname]
  constructor
  · rintro ⟨v, after, values', hne, hall, rfl, rfl, h⟩
    refine ⟨v.length, values', List.length_pos_iff.2 hne, ?_, ?_, ?_⟩
    · rw [List.takeWhile_append_of_pos hall, List.length_append]
      exact Nat.le_add_right _ _
    · rw [List.take_left]
    · rwa [List.drop_left]
  · rintro ⟨n, values', hpos, hn, rfl, h⟩
    have htake : s.take n = (s.takeWhile segment.allows).take n := by
      conv_rhs =>
        rw [List.prefix_iff_eq_take.1 (List.takeWhile_prefix segment.allows), List.take_take]
      rw [Nat.min_eq_left hn]
    refine ⟨s.take n, s.drop n, values', ?_, fun c hc => ?_,
      (List.take_append_drop n s).symm, rfl, h⟩
    · rw [htake, ← List.length_pos_iff, List.length_take]
      omega
    · rw [htake] at hc
      exact List.mem_takeWhile_imp (List.mem_of_mem_take hc)

end Splits

/-! ### The search -/

theorem withValue_eq_none_iff {name : String} {n : Nat} {s : List Char}
    {values : Option FieldValues} : withValue name n s values = none ↔ values = none :=
  Option.map_eq_none_iff

theorem withValue_eq_some_iff {name : String} {n : Nat} {s : List Char}
    {found : Option FieldValues} {values : FieldValues} : withValue name n s found = some values ↔
      ∃ values', found = some values' ∧ values = (name, String.ofList (s.take n)) :: values' := by
  rw [withValue, Option.map_eq_some_iff]
  simp only [eq_comm]

theorem Segment.literal_or_token (s : Segment) :
    (∃ text, s = .literal text) ∨ ∃ name, s.tokenName? = some name := by
  cases s with
  | literal text => exact .inl ⟨text, rfl⟩
  | token name => exact .inr ⟨name, rfl⟩
  | greedy name => exact .inr ⟨name, rfl⟩

theorem matchSegments_token {segment : Segment} {name : String}
    (hname : segment.tokenName? = some name) (rest : List Segment) (s : List Char) :
    matchSegments (segment :: rest) s =
      longestFirst (fun n => withValue name n s (matchSegments rest (s.drop n)))
        (s.takeWhile segment.allows).length := by
  cases segment with
  | literal text => cases hname
  | token name' => cases hname; rfl
  | greedy name' => cases hname; rfl

theorem matchSegments_literal_eq_some_iff {text : String} {rest : List Segment} {s : List Char}
    {values : FieldValues} : matchSegments (.literal text :: rest) s = some values ↔
      ∃ after, s = text.toList ++ after ∧ matchSegments rest after = some values := by
  simp only [matchSegments, Option.bind_eq_some_iff, afterLiteral?_eq_some_iff]

/-- The search fails only if there is no way to cut the text. -/
theorem matchSegments_eq_none_iff {segments : List Segment} {s : List Char} :
    matchSegments segments s = none ↔ ∀ values, ¬ Splits segments s values := by
  induction segments generalizing s with
  | nil => cases s <;> simp [matchSegments, Splits.nil_iff]
  | cons segment rest ih =>
    obtain ⟨text, rfl⟩ | ⟨name, hname⟩ := segment.literal_or_token
    · simp only [matchSegments, Option.bind_eq_none_iff, afterLiteral?_eq_some_iff, ih,
        Splits.literal_iff]
      constructor
      · rintro h values ⟨after, he, hrest⟩
        exact h after he values hrest
      · intro h after he values hrest
        exact h values ⟨after, he, hrest⟩
    · -- every length that the token allows is tried, and the rest fails after each of them
      rw [matchSegments_token hname, longestFirst_eq_none_iff]
      simp only [withValue_eq_none_iff, ih, Splits.token_iff_length hname]
      constructor
      · rintro h values ⟨n, values', hpos, hn, -, hrest⟩
        exact h n hpos hn values' hrest
      · intro h n hpos hn values' hrest
        exact h _ ⟨n, values', hpos, hn, rfl, hrest⟩

theorem length_take_of_le_takeWhile {s : List Char} {p : Char → Bool} {n : Nat}
    (h : n ≤ (s.takeWhile p).length) : (String.ofList (s.take n)).length = n := by
  have hle : (s.takeWhile p).length ≤ s.length := (List.takeWhile_prefix p).length_le
  rw [String.length_ofList, List.length_take]
  omega

/-- Of all ways to cut a text the search finds the one whose values are longest, where the first
value counts before the later ones. -/
theorem matchSegments_greatest {segments : List Segment} {s : List Char} {values : FieldValues}
    (h : matchSegments segments s = some values) : Splits segments s values ∧
      ∀ other, Splits segments s other → other ≠ values → other.lengths < values.lengths := by
  induction segments generalizing s values with
  | nil =>
    have hs : s = [] ∧ values = [] := by cases s <;> simp_all [matchSegments]
    refine ⟨Splits.nil_iff.2 hs, fun other hother hne => ?_⟩
    exact absurd ((Splits.nil_iff.1 hother).2.trans hs.2.symm) hne
  | cons segment rest ih =>
    obtain ⟨text, rfl⟩ | ⟨name, hname⟩ := segment.literal_or_token
    · obtain ⟨after, rfl, hafter⟩ := matchSegments_literal_eq_some_iff.1 h
      obtain ⟨hsplit, hmax⟩ := ih hafter
      refine ⟨.literal hsplit, fun other hother hne => ?_⟩
      obtain ⟨after', he, hother⟩ := Splits.literal_iff.1 hother
      rw [List.append_cancel_left_eq] at he
      exact hmax other (he ▸ hother) hne
    · rw [matchSegments_token hname, longestFirst_eq_some_iff] at h
      obtain ⟨n, hpos, hn, hvalue, hlonger⟩ := h
      obtain ⟨values', hrest, rfl⟩ := withValue_eq_some_iff.1 hvalue
      obtain ⟨hsplit, hmax⟩ := ih hrest
      refine ⟨(Splits.token_iff_length hname).2 ⟨n, values', hpos, hn, rfl, hsplit⟩, ?_⟩
      intro other hother hne
      obtain ⟨k, other', hk, hkn, rfl, hcut⟩ := (Splits.token_iff_length hname).1 hother
      rw [FieldValues.lengths, FieldValues.lengths, List.map_cons, List.map_cons,
        List.cons_lt_cons_iff, length_take_of_le_takeWhile hkn, length_take_of_le_takeWhile hn]
      rcases Nat.lt_trichotomy k n with hlt | rfl | hgt
      · exact .inl hlt
      · refine .inr ⟨rfl, hmax other' hcut fun he => hne ?_⟩
        rw [he]
      · -- a longer value of this token would have been found first
        have hfail := withValue_eq_none_iff.1 (hlonger k hgt hkn)
        exact absurd hcut (matchSegments_eq_none_iff.1 hfail other')

/-! ### Valid values -/

theorem forall_fill_cons {rest : List Segment} {name : String}
    (h : name ∉ rest.filterMap Segment.tokenName?) (value : String) (values : FieldValues) :
    ∀ x ∈ rest, x.fill ((name, value) :: values) = x.fill values := by
  intro x hx
  exact Segment.fill_cons fun hname => h (List.mem_filterMap.2 ⟨x, hx, hname⟩)

theorem splits_iff_fill {segments : List Segment}
    (h : (segments.filterMap Segment.tokenName?).Nodup) {s : List Char} {values : FieldValues} :
    Splits segments s values ↔ values.map Prod.fst = segments.filterMap Segment.tokenName? ∧
      (∀ x ∈ segments, x.Admits (x.fill values)) ∧
      segments.flatMap (fun x => (x.fill values).toList) = s := by
  induction segments generalizing s values with
  | nil =>
    rw [Splits.nil_iff]
    constructor
    · rintro ⟨rfl, rfl⟩
      simp
    · rintro ⟨hnames, -, rfl⟩
      exact ⟨rfl, List.map_eq_nil_iff.1 hnames⟩
  | cons segment rest ih =>
    obtain ⟨text, rfl⟩ | ⟨name, hname⟩ := segment.literal_or_token
    · have hrest : (Segment.literal text :: rest).filterMap Segment.tokenName? =
        rest.filterMap Segment.tokenName? := rfl
      rw [hrest] at h ⊢
      simp only [Splits.literal_iff, ih h, List.forall_mem_cons, List.flatMap_cons]
      constructor
      · rintro ⟨after, rfl, hnames, hadmits, rfl⟩
        exact ⟨hnames, ⟨trivial, hadmits⟩, rfl⟩
      · rintro ⟨hnames, ⟨-, hadmits⟩, rfl⟩
        exact ⟨_, rfl, hnames, hadmits, rfl⟩
    · -- no later token has the name of this one, so its value does not reach the rest
      rw [List.filterMap_cons_some hname] at h ⊢
      obtain ⟨hnew, hnodup⟩ := List.nodup_cons.1 h
      simp only [Splits.token_iff hname, ih hnodup, List.forall_mem_cons, List.flatMap_cons]
      have hhead : ∀ value values', segment.fill ((name, value) :: values') = value := by
        intro value values'
        rw [Segment.fill_of_tokenName? hname, List.lookup_cons_self, Option.getD_some]
      constructor
      · rintro ⟨v, after, values', hne, hall, rfl, rfl, hnames, hadmits, rfl⟩
        have hrest := forall_fill_cons hnew (String.ofList v) values'
        rw [List.map_cons, hnames, hhead, Segment.admits_iff hname, String.toList_ofList]
        refine ⟨rfl, ⟨⟨hne, hall⟩, fun x hx => ?_⟩, ?_⟩
        · rw [hrest x hx]
          exact hadmits x hx
        · rw [List.flatMap_congr fun x hx => congrArg String.toList (hrest x hx)]
      · rintro ⟨hnames, ⟨hvalue, hadmits⟩, rfl⟩
        obtain ⟨⟨_, value⟩, values', rfl, rfl, hnames'⟩ := List.map_eq_cons_iff.1 hnames
        have hrest := forall_fill_cons hnew value values'
        rw [hhead, Segment.admits_iff hname] at hvalue
        refine ⟨value.toList, _, values', hvalue.1, hvalue.2, ?_, ?_, hnames', fun x hx => ?_, rfl⟩
        · rw [hhead, List.flatMap_congr fun x hx => congrArg String.toList (hrest x hx)]
        · rw [String.ofList_toList]
        · rw [← hrest x hx]
          exact hadmits x hx

namespace Template

variable {t : Template} {id : String} {values : FieldValues}

theorem toList_fill (t : Template) (values : FieldValues) :
    (t.fill values).toList = t.segments.flatMap fun x => (x.fill values).toList := by
  rw [fill, String.toList_join, List.flatMap_map]

/-- If no token is repeated, valid values are a way to cut the id. -/
theorem validFor_iff_splits (h : t.tokens.Nodup) :
    t.ValidFor id values ↔ Splits t.segments id.toList values := by
  rw [splits_iff_fill h, ← toList_fill, String.toList_inj]
  constructor
  · rintro ⟨⟨hnames, hadmits⟩, hfill⟩
    exact ⟨hnames, hadmits, hfill⟩
  · rintro ⟨hnames, hadmits, hfill⟩
    exact ⟨⟨hnames, hadmits⟩, hfill⟩

end Template

namespace ImportFormat

/-- An import format is a template that names no field twice. -/
theorem compile_eq_ok_iff {source : String} {f : ImportFormat} :
    compile source = .ok f ↔
      Template.compile source = .ok f.template ∧ f.template.tokens.Nodup := by
  have hnodup : ∀ t : Template, firstRepeated? [] t.tokens = none ↔ t.tokens.Nodup := by
    intro t
    rw [firstRepeated?_eq_none_iff]
    exact ⟨fun h => h.1, fun h => ⟨h, fun x _ => List.not_mem_nil⟩⟩
  rw [← hnodup]
  obtain ⟨template⟩ := f
  unfold compile
  cases Template.compile source with
  | error e => simp [bind, Except.bind]
  | ok t =>
    cases hrepeated : firstRepeated? [] t.tokens with
    | none =>
      simp only [bind, Except.bind, pure, Except.pure, hrepeated, Except.ok.injEq, mk.injEq]
      refine ⟨fun he => ⟨he, he ▸ hrepeated⟩, fun h => h.1⟩
    | some name =>
      simp only [bind, Except.bind, hrepeated, Except.ok.injEq]
      constructor
      · intro he; cases he
      · rintro ⟨rfl, hnone⟩
        rw [hrepeated] at hnone
        cases hnone

variable {source : String} {f : ImportFormat} {id : String} {values : FieldValues}

theorem values?_eq_none_iff (h : compile source = .ok f) :
    f.values? id = none ↔ ∀ values, ¬ f.template.ValidFor id values := by
  simp only [Template.validFor_iff_splits (compile_eq_ok_iff.1 h).2]
  exact matchSegments_eq_none_iff

theorem values?_eq_some_iff (h : compile source = .ok f) :
    f.values? id = some values ↔ f.template.ValidFor id values ∧
      ∀ other, f.template.ValidFor id other → other ≠ values → other.lengths < values.lengths := by
  simp only [Template.validFor_iff_splits (compile_eq_ok_iff.1 h).2]
  refine ⟨matchSegments_greatest, ?_⟩
  rintro ⟨hsplit, hmax⟩
  rw [values?]
  cases hfound : matchSegments f.template.segments id.toList with
  | none => exact absurd hsplit (matchSegments_eq_none_iff.1 hfound values)
  | some found =>
    -- if two were greatest, each would be less than the other
    obtain ⟨hfsplit, hfmax⟩ := matchSegments_greatest hfound
    by_contra hne
    have hne : values ≠ found := fun he => hne (he ▸ rfl)
    exact List.lt_asymm (hfmax values hsplit hne) (hmax found hfsplit hne.symm)

/-- **Matching is exact.** An import format finds no values in an id only if none are valid, and
those it finds are the longest valid ones, where earlier tokens count before later ones. -/
theorem values?_greatest {source : String} {f : ImportFormat} (h : compile source = .ok f)
    (id : String) :
    (f.values? id = none ↔ ¬ ∃ values, f.template.ValidFor id values) ∧
    ∀ values : FieldValues, f.values? id = some values ↔ f.template.ValidFor id values ∧
      ∀ other, f.template.ValidFor id other → other ≠ values → other.lengths < values.lengths :=
  ⟨(values?_eq_none_iff h).trans not_exists.symm, fun _ => values?_eq_some_iff h⟩

/-- A format with two tokens side by side. -/
def sideBySide : ImportFormat :=
  ⟨⟨"\x7b\x7ba\x7d\x7d\x7b\x7bb\x7d\x7d/\x7b\x7b%c\x7d\x7d",
    [.token "a", .token "b", .literal "/", .greedy "c"]⟩⟩

theorem compile_sideBySide : compile sideBySide.template.source = .ok sideBySide :=
  compile_eq_ok_iff.2 ⟨Template.compile_eq_ok_iff.2 ⟨rfl, by decide, by decide⟩, by decide⟩

/-- Of two tokens side by side the first takes what it can. -/
theorem values?_greatest_sideBySide :
    compile sideBySide.template.source = .ok sideBySide ∧
    (sideBySide.template.ValidFor "pqr/s/t" [("a", "pq"), ("b", "r"), ("c", "s/t")] ∧
      ∀ other, sideBySide.template.ValidFor "pqr/s/t" other →
        other ≠ [("a", "pq"), ("b", "r"), ("c", "s/t")] → other.lengths < [2, 1, 3]) ∧
    ¬ ∃ values, sideBySide.template.ValidFor "p/s/t" values :=
  ⟨compile_sideBySide, ((values?_greatest compile_sideBySide "pqr/s/t").2 _).1 (by decide),
    (values?_greatest compile_sideBySide "p/s/t").1.1 (by decide)⟩

end ImportFormat

end CrudPlan
