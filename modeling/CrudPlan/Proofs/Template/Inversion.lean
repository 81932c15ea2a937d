import CrudPlan.Proofs.Template.Matching

/-!
# Import undoes writing an id

Where a slash stands between each two tokens of an import format, of which one at most is greedy,
an id can be cut in one way only, so matching it gives back the values it was made of.

* `Template.SlashSeparated` is the condition on the segments;
* `cut_unique`: up to the next slash of the template a value without slashes is determined;
* `Splits.count_slash`: after the greedy token the slashes of the id are those of the template,
  which determines where the greedy value ends;
* `Splits.unique` follows by induction on the segments, and `ImportFormat.values?_fill` from it.
-/

namespace CrudPlan

/-- Whether a token may take slashes. -/
def Segment.isGreedy : Segment → Bool
  | .greedy _ => true
  | _ => false

namespace Template

/-- If a token follows, a slash stands before it. -/
def SlashAhead : List Segment → Prop
  | [] => True
  | .literal text :: rest => '/' ∈ text.toList ∨ SlashAhead rest
  | _ :: _ => False

/-- A slash stands between each two tokens. -/
def SlashSeparated : List Segment → Prop
  | [] => True
  | .literal _ :: rest => SlashSeparated rest
  | _ :: rest => SlashAhead rest ∧ SlashSeparated rest

instance decidableSlashAhead : (segments : List Segment) → Decidable (SlashAhead segments)
  | [] => .isTrue trivial
  | .literal text :: rest =>
    have := decidableSlashAhead rest
    inferInstanceAs (Decidable ('/' ∈ text.toList ∨ SlashAhead rest))
  | .token _ :: _ => .isFalse id
  | .greedy _ :: _ => .isFalse id

instance decidableSlashSeparated : (segments : List Segment) → Decidable (SlashSeparated segments)
  | [] => .isTrue trivial
  | .literal _ :: rest => decidableSlashSeparated rest
  | .token _ :: rest =>
    have := decidableSlashSeparated rest
    inferInstanceAs (Decidable (SlashAhead rest ∧ SlashSeparated rest))
  | .greedy _ :: rest =>
    have := decidableSlashSeparated rest
    inferInstanceAs (Decidable (SlashAhead rest ∧ SlashSeparated rest))

theorem slashSeparated_token {segment : Segment} {name : String} {rest : List Segment}
    (hname : segment.tokenName? = some name) :
    SlashSeparated (segment :: rest) ↔ SlashAhead rest ∧ SlashSeparated rest := by
  cases segment with
  | literal text => cases hname
  | token _ => rfl
  | greedy _ => rfl

end Template

open Template (SlashAhead SlashSeparated)

/-! ### Values without slashes -/

/-- What stands before the first slash determines where it is. -/
theorem append_slash_inj {x y a b : List Char} (hx : '/' ∉ x) (hy : '/' ∉ y)
    (h : x ++ '/' :: a = y ++ '/' :: b) : x = y := by
  have htake : ∀ {z c : List Char}, '/' ∉ z → (z ++ '/' :: c).takeWhile (· != '/') = z := by
    intro z c hz
    rw [List.takeWhile_append_of_pos fun d hd => bne_iff_ne.2 fun he : d = '/' => hz (he ▸ hd)]
    simp
  rw [← htake (c := a) hx, h, htake hy]

namespace Splits

variable {segments : List Segment} {s s' : List Char} {values values' : FieldValues}

/-- All ways to cut texts along segments without tokens begin alike, and with the same slash. -/
theorem exists_ahead (hahead : SlashAhead segments) (h : Splits segments s values)
    (h' : Splits segments s' values') :
    s = s' ∨ ∃ a b b', '/' ∉ a ∧ s = a ++ '/' :: b ∧ s' = a ++ '/' :: b' := by
  induction segments generalizing s s' values values' with
  | nil => exact .inl ((nil_iff.1 h).1.trans (nil_iff.1 h').1.symm)
  | cons segment rest ih =>
    cases segment with
    | literal text =>
      obtain ⟨after, rfl, hafter⟩ := literal_iff.1 h
      obtain ⟨after', rfl, hafter'⟩ := literal_iff.1 h'
      by_cases hslash : '/' ∈ text.toList
      · obtain ⟨a, b, htext, ha⟩ := List.eq_append_cons_of_mem hslash
        exact .inr ⟨a, b ++ after, b ++ after', ha, by simp [htext], by simp [htext]⟩
      · rcases ih (hahead.resolve_left hslash) hafter hafter' with rfl | ⟨a, b, b', ha, rfl, rfl⟩
        · exact .inl rfl
        · exact .inr ⟨text.toList ++ a, b, b', by simp [hslash, ha], by simp, by simp⟩
    | token name => exact hahead.elim
    | greedy name => exact hahead.elim

/-- A value without slashes ends where the template asks for the next slash. -/
theorem cut_unique {v v' : List Char} (hahead : SlashAhead segments) (h : Splits segments s values)
    (h' : Splits segments s' values') (hv : '/' ∉ v) (hv' : '/' ∉ v') (he : v ++ s = v' ++ s') :
    v = v' ∧ s = s' := by
  rcases exists_ahead hahead h h' with rfl | ⟨a, b, b', ha, rfl, rfl⟩
  · exact ⟨List.append_cancel_right he, rfl⟩
  · rw [← List.append_assoc, ← List.append_assoc] at he
    have hcut : v ++ a = v' ++ a := append_slash_inj (by simp [hv, ha]) (by simp [hv', ha]) he
    obtain rfl := List.append_cancel_right hcut
    exact ⟨rfl, List.append_cancel_left (by rwa [List.append_assoc, List.append_assoc] at he)⟩

theorem slash_notMem {segment : Segment} {name : String} {v : List Char}
    (hname : segment.tokenName? = some name) (hplain : segment.isGreedy = false)
    (hv : ∀ c ∈ v, segment.allows c = true) : '/' ∉ v := by
  intro hmem
  have hallows := hv _ hmem
  cases segment with
  | literal text => cases hname
  | token _ => simp [Segment.allows, Segment.isPartChar] at hallows
  | greedy _ => cases hplain

/-! ### The greedy value -/

/-- Without a greedy token, all slashes of a text come from the template. -/
theorem count_slash (hplain : ∀ x ∈ segments, x.isGreedy = false) (h : Splits segments s values)
    (h' : Splits segments s' values') : s.count '/' = s'.count '/' := by
  induction segments generalizing s s' values values' with
  | nil => rw [(nil_iff.1 h).1, (nil_iff.1 h').1]
  | cons segment rest ih =>
    obtain ⟨hhead, hrest⟩ := List.forall_mem_cons.1 hplain
    obtain ⟨text, rfl⟩ | ⟨name, hname⟩ := segment.literal_or_token
    · obtain ⟨after, rfl, hafter⟩ := literal_iff.1 h
      obtain ⟨after', rfl, hafter'⟩ := literal_iff.1 h'
      rw [List.count_append, List.count_append, ih hrest hafter hafter']
    · obtain ⟨v, after, values, -, hv, rfl, rfl, hafter⟩ := (token_iff hname).1 h
      obtain ⟨v', after', values', -, hv', rfl, rfl, hafter'⟩ := (token_iff hname).1 h'
      rw [List.count_append, List.count_append, ih hrest hafter hafter',
        List.count_eq_zero.2 (slash_notMem hname hhead hv),
        List.count_eq_zero.2 (slash_notMem hname hhead hv')]

/-- A value may have slashes if no later one may. -/
theorem greedy_cut_unique {v v' : List Char} (hplain : ∀ x ∈ segments, x.isGreedy = false)
    (hahead : SlashAhead segments) (h : Splits segments s values)
    (h' : Splits segments s' values') (he : v ++ s = v' ++ s') : v = v' ∧ s = s' := by
  have hcount := count_slash hplain h h'
  rcases List.append_eq_append_iff.1 he with ⟨d, rfl, rfl⟩ | ⟨d, rfl, rfl⟩
  · -- what one value is longer by has no slash, so it cannot reach beyond the next one
    rw [List.count_append] at hcount
    have hd : '/' ∉ d := List.count_eq_zero.1 (by omega)
    have hcut : [] ++ (d ++ s') = d ++ s' := rfl
    obtain ⟨rfl, -⟩ := cut_unique hahead h h' (by simp) hd hcut
    simp
  · rw [List.count_append] at hcount
    have hd : '/' ∉ d := List.count_eq_zero.1 (by omega)
    have hcut : d ++ s = [] ++ (d ++ s) := rfl
    obtain ⟨rfl, -⟩ := cut_unique hahead h h' hd (by simp) hcut
    simp

/-- **There is one way to cut an id** along segments with slashes between the tokens. -/
theorem unique (hgreedy : segments.countP Segment.isGreedy ≤ 1) (hslash : SlashSeparated segments)
    (h : Splits segments s values) (h' : Splits segments s values') : values = values' := by
  induction segments generalizing s values values' with
  | nil => rw [(nil_iff.1 h).2, (nil_iff.1 h').2]
  | cons segment rest ih =>
    rw [List.countP_cons] at hgreedy
    obtain ⟨text, rfl⟩ | ⟨name, hname⟩ := segment.literal_or_token
    · obtain ⟨after, rfl, hafter⟩ := literal_iff.1 h
      obtain ⟨after', he, hafter'⟩ := literal_iff.1 h'
      obtain rfl := List.append_cancel_left he
      exact ih (by omega) hslash hafter hafter'
    · obtain ⟨hahead, hslash⟩ := (Template.slashSeparated_token hname).1 hslash
      obtain ⟨v, after, values, -, hv, rfl, rfl, hafter⟩ := (token_iff hname).1 h
      obtain ⟨v', after', values', -, hv', he, rfl, hafter'⟩ := (token_iff hname).1 h'
      have hcut : v = v' ∧ after = after' := by
        cases hseg : segment.isGreedy with
        | false =>
          exact cut_unique hahead hafter hafter' (slash_notMem hname hseg hv)
            (slash_notMem hname hseg hv') he
        | true =>
          -- this is the greedy token, so no later one is
          rw [hseg, if_pos rfl] at hgreedy
          have hplain : rest.countP Segment.isGreedy = 0 := by omega
          rw [List.countP_eq_zero] at hplain
          exact greedy_cut_unique (fun x hx => by simpa using hplain x hx) hahead hafter hafter' he
      obtain ⟨rfl, rfl⟩ := hcut
      rw [ih (by omega) hslash hafter hafter']

end Splits

namespace ImportFormat

/-- **Import undoes writing an id.** If slashes stand between the tokens of a format, matching the
id that values make up gives those values. -/
theorem values?_fill {source : String} {f : ImportFormat} {values : FieldValues}
    (h : compile source = .ok f) (hgreedy : f.template.segments.countP Segment.isGreedy ≤ 1)
    (hslash : SlashSeparated f.template.segments) (hvalues : f.template.Admissible values) :
    f.values? (f.template.fill values) = some values := by
  have hnodup := (compile_eq_ok_iff.1 h).2
  have hvalid : f.template.ValidFor (f.template.fill values) values := ⟨hvalues, rfl⟩
  refine (values?_eq_some_iff h).2 ⟨hvalid, fun other hother hne => absurd ?_ hne⟩
  exact Splits.unique hgreedy hslash ((Template.validFor_iff_splits hnodup).1 hother)
    ((Template.validFor_iff_splits hnodup).1 hvalid)

/-- A format with a greedy token in the middle and literals that go on beside the slashes. -/
def slashes : ImportFormat :=
  ⟨⟨"p/\x7b\x7ba\x7d\x7d/x\x7b\x7b%b\x7d\x7d/y/\x7b\x7bc\x7d\x7dz",
    [.literal "p/", .token "a", .literal "/x", .greedy "b", .literal "/y/", .token "c",
      .literal "z"]⟩⟩

theorem compile_slashes : compile slashes.template.source = .ok slashes :=
  compile_eq_ok_iff.2 ⟨Template.compile_eq_ok_iff.2 ⟨rfl, by decide, by decide⟩, by decide⟩

/-- The greedy value may hold the literal that comes after it. -/
theorem values?_fill_slashes :
    slashes.template.fill [("a", "u"), ("b", "v/y/w"), ("c", "t")] = "p/u/xv/y/w/y/tz" ∧
    slashes.values? "p/u/xv/y/w/y/tz" = some [("a", "u"), ("b", "v/y/w"), ("c", "t")] := by
  have hfill : slashes.template.fill [("a", "u"), ("b", "v/y/w"), ("c", "t")] =
      "p/u/xv/y/w/y/tz" := by decide
  have hgreedy : slashes.template.segments.countP Segment.isGreedy ≤ 1 := by decide
  have hslash : SlashSeparated slashes.template.segments := by decide
  refine ⟨hfill, ?_⟩
  rw [← hfill]
  exact values?_fill compile_slashes hgreedy hslash ⟨by decide, by decide⟩

end ImportFormat

end CrudPlan
