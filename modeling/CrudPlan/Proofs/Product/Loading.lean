import CrudPlan.Product.Load
import CrudPlan.Proofs.Document.Reader

/-!
# How products are loaded

A document is loaded in two steps. Its settings are completed by the strictness setting from the
first source that has it, and read; then the rest of the document is read with the result.

* The lemmas on `Members.without` and `Settings.setMember` say what is left when a member is taken
  out or put in;
* `Settings.InEffect` is the value of the first source that is set;
* completed settings are told apart by `Settings.spelled?`, the first member whose key is that of
  the strictness setting in any case, and by `Settings.others`, those whose key is not:
  `Settings.read_congr` says that nothing else counts;
* `Settings.settle` is the first step, and `Product.ofDocument_object` puts the two together.
-/

namespace CrudPlan

/-! ### Members -/

namespace Members

variable {ms : Members} {key : String} {keep : String → Bool} {known : List String}

theorem lookup_eq_find? (ms : Members) (key : String) :
    ms.lookup key = (ms.find? fun m => key == m.1).map Prod.snd := by
  induction ms with
  | nil => rfl
  | cons m rest ih =>
    obtain ⟨k, v⟩ := m
    rw [List.lookup_cons, List.find?_cons]
    cases key == k with
    | true => rfl
    | false => exact ih

/-- Members that are kept are found as before. -/
theorem lookup_filter (keep : String → Bool) (h : keep key = true) :
    (ms.filter fun m => keep m.1).lookup key = ms.lookup key := by
  rw [lookup_eq_find?, lookup_eq_find?, List.find?_filter]
  have hsame : (fun m : String × Json => decide (keep m.1 = true ∧ (key == m.1) = true)) =
      fun m => key == m.1 := by
    funext m
    by_cases hm : key = m.1
    · subst hm
      simp [h]
    · simp [hm]
  rw [hsame]

theorem lookup_filter_of_not (keep : String → Bool) (h : keep key = false) :
    (ms.filter fun m => keep m.1).lookup key = none := by
  rw [List.lookup_eq_none_iff]
  intro m hm
  have hkeep : keep m.1 = true := (List.mem_filter.1 hm).2
  rw [bne_iff_ne]
  rintro rfl
  rw [hkeep] at h
  cases h

/-- Only the keys count for which of them are unknown. -/
theorem unknownKeys_eq (ms : Members) (known : List String) :
    unknownKeys ms known =
      ((ms.map Prod.fst).filter fun key => !known.contains key).map fun key =>
        ⟨[.key key], .unknownKey⟩ := by
  rw [unknownKeys, List.filter_map, List.map_map]
  rfl

/-- The members without those of a key. -/
def without (key : String) (ms : Members) : Members := ms.filter fun m => m.1 != key

theorem lookup_without_self : (without key ms).lookup key = none :=
  lookup_filter_of_not (· != key) (bne_self_eq_false key)

theorem lookup_without {other : String} (h : other ≠ key) :
    (without key ms).lookup other = ms.lookup other :=
  lookup_filter (· != key) (bne_iff_ne.2 h)

/-- A member under a known key is not missed among the unknown ones. -/
theorem unknownKeys_without (h : key ∈ known) :
    unknownKeys (without key ms) known = unknownKeys ms known := by
  rw [unknownKeys, unknownKeys, without, List.filter_filter]
  refine congrArg _ (List.filter_congr fun m _ => ?_)
  obtain ⟨k, v⟩ := m
  by_cases hk : k = key
  · subst hk
    simp [h]
  · simp [hk]

end Members

namespace Settings

variable {w : Workspace} {envFile : Option String} {ms raw other : Members} {key : String}
  {v : Json} {b : Bool}

/-! ### Setting a member -/

/-- A member with the given value, if it has the key. -/
def assign (key : String) (v : Json) (m : String × Json) : String × Json :=
  if m.1 = key then (key, v) else m

theorem fst_assign (m : String × Json) : (assign key v m).1 = m.1 := by
  rw [assign]
  split_ifs with h
  · exact h.symm
  · rfl

theorem setMember_eq (key : String) (v : Json) (ms : Members) :
    setMember key v ms =
      if (ms.lookup key).isSome then ms.map (assign key v) else ms ++ [(key, v)] := rfl

theorem find?_map_assign (p : String → Bool) :
    (ms.map (assign key v)).find? (fun m => p m.1) =
      (ms.find? fun m => p m.1).map (assign key v) := by
  rw [List.find?_map]
  have hsame : ((fun m : String × Json => p m.1) ∘ assign key v) = fun m => p m.1 :=
    funext fun m => congrArg p (fst_assign m)
  rw [hsame]

theorem lookup_setMember_self : (setMember key v ms).lookup key = some v := by
  rw [setMember_eq]
  split_ifs with hpresent
  · rw [Members.lookup_eq_find?] at hpresent ⊢
    rw [find?_map_assign (key == ·)]
    obtain ⟨x, hx⟩ := Option.isSome_iff_exists.1 hpresent
    obtain ⟨m, hm, rfl⟩ := Option.map_eq_some_iff.1 hx
    have hkey : key = m.1 := by simpa using List.find?_some hm
    rw [hm, Option.map_some, Option.map_some, assign, if_pos hkey.symm]
  · have habsent : ms.lookup key = none := Option.not_isSome_iff_eq_none.1 hpresent
    rw [List.lookup_append, habsent, List.lookup_cons_self]
    rfl

theorem lookup_setMember {k : String} (h : k ≠ key) :
    (setMember key v ms).lookup k = ms.lookup k := by
  rw [setMember_eq]
  split_ifs
  · rw [Members.lookup_eq_find?, Members.lookup_eq_find?, find?_map_assign (k == ·)]
    cases hfound : ms.find? fun m => k == m.1 with
    | none => rfl
    | some m =>
      have hk : k = m.1 := by simpa using List.find?_some hfound
      have hkey : m.1 ≠ key := fun he => h (hk.trans he)
      rw [Option.map_some, assign, if_neg hkey]
  · rw [List.lookup_append, List.lookup_cons, beq_false_of_ne h]
    exact Option.or_none

theorem map_fst_setMember (h : (ms.lookup key).isSome) :
    (setMember key v ms).map Prod.fst = ms.map Prod.fst := by
  rw [setMember_eq, if_pos h, List.map_map]
  exact List.map_congr_left fun m _ => fst_assign m

/-! ### The first source that is set -/

/-- The value of the first source that is set: the settings of the document, the environment, the
file of variables. -/
inductive InEffect (w : Workspace) (envFile : Option String) (raw : Members) : Json → Prop
  | document {v : Json} (h : raw.lookup strictKey = some v) (hv : v ≠ .null) :
    InEffect w envFile raw v
  | environment {s : String} (hdocument : present? (raw.lookup strictKey) = none)
    (h : w.valueOf? strictVariable = some s) : InEffect w envFile raw (.text s)
  | file {s : String} (hdocument : present? (raw.lookup strictKey) = none)
    (henvironment : w.valueOf? strictVariable = none)
    (h : fileVariable? w envFile strictVariable = some s) : InEffect w envFile raw (.text s)

theorem present?_eq_some_iff {x : Option Json} : present? x = some v ↔ x = some v ∧ v ≠ .null := by
  unfold present?
  split
  · simp only [reduceCtorEq, Option.some.injEq, false_iff, not_and, not_not]
    exact Eq.symm
  · next hnull =>
    refine ⟨fun h => ⟨h, ?_⟩, And.left⟩
    rintro rfl
    exact hnull h

theorem source?_eq_some_iff : source? w envFile raw = some v ↔ InEffect w envFile raw v := by
  rw [source?]
  constructor
  · intro h
    cases hdocument : present? (raw.lookup strictKey) with
    | some x =>
      rw [hdocument] at h
      cases h
      obtain ⟨hlookup, hv⟩ := present?_eq_some_iff.1 hdocument
      exact .document hlookup hv
    | none =>
      rw [hdocument] at h
      cases henvironment : w.valueOf? strictVariable with
      | some s =>
        rw [henvironment] at h
        cases h
        exact .environment hdocument henvironment
      | none =>
        rw [henvironment] at h
        obtain ⟨s, hs, rfl⟩ := Option.map_eq_some_iff.1 h
        exact .file hdocument henvironment hs
  · rintro (⟨h, hv⟩ | ⟨hdocument, h⟩ | ⟨hdocument, henvironment, h⟩)
    · rw [present?_eq_some_iff.2 ⟨h, hv⟩]
      rfl
    · rw [hdocument, h]
      rfl
    · rw [hdocument, henvironment, h]
      rfl

/-! ### Completed settings -/

/-- The first member whose key is that of the strictness setting, in any case. -/
def spelled? (ms : Members) : Option (String × Json) := ms.find? fun m => isStrictKey m.1

/-- The members whose keys are not that of the strictness setting, in any case. -/
def others (ms : Members) : Members := ms.filter fun m => !isStrictKey m.1

theorem isStrictKey_strictKey : isStrictKey strictKey = true := by decide

theorem given?_eq (ms : Members) : given? ms = (spelled? ms).map Prod.snd := rfl

theorem spelled?_eq_none_of_others : spelled? (others ms) = none := by
  rw [spelled?, List.find?_eq_none]
  intro m hm
  have hother : isStrictKey m.1 = false := by simpa using (List.mem_filter.1 hm).2
  rw [hother]
  exact Bool.false_ne_true

theorem others_others : others (others ms) = others ms := by
  rw [others, others, List.filter_filter]
  simp only [Bool.and_self]

theorem lookup_others (h : isStrictKey key = false) : (others ms).lookup key = ms.lookup key :=
  Members.lookup_filter (!isStrictKey ·) (by rw [h]; rfl)

theorem lookup_others_strictKey : (others ms).lookup strictKey = none :=
  Members.lookup_filter_of_not (!isStrictKey ·) (by rw [isStrictKey_strictKey]; rfl)

theorem others_without : others (Members.without strictKey ms) = others ms := by
  rw [others, others, Members.without, List.filter_filter]
  refine List.filter_congr fun m _ => ?_
  by_cases hm : m.1 = strictKey
  · rw [hm, isStrictKey_strictKey]
    rfl
  · rw [bne_iff_ne.2 hm, Bool.and_true]

theorem others_setMember : others (setMember strictKey v ms) = others ms := by
  rw [setMember_eq]
  split_ifs
  · rw [others, others, List.filter_map]
    have hsame : ((fun m : String × Json => !isStrictKey m.1) ∘ assign strictKey v) =
        fun m => !isStrictKey m.1 :=
      funext fun m => congrArg (!isStrictKey ·) (fst_assign m)
    have hkeep : ∀ m ∈ others ms, assign strictKey v m = id m := by
      intro m hm
      have hother : isStrictKey m.1 = false := by simpa using (List.mem_filter.1 hm).2
      have hne : m.1 ≠ strictKey := by
        intro he
        rw [he, isStrictKey_strictKey] at hother
        cases hother
      rw [assign, if_neg hne, id]
    rw [hsame]
    exact (List.map_congr_left hkeep).trans (List.map_id _)
  · rw [others, List.filter_append, List.filter_cons_of_neg (by simp [isStrictKey_strictKey])]
    exact List.append_nil _

/-- The setting is put where it is spelled first, or at the end. -/
theorem spelled?_setMember (ms : Members) (v : Json) :
    spelled? (setMember strictKey v ms) =
      some (((spelled? ms).map (assign strictKey v)).getD (strictKey, v)) := by
  rw [setMember_eq]
  split_ifs with hpresent
  · rw [spelled?, find?_map_assign isStrictKey, ← spelled?]
    cases hspelled : spelled? ms with
    | some m => rfl
    | none =>
      -- the key itself is one of its spellings
      obtain ⟨m, hm, hkey⟩ := List.lookup_isSome_iff.1 hpresent
      have hnot := List.find?_eq_none.1 hspelled m hm
      rw [← beq_iff_eq.1 hkey, isStrictKey_strictKey] at hnot
      exact absurd rfl hnot
  · have habsent : ms.lookup strictKey = none := Option.not_isSome_iff_eq_none.1 hpresent
    have hlast : List.find? (fun m : String × Json => isStrictKey m.1) [(strictKey, v)] =
        some (strictKey, v) := List.find?_cons_of_pos isStrictKey_strictKey
    rw [spelled?, List.find?_append, hlast, ← spelled?]
    cases hspelled : spelled? ms with
    | none => rfl
    | some m =>
      have hne := List.lookup_eq_none_iff.1 habsent m (List.mem_of_find?_eq_some hspelled)
      rw [Option.map_some, assign, if_neg (Ne.symm (bne_iff_ne.1 hne))]
      rfl

/-- A member under the key itself is where the setting is spelled first, unless another spelling
comes before it. -/
theorem spelled?_cases (h : ms.lookup strictKey = some v) :
    (∃ m, spelled? ms = some m ∧ m.1 ≠ strictKey) ∨ spelled? ms = some (strictKey, v) := by
  induction ms with
  | nil => cases h
  | cons m rest ih =>
    obtain ⟨key, x⟩ := m
    by_cases hkey : key = strictKey
    · subst hkey
      rw [List.lookup_cons_self, Option.some.injEq] at h
      subst h
      exact .inr (List.find?_cons_of_pos isStrictKey_strictKey)
    · rw [List.lookup_cons, beq_false_of_ne (Ne.symm hkey)] at h
      by_cases hstrict : isStrictKey key = true
      · exact .inl ⟨(key, x), List.find?_cons_of_pos hstrict, hkey⟩
      · have hrest : spelled? ((key, x) :: rest) = spelled? rest := List.find?_cons_of_neg hstrict
        rw [hrest]
        exact ih h

/-- How the variable is looked up is said by other members. -/
theorem variableLookup_others (ms : Members) : variableLookup (others ms) = variableLookup ms := by
  have hlookup : ∀ key, isStrictKey key = false → (others ms).lookup key = ms.lookup key :=
    fun _ => lookup_others
  simp only [variableLookup, VariableLookup.ofMembers, hlookup "_env_prefix" (by decide),
    hlookup "_case_sensitive" (by decide), hlookup "_env_ignore_empty" (by decide),
    hlookup "_env_parse_none_str" (by decide), hlookup "_env_file" (by decide)]

theorem variableLookup_congr (h : others ms = others other) :
    variableLookup ms = variableLookup other := by
  rw [← variableLookup_others ms, h, variableLookup_others]

theorem variableLookup_setMember : variableLookup (setMember strictKey v ms) = variableLookup ms :=
  variableLookup_congr others_setMember

theorem read_eq (w : Workspace) (ms : Members) :
    read w ms =
      (match given? ms <|> (variableLookup ms).value? w with
        | some v => (Reader.bool v).within (.key strictKey)
        | none => .valid false)
        <* Members.closed (((variableLookup ms).strayNames w).map fun name => (name, .null))
          [strictKey]
        <* Members.closed (others ms) VariableLookup.keys := rfl

/-- **Completed settings are read by the first spelling of the setting and the other members.** -/
theorem read_congr (hgiven : given? ms = given? other) (hothers : others ms = others other) :
    read w ms = read w other := by
  rw [read_eq, read_eq, hgiven, variableLookup_congr hothers, hothers]

/-- Where the setting is given, nothing is looked up for it. -/
theorem read_eq_of_given (h : given? ms = some v) :
    read w ms =
      (Reader.bool v).within (.key strictKey)
        <* Members.closed (((variableLookup ms).strayNames w).map fun name => (name, .null))
          [strictKey]
        <* Members.closed (others ms) VariableLookup.keys := by
  rw [read_eq, h]
  rfl

/-! ### Settling -/

/-- The settings of a file, completed and read. -/
def settle (w : Workspace) (envFile : Option String) (raw : Members) :
    Except ConfigError (Checked Bool) :=
  (resolve w envFile raw).map (read w)

theorem settle_of_source?_none (h : source? w envFile raw = none) :
    settle w envFile raw = .ok (read w raw) := by
  rw [settle, resolve, h]
  rfl

theorem settle_of_source?_some (h : source? w envFile raw = some v) :
    settle w envFile raw = (switch v).map fun v => read w (setMember strictKey v raw) := by
  rw [settle, resolve, h]
  dsimp only
  cases switch v with
  | ok v => rfl
  | error e => rfl

end Settings

/-! ### Documents -/

namespace Product

variable {w : Workspace} {path : FilePath} {ms : Members} {document : Json} {p q : Product}
  {settings : Checked Bool}

/-- The settings of a document; none, if it has none or they are of no use. -/
def settingsOf : Json → Members
  | .object ms =>
    match ms.lookup "settings" with
    | some (.object settings) => settings
    | _ => []
  | _ => []

theorem rawSettings_cases (path : FilePath) (ms : Members) :
    rawSettings path ms = .ok (settingsOf (.object ms)) ∨
      rawSettings path ms = .error (.settingsNotMapping path) := by
  rw [rawSettings, settingsOf]
  cases ms.lookup "settings" with
  | none => exact .inl rfl
  | some v =>
    cases v with
    | object settings => exact .inl rfl
    | _ =>
      dsimp only
      split_ifs
      · exact .inl rfl
      · exact .inr rfl

/-- A product is checked for whether its hooks can be registered, and stays as it is. -/
theorem checkHooks_eq_valid_iff :
    checkHooks q = .valid p ↔ p = q ∧ ∃ hooks, q.registry = .ok hooks := by
  rw [checkHooks]
  cases q.registry with
  | error e => simp [Checked.fault]
  | ok hooks => simp [eq_comm]

/-- The product that the rest of a document makes with settings. -/
def ofSettled (ms : Members) : Except ConfigError (Checked Bool) → Except ConfigError Product
  | .ok settings => ofChecked (read settings ms)
  | .error e => .error e

/-- **A document is loaded by its settings and its other members.** -/
theorem ofDocument_object {raw : Members} (h : rawSettings path ms = .ok raw) :
    ofDocument w path (.object ms) =
      ofSettled ms (Settings.settle w (envFileFor w path) raw) := by
  rw [ofDocument, h, Settings.settle]
  cases hresolve : Settings.resolve w (envFileFor w path) raw with
  | ok settings => simp [bind, Except.bind, hresolve, Except.map, ofSettled]
  | error e => simp [bind, Except.bind, hresolve, Except.map, ofSettled]

theorem ofDocument_of_error {e : ConfigError} (h : rawSettings path ms = .error e) :
    ofDocument w path (.object ms) = .error e := by
  rw [ofDocument, h]
  rfl

theorem load_of_find (h : w.find path = .ok document) :
    load w path = ofDocument w path document := by
  rw [load, h]

theorem load_eq_ok_iff :
    load w path = .ok p ↔
      ∃ ms settings, w.find path = .ok (.object ms) ∧
        rawSettings path ms = .ok (settingsOf (.object ms)) ∧
        Settings.settle w (envFileFor w path) (settingsOf (.object ms)) = .ok settings ∧
        read settings ms = .valid p := by
  constructor
  · intro h
    cases hfind : w.find path with
    | error reason =>
      rw [load, hfind] at h
      cases h
    | ok document =>
      rw [load_of_find hfind] at h
      cases document with
      | object ms =>
        obtain hraw | hraw := rawSettings_cases path ms
        · rw [ofDocument_object hraw] at h
          cases hsettled : Settings.settle w (envFileFor w path) (settingsOf (.object ms)) with
          | error e =>
            rw [hsettled] at h
            cases h
          | ok settings =>
            rw [hsettled, ofSettled] at h
            cases hread : read settings ms with
            | invalid faults =>
              rw [hread] at h
              cases h
            | valid q =>
              rw [hread] at h
              cases h
              exact ⟨ms, settings, rfl, hraw, hsettled, hread⟩
        · rw [ofDocument_of_error hraw] at h
          cases h
      | _ => cases h
  · rintro ⟨ms, settings, hfind, hraw, hsettled, hread⟩
    rw [load_of_find hfind, ofDocument_object hraw, hsettled, ofSettled, hread]
    rfl

end Product

end CrudPlan
