import CrudPlan.Proofs.Product.Loading

/-!
# Keys without a value

A document may give `null` under a key instead of leaving the key out. For the settings as a whole,
the hooks and the resources there is no difference. For the strictness setting there is none as long
as another source says what it is; if none does, `null` is taken for a value and refused.

* `Product.ofDocument_without` is about the keys of a document. It rests on
  `Members.optional_without_null`: a reader that takes `null` for what is absent does not miss the
  key;
* `Settings.settle_without`, `Settings.settle_others` and `Settings.reports_settle` are about the
  strictness setting, by where it is spelled first and whether there is a source;
* `Product.null_counts_as_absent` collects these. `Product.load_nullSetting` is a document that is
  refused for the `null` in it.
-/

namespace CrudPlan

/-! ### Faults -/

namespace Checked

variable {α β : Type} {f : Checked (α → β)} {x : Checked α} {y : Checked β} {fault : Fault}

/-- The fault is among those found. -/
def Reports (x : Checked α) (fault : Fault) : Prop :=
  ∃ faults, x = .invalid faults ∧ fault ∈ faults

theorem Reports.seq (h : f.Reports fault) : (f <*> x).Reports fault := by
  obtain ⟨faults, rfl, hmem⟩ := h
  cases x with
  | valid a => exact ⟨faults, rfl, hmem⟩
  | invalid others => exact ⟨faults ++ others, rfl, List.mem_append_left _ hmem⟩

theorem Reports.seq_arg (h : x.Reports fault) : (f <*> x).Reports fault := by
  obtain ⟨faults, rfl, hmem⟩ := h
  cases f with
  | valid g => exact ⟨faults, rfl, hmem⟩
  | invalid others => exact ⟨others ++ faults, rfl, List.mem_append_right _ hmem⟩

theorem Reports.seqLeft (h : x.Reports fault) : (x <* y).Reports fault := by
  obtain ⟨faults, rfl, hmem⟩ := h
  cases y with
  | valid b => exact ⟨faults, rfl, hmem⟩
  | invalid others => exact ⟨faults ++ others, rfl, List.mem_append_left _ hmem⟩

theorem Reports.within (step : Step) (h : x.Reports fault) :
    (x.within step).Reports ⟨step :: fault.path, fault.kind⟩ := by
  obtain ⟨faults, rfl, hmem⟩ := h
  exact ⟨_, rfl, List.mem_map_of_mem hmem⟩

theorem Reports.andThen {g : α → Checked β} (h : x.Reports fault) :
    (x.andThen g).Reports fault := by
  obtain ⟨faults, rfl, hmem⟩ := h
  exact ⟨faults, rfl, hmem⟩

end Checked

/-! ### Members of a document -/

namespace Members

variable {α : Type} {ms : Members} {key k : String} {read : Reader α} {absent : α}
  {known : List String}

theorem required_without (h : k ≠ key) :
    required (without key ms) k read = required ms k read := by
  rw [required, required, lookup_without h]

theorem optional_without (h : k ≠ key) :
    optional (without key ms) k read absent = optional ms k read absent := by
  rw [optional, optional, lookup_without h]

/-- A reader that takes `null` for what is absent does not miss a key with `null`. -/
theorem optional_without_null (hnull : ms.lookup key = some .null)
    (hread : read .null = .valid absent) :
    optional (without key ms) k read absent = optional ms k read absent := by
  by_cases hk : k = key
  · subst hk
    rw [optional, optional, lookup_without_self, hnull]
    dsimp only
    rw [hread]
    rfl
  · exact optional_without hk

theorem closed_without (h : key ∈ known) :
    closed (without key ms) known = closed ms known := by
  rw [closed, closed, unknownKeys_without h]

end Members

namespace Product

variable {w : Workspace} {path : FilePath} {ms other raw : Members} {key : String}
  {settings : Checked Bool} {v : Json}

/-- The keys for which `null` is no value. -/
def nullableKeys : List String := ["settings", "hooks", "resources"]

/-- The members of a document are read by their keys. -/
theorem read_congr
    (hname : ms.required "name" .nonEmptyText = other.required "name" .nonEmptyText)
    (hhooks : ms.optional "hooks" (.nullable hookTable) none =
      other.optional "hooks" (.nullable hookTable) none)
    (hresources : ms.optional "resources" resourceList [] =
      other.optional "resources" resourceList [])
    (hdirectory : ms.optional "config_dir" directory () =
      other.optional "config_dir" directory ())
    (hclosed : ms.closed keys = other.closed keys) :
    read settings ms = read settings other := by
  rw [read, read, hname, hhooks, hresources, hdirectory, hclosed]

theorem read_without (hkey : key ∈ nullableKeys) (hnull : ms.lookup key = some .null) :
    read settings (Members.without key ms) = read settings ms := by
  have hname : "name" ≠ key := by
    rintro rfl
    revert hkey
    decide
  have hdirectory : "config_dir" ≠ key := by
    rintro rfl
    revert hkey
    decide
  have hsubset : nullableKeys ⊆ keys := by decide
  exact read_congr (Members.required_without hname) (Members.optional_without_null hnull rfl)
    (Members.optional_without_null hnull rfl) (Members.optional_without hdirectory)
    (Members.closed_without (hsubset hkey))

theorem rawSettings_without (hnull : ms.lookup key = some .null) :
    rawSettings path (Members.without key ms) = rawSettings path ms := by
  by_cases hkey : "settings" = key
  · subst hkey
    rw [rawSettings, rawSettings, Members.lookup_without_self, hnull]
    rfl
  · rw [rawSettings, rawSettings, Members.lookup_without hkey]

/-- **Under these keys `null` is like nothing.** -/
theorem ofDocument_without (hkey : key ∈ nullableKeys) (hnull : ms.lookup key = some .null) :
    ofDocument w path (.object (Members.without key ms)) = ofDocument w path (.object ms) := by
  have hraw : rawSettings path (Members.without key ms) = rawSettings path ms :=
    rawSettings_without hnull
  cases h : rawSettings path ms with
  | error e => rw [ofDocument_of_error (hraw.trans h), ofDocument_of_error h]
  | ok raw =>
    rw [ofDocument_object (hraw.trans h), ofDocument_object h]
    cases Settings.settle w (envFileFor w path) raw with
    | error e => rfl
    | ok settings => exact congrArg ofChecked (read_without hkey hnull)

end Product

/-! ### The strictness setting -/

namespace Settings

variable {w : Workspace} {envFile : Option String} {raw : Members} {m : String × Json}

/-- If the key is spelled in no other way, the other members are those without it. -/
theorem others_eq_without (h : ∀ m ∈ raw, isStrictKey m.1 = true → m.1 = strictKey) :
    others raw = Members.without strictKey raw := by
  refine List.filter_congr fun m hm => ?_
  by_cases hkey : m.1 = strictKey
  · rw [hkey, isStrictKey_strictKey, bne_self_eq_false]
    rfl
  · have hother : isStrictKey m.1 = false := by
      rw [← Bool.not_eq_true]
      exact fun hstrict => hkey (h m hm hstrict)
    rw [hother, bne_iff_ne.2 hkey]
    rfl

theorem source?_congr {other : Members}
    (h : present? (raw.lookup strictKey) = present? (other.lookup strictKey)) :
    source? w envFile raw = source? w envFile other := by
  rw [source?, source?, h]

/-- Another spelling that comes first is still the first one. -/
theorem spelled?_without (hspelled : spelled? raw = some m) (hm : m.1 ≠ strictKey) :
    spelled? (Members.without strictKey raw) = some m := by
  obtain ⟨hstrict, before, after, rfl, hbefore⟩ := List.find?_eq_some_iff_append.1 hspelled
  have hkept : (m.1 != strictKey) = true := bne_iff_ne.2 hm
  refine List.find?_eq_some_iff_append.2
    ⟨hstrict, before.filter (·.1 != strictKey), after.filter (·.1 != strictKey), ?_, ?_⟩
  · rw [Members.without, List.filter_append, List.filter_cons, if_pos hkept]
  · exact fun x hx => hbefore x (List.mem_of_mem_filter hx)

/-- **Where another spelling comes first, the key itself does not count** if it has no value. -/
theorem settle_without (hnull : raw.lookup strictKey = some .null) (hspelled : spelled? raw = some m)
    (hm : m.1 ≠ strictKey) :
    settle w envFile (Members.without strictKey raw) = settle w envFile raw := by
  -- the key is neither the first spelling nor a source
  have hfirst : spelled? (Members.without strictKey raw) = some m := spelled?_without hspelled hm
  have hsource : source? w envFile (Members.without strictKey raw) = source? w envFile raw := by
    apply source?_congr
    rw [Members.lookup_without_self, hnull]
    rfl
  cases h : source? w envFile raw with
  | none =>
    rw [settle_of_source?_none h, settle_of_source?_none (hsource.trans h),
      read_congr (by rw [given?_eq, given?_eq, hfirst, hspelled]) others_without]
  | some v =>
    rw [settle_of_source?_some h, settle_of_source?_some (hsource.trans h)]
    refine congrArg (Except.map · (switch v)) (funext fun v => read_congr ?_ ?_)
    · rw [given?_eq, given?_eq, spelled?_setMember, spelled?_setMember, hfirst, hspelled]
    · rw [others_setMember, others_setMember, others_without]

/-- **Where the key itself comes first without a value, a source puts its own in place**, and other
spellings do not count. -/
theorem settle_others (hspelled : spelled? raw = some (strictKey, .null))
    (hnull : raw.lookup strictKey = some .null) {v : Json} (hv : InEffect w envFile raw v) :
    settle w envFile (others raw) = settle w envFile raw := by
  have h : source? w envFile raw = some v := source?_eq_some_iff.2 hv
  have hsource : source? w envFile (others raw) = source? w envFile raw := by
    apply source?_congr
    rw [lookup_others_strictKey, hnull]
    rfl
  rw [settle_of_source?_some h, settle_of_source?_some (hsource.trans h)]
  -- the value is put in the place of the key, or at the end; it comes first either way
  refine congrArg (Except.map · (switch v)) (funext fun v => read_congr ?_ ?_)
  · rw [given?_eq, given?_eq, spelled?_setMember, spelled?_setMember, spelled?_eq_none_of_others,
      hspelled]
    rfl
  · rw [others_setMember, others_setMember, others_others]

/-- **Where no source has a value, `null` is taken for one.** -/
theorem reports_settle (hspelled : spelled? raw = some (strictKey, .null))
    (hnone : ∀ v, ¬ InEffect w envFile raw v) :
    ∃ settings, settle w envFile raw = .ok settings ∧
      settings.Reports ⟨[.key strictKey], .notBool⟩ := by
  have h : source? w envFile raw = none := by
    rw [Option.eq_none_iff_forall_ne_some]
    exact fun v hv => hnone v (source?_eq_some_iff.1 hv)
  have hgiven : given? raw = some .null := by rw [given?_eq, hspelled, Option.map_some]
  have hfault : (Reader.bool .null).Reports ⟨[], .notBool⟩ := ⟨_, rfl, List.mem_singleton_self _⟩
  refine ⟨read w raw, settle_of_source?_none h, ?_⟩
  rw [read_eq_of_given hgiven]
  exact ((hfault.within (.key strictKey)).seqLeft).seqLeft

end Settings

namespace Product

variable {w : Workspace} {path : FilePath} {ms raw : Members} {settings : Checked Bool} {v : Json}

/-- A document with other settings. -/
def withSettings (ms raw : Members) : Json := .object (Settings.setMember "settings" (.object raw) ms)

/-- The settings are read by themselves, not with the rest of a document. -/
theorem read_setMember_settings (h : ms.lookup "settings" = some v) (x : Json) :
    read settings (Settings.setMember "settings" x ms) = read settings ms := by
  have hlookup : ∀ key, key ≠ "settings" →
      (Settings.setMember "settings" x ms).lookup key = ms.lookup key :=
    fun _ => Settings.lookup_setMember
  apply read_congr
  · rw [Members.required, Members.required, hlookup _ (by decide)]
  · rw [Members.optional, Members.optional, hlookup _ (by decide)]
  · rw [Members.optional, Members.optional, hlookup _ (by decide)]
  · rw [Members.optional, Members.optional, hlookup _ (by decide)]
  · have hpresent : (ms.lookup "settings").isSome := by
      rw [h]
      rfl
    rw [Members.closed, Members.closed, Members.unknownKeys_eq, Members.unknownKeys_eq,
      Settings.map_fst_setMember hpresent]

theorem ofDocument_withSettings (h : ms.lookup "settings" = some v) :
    ofDocument w path (withSettings ms raw) =
      ofSettled ms (Settings.settle w (envFileFor w path) raw) := by
  have hraw : rawSettings path (Settings.setMember "settings" (.object raw) ms) = .ok raw := by
    rw [rawSettings, Settings.lookup_setMember_self]
  rw [withSettings, ofDocument_object hraw]
  cases Settings.settle w (envFileFor w path) raw with
  | error e => rfl
  | ok settings => exact congrArg ofChecked (read_setMember_settings h _)

theorem ofDocument_settings (h : ms.lookup "settings" = some (.object raw)) :
    ofDocument w path (.object ms) =
      ofSettled ms (Settings.settle w (envFileFor w path) raw) := by
  apply ofDocument_object
  rw [rawSettings, h]

/-- A fault of the settings is one of the product. -/
theorem reports_read {fault : Fault} (ms : Members) (h : settings.Reports fault) :
    (read settings ms).Reports ⟨.key "settings" :: fault.path, fault.kind⟩ := by
  have hsettings := h.within (.key "settings")
  exact (hsettings.seq_arg.seq.seq.seqLeft.seqLeft).andThen

/-- What `null` under the key of the strictness setting does to a document, of which `raw` are the
settings. -/
structure NullStrictness (w : Workspace) (path : FilePath) (ms raw : Members) : Prop where
  /-- If the key is spelled in no other way and a source has a value, it is like nothing. -/
  like_nothing : ∀ v, Settings.InEffect w (envFileFor w path) raw v →
    (∀ m ∈ raw, Settings.isStrictKey m.1 = true → m.1 = Settings.strictKey) →
    ofDocument w path (withSettings ms (Members.without Settings.strictKey raw)) =
      ofDocument w path (.object ms)
  /-- If no source has a value, it is a fault. -/
  refused : Settings.spelled? raw = some (Settings.strictKey, .null) →
    (∀ v, ¬ Settings.InEffect w (envFileFor w path) raw v) →
    ∃ faults, ofDocument w path (.object ms) = .error (.faulty faults) ∧
      ⟨[.key "settings", .key Settings.strictKey], .notBool⟩ ∈ faults
  /-- If another spelling comes before it, it is like nothing in any case. -/
  spelled_before : ∀ m, Settings.spelled? raw = some m → m.1 ≠ Settings.strictKey →
    ofDocument w path (withSettings ms (Members.without Settings.strictKey raw)) =
      ofDocument w path (.object ms)
  /-- If other spellings come after it, a source that has a value takes their place, too. -/
  spelled_after : ∀ v, Settings.InEffect w (envFileFor w path) raw v →
    Settings.spelled? raw = some (Settings.strictKey, .null) →
    ofDocument w path (withSettings ms (Settings.others raw)) = ofDocument w path (.object ms)

theorem nullStrictness (hraw : ms.lookup "settings" = some (.object raw))
    (hnull : raw.lookup Settings.strictKey = some .null) : NullStrictness w path ms raw := by
  have hafter : ∀ v, Settings.InEffect w (envFileFor w path) raw v →
      Settings.spelled? raw = some (Settings.strictKey, .null) →
      ofDocument w path (withSettings ms (Settings.others raw)) =
        ofDocument w path (.object ms) := by
    intro v hv hspelled
    rw [ofDocument_withSettings hraw, ofDocument_settings hraw,
      Settings.settle_others hspelled hnull hv]
  refine ⟨fun v hv halone => ?_, fun hspelled hnone => ?_, fun m hspelled hm => ?_, hafter⟩
  · obtain ⟨m, hspelled, hm⟩ | hspelled := Settings.spelled?_cases hnull
    · have hstrict := List.find?_some hspelled
      exact absurd (halone m (List.mem_of_find?_eq_some hspelled) hstrict) hm
    · rw [← Settings.others_eq_without halone]
      exact hafter v hv hspelled
  · obtain ⟨settings, hsettled, hfault⟩ := Settings.reports_settle hspelled hnone
    obtain ⟨faults, hread, hmem⟩ := reports_read ms hfault
    refine ⟨faults, ?_, hmem⟩
    rw [ofDocument_settings hraw, hsettled, ofSettled, hread]
    rfl
  · rw [ofDocument_withSettings hraw, ofDocument_settings hraw,
      Settings.settle_without hnull hspelled hm]

/-- **`null` counts as absent**, except for the strictness setting where no source says what it
is. -/
theorem null_counts_as_absent (w : Workspace) (path : FilePath) (ms : Members) :
    (∀ key ∈ nullableKeys, ms.lookup key = some .null →
      ofDocument w path (.object (Members.without key ms)) = ofDocument w path (.object ms)) ∧
    (∀ raw, ms.lookup "settings" = some (.object raw) →
      raw.lookup Settings.strictKey = some .null → NullStrictness w path ms raw) := by
  refine ⟨fun key hkey hnull => ?_, fun raw hraw hnull => ?_⟩
  · exact ofDocument_without hkey hnull
  · exact nullStrictness hraw hnull

/-- A document without settings to speak of, and the same with `null` for the strictness. -/
theorem load_nullSetting :
    load { files := [({ parts := ["product.yaml"] }, .document (.object [
        ("name", .text "x"), ("settings", .object [])]))] } { parts := ["product.yaml"] } =
      .ok { name := "x" } ∧
    load { files := [({ parts := ["product.yaml"] }, .document (.object [
        ("name", .text "x"), ("settings", .object [("strict_state_upgrades", .null)])]))] }
        { parts := ["product.yaml"] } =
      .error (.faulty [⟨[.key "settings", .key "strict_state_upgrades"], .notBool⟩]) := by
  constructor
  · decide +kernel
  · decide +kernel

end Product

end CrudPlan
