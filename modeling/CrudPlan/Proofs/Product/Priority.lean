import CrudPlan.Proofs.Product.Loading

/-!
# Which source has its way

The strictness setting of a product is that of the first source that is set: the settings of its
document, the environment, the file of variables beside it. What the other sources hold is not
looked at, so nothing in them can make loading fail.

The settings of a document can get around this in two ways. They may name files of variables of
their own, and all other variables in these are faults; `Settings.AgreeOn` says that two workspaces
do not differ in this. And they may spell the key of the setting in other letter case; the first of
its spellings then has its way.

* `Settings.settle_of_inEffect`: with the same value in effect, settings are completed and read
  alike;
* `Settings.means_of_settle` and `Settings.bool_of_spelled` say what the result is;
* `Product.prioritized` is about loading. `Product.load_around` has a document for each way around
  the order of sources.
-/

namespace CrudPlan

/-! ### Readings without faults -/

theorem Checked.seqLeft_eq_valid_iff {α β : Type} {x : Checked α} {y : Checked β} {a : α} :
    x <* y = .valid a ↔ x = .valid a ∧ ∃ b, y = .valid b := by
  cases x with
  | valid c =>
    cases y with
    | valid d => simp
    | invalid faults => simp [SeqLeft.seqLeft, apply, map]
  | invalid faults =>
    cases y with
    | valid d => simp [SeqLeft.seqLeft, apply, map]
    | invalid others => simp [SeqLeft.seqLeft, apply, map]

theorem Members.mem_of_closed {ms : Members} {known : List String} {u : Unit}
    (h : ms.closed known = .valid u) : ∀ m ∈ ms, m.1 ∈ known := by
  intro m hm
  by_contra hknown
  have hfault : ⟨[.key m.1], .unknownKey⟩ ∈ ms.unknownKeys known := by
    rw [unknownKeys]
    exact List.mem_map_of_mem (List.mem_filter.2 ⟨hm, by simpa using hknown⟩)
  unfold closed at h
  split at h
  · next hnone =>
    rw [hnone] at hfault
    cases hfault
  · cases h

namespace Settings

variable {w w' : Workspace} {envFile envFile' : Option String} {raw : Members} {m : String × Json}
  {v x : Json} {s : String} {b : Bool}

/-! ### What a value means -/

/-- A value means a truth value. Texts are words for it, in upper or lower case. -/
def Means : Json → Bool → Prop
  | .text s, b => (String.ofList (s.toList.map Char.toLower), b) ∈ words
  | v, b => Reader.bool v = .valid b

theorem ofWord?_eq_some_iff : ofWord? s = some b ↔ Means (.text s) b := by
  rw [ofWord?, Means]
  constructor
  · intro h
    obtain ⟨before, after, hwords, -⟩ := List.lookup_eq_some_iff.1 h
    rw [hwords]
    exact List.mem_append_right before List.mem_cons_self
  · have hall : ∀ word ∈ words, words.lookup word.1 = some word.2 := by decide
    exact hall _

theorem means_of_switch (h : switch v = .ok x) (hx : Reader.bool x = .valid b) : Means v b := by
  cases v with
  | text s =>
    rw [switch] at h
    cases hword : ofWord? s with
    | none =>
      rw [hword] at h
      cases h
    | some c =>
      rw [hword] at h
      cases h
      cases hx
      exact ofWord?_eq_some_iff.1 hword
  | _ =>
    cases h
    exact hx

theorem switch_of_not_means (h : ∀ b, ¬ Means (.text s) b) :
    switch (.text s) = .error (.invalidSwitch strictVariable s) := by
  have hword : ofWord? s = none := by
    rw [Option.eq_none_iff_forall_ne_some]
    exact fun b hb => h b (ofWord?_eq_some_iff.1 hb)
  rw [switch, hword]

/-! ### Shadowing -/

/-- The files of variables that the settings name have the same other variables in both
workspaces. -/
def AgreeOn (w w' : Workspace) (raw : Members) : Prop :=
  (variableLookup raw).strayNames w = (variableLookup raw).strayNames w'

theorem agreeOn_of_files (h : (variableLookup raw).files = []) : AgreeOn w w' raw := by
  have hstray : ∀ u, (variableLookup raw).strayNames u = [] := by
    intro u
    rw [VariableLookup.strayNames, VariableLookup.fileVariables, VariableLookup.texts, h]
    rfl
  rw [AgreeOn, hstray, hstray]

theorem exists_given?_setMember (raw : Members) (x : Json) :
    ∃ y, given? (setMember strictKey x raw) = some y := by
  rw [given?_eq, spelled?_setMember]
  exact ⟨_, rfl⟩

/-- Once the setting is put in place, other variables are all that is looked for. -/
theorem read_setMember_of_agreeOn (h : AgreeOn w w' raw) (x : Json) :
    read w (setMember strictKey x raw) = read w' (setMember strictKey x raw) := by
  obtain ⟨y, hy⟩ := exists_given?_setMember raw x
  rw [read_eq_of_given hy, read_eq_of_given hy, variableLookup_setMember, h]

/-- **Only the value in effect counts**, wherever it comes from. -/
theorem settle_of_inEffect (h : AgreeOn w w' raw) (hv : InEffect w envFile raw v)
    (hv' : InEffect w' envFile' raw v) : settle w envFile raw = settle w' envFile' raw := by
  rw [settle_of_source?_some (source?_eq_some_iff.2 hv),
    settle_of_source?_some (source?_eq_some_iff.2 hv')]
  exact congrArg (Except.map · (switch v)) (funext (read_setMember_of_agreeOn h))

/-! ### The value -/

theorem bool_of_read (h : read w raw = .valid b) (hgiven : given? raw = some x) :
    Reader.bool x = .valid b := by
  rw [read_eq_of_given hgiven] at h
  obtain ⟨hsetting, -⟩ := Checked.seqLeft_eq_valid_iff.1 h
  obtain ⟨hbool, -⟩ := Checked.seqLeft_eq_valid_iff.1 hsetting
  exact Checked.within_eq_valid_iff.1 hbool

theorem strayNames_of_read (h : read w raw = .valid b) :
    ∀ name ∈ (variableLookup raw).strayNames w, name = strictKey := by
  intro name hname
  rw [read_eq] at h
  obtain ⟨hsetting, -⟩ := Checked.seqLeft_eq_valid_iff.1 h
  obtain ⟨-, _, hclosed⟩ := Checked.seqLeft_eq_valid_iff.1 hsetting
  exact List.mem_singleton.1
    (Members.mem_of_closed hclosed (name, .null) (List.mem_map_of_mem hname))

/-- A source that is set is put in place before completed settings are read. -/
theorem exists_switch_of_settle (hv : InEffect w envFile raw v)
    (h : settle w envFile raw = .ok (.valid b)) :
    ∃ x, switch v = .ok x ∧ read w (setMember strictKey x raw) = .valid b := by
  rw [settle_of_source?_some (source?_eq_some_iff.2 hv)] at h
  cases hswitch : switch v with
  | error e =>
    rw [hswitch] at h
    cases h
  | ok x =>
    rw [hswitch, Except.map, Except.ok.injEq] at h
    exact ⟨x, rfl, h⟩

/-- **The setting is the value in effect** if its key is first spelled as such. -/
theorem means_of_settle (hfirst : ∀ m, spelled? raw = some m → m.1 = strictKey)
    (hv : InEffect w envFile raw v) (h : settle w envFile raw = .ok (.valid b)) : Means v b := by
  obtain ⟨x, hswitch, hread⟩ := exists_switch_of_settle hv h
  refine means_of_switch hswitch (bool_of_read hread ?_)
  rw [given?_eq, spelled?_setMember]
  cases hspelled : spelled? raw with
  | none => rfl
  | some m => simp [assign, hfirst m hspelled]

/-- **Another spelling that comes first has its way.** -/
theorem bool_of_spelled (hspelled : spelled? raw = some m) (hm : m.1 ≠ strictKey)
    (h : settle w envFile raw = .ok (.valid b)) : Reader.bool m.2 = .valid b := by
  cases hsource : source? w envFile raw with
  | none =>
    rw [settle_of_source?_none hsource, Except.ok.injEq] at h
    exact bool_of_read h (by rw [given?_eq, hspelled, Option.map_some])
  | some v =>
    obtain ⟨x, -, hread⟩ := exists_switch_of_settle (source?_eq_some_iff.1 hsource) h
    refine bool_of_read hread ?_
    rw [given?_eq, spelled?_setMember, hspelled]
    simp [assign, hm]

/-- **Other variables of the files that settings name are faults.** -/
theorem strayNames_of_settle (h : settle w envFile raw = .ok (.valid b)) :
    ∀ name ∈ (variableLookup raw).strayNames w, name = strictKey := by
  cases hsource : source? w envFile raw with
  | none =>
    rw [settle_of_source?_none hsource, Except.ok.injEq] at h
    exact strayNames_of_read h
  | some v =>
    obtain ⟨x, -, hread⟩ := exists_switch_of_settle (source?_eq_some_iff.1 hsource) h
    have hstray := strayNames_of_read hread
    rw [variableLookup_setMember] at hstray
    exact hstray

end Settings

namespace Product

variable {w w' : Workspace} {path : FilePath} {document v : Json} {ms : Members} {p : Product}
  {settings : Checked Bool}

/-! ### Loading -/

theorem settings_of_read (h : read settings ms = .valid p) : settings = .valid p.strict := by
  obtain ⟨q, hq, hchecked⟩ := Checked.andThen_eq_valid_iff.1 h
  obtain ⟨rfl, -⟩ := checkHooks_eq_valid_iff.1 hchecked
  -- whatever the other members are, the settings become the second field
  have hname : (Product.mk <$> Members.required ms "name" .nonEmptyText).Holds fun make =>
      ∀ b, settings = .valid b → ∀ hooks resources,
        settings = .valid (make b hooks resources).strict := by
    intro make hmake b hb hooks resources
    obtain ⟨name, -, rfl⟩ := Checked.map_eq_valid_iff.1 hmake
    exact hb
  have hsettings : (settings.within (.key "settings")).Holds fun b => settings = .valid b :=
    Checked.Holds.within fun _ hb => hb
  exact Checked.Holds.seqLeft (P := fun p : Product => settings = .valid p.strict)
    (hname.seq hsettings).skip.skip.seqLeft p hq

/-- The settings of a product that was loaded. -/
theorem settle_of_load (hfind : w.find path = .ok document) (h : load w path = .ok p) :
    Settings.settle w (envFileFor w path) (settingsOf document) = .ok (.valid p.strict) := by
  obtain ⟨ms, settings, hobject, -, hsettled, hread⟩ := load_eq_ok_iff.1 h
  obtain rfl : document = .object ms := by
    rw [hfind] at hobject
    exact Except.ok.inj hobject
  rw [hsettled, settings_of_read hread]

/-- A document is loaded alike if its settings are. -/
theorem load_congr (hfind : w.find path = .ok document) (hfind' : w'.find path = .ok document)
    (h : Settings.settle w (envFileFor w path) (settingsOf document) =
      Settings.settle w' (envFileFor w' path) (settingsOf document)) :
    load w path = load w' path := by
  rw [load_of_find hfind, load_of_find hfind']
  cases document with
  | object ms =>
    obtain hraw | hraw := rawSettings_cases path ms
    · rw [ofDocument_object hraw, ofDocument_object hraw, h]
    · rw [ofDocument_of_error hraw, ofDocument_of_error hraw]
  | _ => rfl

theorem load_of_inEffect (hfind : w.find path = .ok document)
    (hfind' : w'.find path = .ok document) (h : Settings.AgreeOn w w' (settingsOf document))
    (hv : Settings.InEffect w (envFileFor w path) (settingsOf document) v)
    (hv' : Settings.InEffect w' (envFileFor w' path) (settingsOf document) v) :
    load w path = load w' path :=
  load_congr hfind hfind' (Settings.settle_of_inEffect h hv hv')

/-- A text in effect that is no word for a truth value is an error, if not the document itself
is one. -/
theorem load_of_not_means {s : String} (hfind : w.find path = .ok document)
    (hv : Settings.InEffect w (envFileFor w path) (settingsOf document) (.text s))
    (hs : ∀ b, ¬ Settings.Means (.text s) b) :
    ∃ e ∈ [.notMapping path, .settingsNotMapping path,
      .invalidSwitch Settings.strictVariable s], load w path = .error e := by
  rw [load_of_find hfind]
  cases document with
  | object ms =>
    obtain hraw | hraw := rawSettings_cases path ms
    · have hsettled : Settings.settle w (envFileFor w path) (settingsOf (.object ms)) =
          .error (.invalidSwitch Settings.strictVariable s) := by
        rw [Settings.settle_of_source?_some (Settings.source?_eq_some_iff.2 hv),
          Settings.switch_of_not_means hs]
        rfl
      rw [ofDocument_object hraw, hsettled]
      exact ⟨_, by simp, rfl⟩
    · rw [ofDocument_of_error hraw]
      exact ⟨_, by simp, rfl⟩
  | _ => exact ⟨_, by simp, rfl⟩

/-- The order of the sources, for one document in any workspace. -/
structure Prioritized (path : FilePath) (document : Json) : Prop where
  /-- A value in the document is all that counts. -/
  document_first : ∀ w w' v, w.find path = .ok document → w'.find path = .ok document →
    Settings.AgreeOn w w' (settingsOf document) →
    (settingsOf document).lookup Settings.strictKey = some v → v ≠ .null →
    load w path = load w' path
  /-- Then the variable of the environment is. -/
  environment_next : ∀ w w' s, w.find path = .ok document → w'.find path = .ok document →
    Settings.AgreeOn w w' (settingsOf document) →
    w.valueOf? Settings.strictVariable = some s → w'.valueOf? Settings.strictVariable = some s →
    load w path = load w' path
  /-- Other variables of the files that the settings name are faults. -/
  stray : ∀ w p, w.find path = .ok document → load w path = .ok p →
    ∀ name ∈ (Settings.variableLookup (settingsOf document)).strayNames w,
      name = Settings.strictKey
  /-- Workspaces can disagree on the settings only if these name files of variables. -/
  agree : (Settings.variableLookup (settingsOf document)).files = [] →
    ∀ w w', Settings.AgreeOn w w' (settingsOf document)
  /-- The value in effect is that of the product if the key is first spelled as such. -/
  value : ∀ w p v, w.find path = .ok document → load w path = .ok p →
    Settings.InEffect w (envFileFor w path) (settingsOf document) v →
    (∀ m, Settings.spelled? (settingsOf document) = some m → m.1 = Settings.strictKey) →
    Settings.Means v p.strict
  /-- Else the first spelling of the key has the value of the product. -/
  spelled : ∀ w p m, w.find path = .ok document → load w path = .ok p →
    Settings.spelled? (settingsOf document) = some m → m.1 ≠ Settings.strictKey →
    Reader.bool m.2 = .valid p.strict
  /-- A text in effect that is no word for a truth value is an error. -/
  refused : ∀ w s, w.find path = .ok document →
    Settings.InEffect w (envFileFor w path) (settingsOf document) (.text s) →
    (∀ b, ¬ Settings.Means (.text s) b) →
    ∃ e ∈ [.notMapping path, .settingsNotMapping path,
      .invalidSwitch Settings.strictVariable s], load w path = .error e

/-- **The first source that is set has its way** in every document. -/
theorem prioritized (path : FilePath) (document : Json) : Prioritized path document where
  document_first _ _ _ hfind hfind' hagree hv hnull :=
    load_of_inEffect hfind hfind' hagree (.document hv hnull) (.document hv hnull)
  environment_next w w' s hfind hfind' hagree hs hs' := by
    cases hdocument : Settings.present? ((settingsOf document).lookup Settings.strictKey) with
    | none =>
      exact load_of_inEffect hfind hfind' hagree (.environment hdocument hs)
        (.environment hdocument hs')
    | some v =>
      -- the document has a value, which is in effect in both workspaces
      obtain ⟨hv, hnull⟩ := Settings.present?_eq_some_iff.1 hdocument
      exact load_of_inEffect hfind hfind' hagree (.document hv hnull) (.document hv hnull)
  stray _ _ hfind hload := Settings.strayNames_of_settle (settle_of_load hfind hload)
  agree hfiles _ _ := Settings.agreeOn_of_files hfiles
  value _ _ _ hfind hload hv hfirst :=
    Settings.means_of_settle hfirst hv (settle_of_load hfind hload)
  spelled _ _ _ hfind hload hspelled hm :=
    Settings.bool_of_spelled hspelled hm (settle_of_load hfind hload)
  refused _ _ hfind hv hs := load_of_not_means hfind hv hs

/-- A product with given settings. -/
def documentWith (settings : Members) : Json :=
  .object [("name", .text "p"), ("settings", .object settings)]

/-- Settings that spell the key in two ways. -/
def spelledTwice : Members :=
  [("STRICT_STATE_UPGRADES", .bool false), ("strict_state_upgrades", .bool true)]

/-- Settings that name the file of variables beside the product. -/
def withEnvFile : Members :=
  [("_env_file", .text ".env"), ("strict_state_upgrades", .bool true)]

/-- A file of variables with another variable. As a document it is one word. -/
def otherVariable : FileContent := .text "FOO=1" (.ok (.text "FOO=1"))

/-- A product in the working directory. -/
def here : FilePath := { parts := ["product.yaml"] }

/-- The first spelling of the key has its way, and another variable of a file that the settings name
makes loading fail although the setting is given. -/
theorem load_around :
    load { files := [(here, .document (documentWith spelledTwice))] } here =
        .ok { name := "p", strict := false } ∧
      load { files := [(here, .document (documentWith withEnvFile))] } here =
        .ok { name := "p", strict := true } ∧
      ∀ p, load { files := [(here, .document (documentWith withEnvFile)),
        ({ parts := [".env"] }, otherVariable)] } here ≠ .ok p := by
  refine ⟨by decide +kernel, by decide +kernel, fun p hload => ?_⟩
  -- if it loaded, there would be a product
  have hnone : (load { files := [(here, .document (documentWith withEnvFile)),
      ({ parts := [".env"] }, otherVariable)] } here).toOption.isNone = true := by decide +kernel
  rw [hload] at hnone
  cases hnone

end Product

end CrudPlan
