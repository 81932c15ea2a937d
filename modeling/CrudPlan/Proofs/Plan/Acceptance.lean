import CrudPlan.Proofs.Plan.Resolution

/-!
# Which descriptors have a plan

This file says which descriptors have a plan by what they say, without reference to the parts of
the resolution, to the order in which they run or to issues.

* `Template.CompilesOver` and `ImportFormat.CompilesOver`: texts that can be read and need known
  fields only;
* `Descriptor.Declares`: the names that an identity may use;
* `HookRegistry.Offers`: the uses of hooks that the runtime allows;
* `Descriptor.Acceptable` collects the conditions. Each part of the resolution has a lemma that
  says when it finds nothing wrong, and `Plan.exists_resolve_iff_acceptable` puts these together.
-/

namespace CrudPlan

/-! ### Templates -/

/-- A text that can be read as a template over known fields. -/
def Template.CompilesOver (known : List String) (source : String) : Prop :=
  ∃ t, compile source = .ok t ∧ t.tokens ⊆ known

/-- A text that can be read as a template over known fields and names none of them twice. -/
def ImportFormat.CompilesOver (known : List String) (source : String) : Prop :=
  ∃ t, Template.compile source = .ok t ∧ t.tokens.Nodup ∧ t.tokens ⊆ known

theorem Identity.exists_formatOf_iff {known : List String} {source : String} :
    (∃ f, FormatOf known source f) ↔ ImportFormat.CompilesOver known source := by
  constructor
  · rintro ⟨f, hf, hknown⟩
    obtain ⟨hcompile, hnodup⟩ := ImportFormat.compile_eq_ok_iff.1 hf
    exact ⟨f.template, hcompile, hnodup, hknown⟩
  · rintro ⟨t, hcompile, hnodup, hknown⟩
    exact ⟨⟨t⟩, ImportFormat.compile_eq_ok_iff.2 ⟨hcompile, hnodup⟩, hknown⟩

/-! ### URLs -/

namespace Urls

variable {d : Descriptor}

theorem isSome_selfLink?_iff {e : Endpoints} :
    (selfLink? e).isSome ↔ e.createVerb.val = .post ∨ e.selfLink.isSome := by
  rw [selfLink?, isPosted]
  cases e.selfLink with
  | some url => simp
  | none => by_cases hpost : e.createVerb.val = .post <;> simp [hpost]

theorem exists_resolve_iff :
    (∃ urls, resolve d = .ok urls) ↔
      (∀ source, some source ∈ given d.endpoints → Template.Compiles source) ∧
        (d.endpoints.createVerb.val = .post ∨ d.endpoints.selfLink.isSome) := by
  rw [← isSome_selfLink?_iff, Option.isSome_iff_exists]
  constructor
  · rintro ⟨urls, h⟩
    obtain ⟨hcompiles, selfLink, hself, -⟩ := resolve_eq_ok_iff.1 h
    exact ⟨hcompiles, selfLink, hself⟩
  · rintro ⟨hcompiles, selfLink, hself⟩
    exact ⟨_, resolve_eq_ok_iff.2 ⟨hcompiles, selfLink, hself, rfl⟩⟩

end Urls

/-! ### Identities -/

/-- The names that identities and templates may use: the one of every resource, and those of the
fields of this one. -/
def Descriptor.Declares (d : Descriptor) (name : String) : Prop :=
  name = implicitField ∨ name ∈ d.properties.map Field.name ∨ name ∈ d.parameters.map Field.name ∨
    name ∈ d.virtualFields.map VirtualField.name

/-- The fields of an identity are those given, or the name of the resource alone. -/
theorem Descriptor.identityFields_eq (d : Descriptor) :
    d.identityFields =
      if d.identityRules.identity = [] then ["name"] else d.identityRules.identity := by
  rw [identityFields, implicitField]
  simp only [List.isEmpty_iff]

/-- The id template is that given, or the tokens of the identity with slashes between them. -/
theorem Identity.idTemplate_eq (d : Descriptor) :
    idTemplate d = d.identityRules.idFormat.getD
      ("/".intercalate (d.identityFields.map fun name => "\x7b\x7b" ++ name ++ "\x7d\x7d")) :=
  rfl

theorem Descriptor.mem_declaredNames_iff {d : Descriptor} {name : String} :
    name ∈ d.declaredNames ↔ d.Declares name := by
  rw [declaredNames, mem_firstOccurrences, Declares]
  simp only [List.mem_append, List.mem_cons, or_assoc]

namespace Identity

variable {d : Descriptor}

/-- Fields are in order if none is repeated, here or from before, and all are declared. -/
theorem fieldIssues_eq_nil_iff {declared seen fields : List String} :
    fieldIssues declared seen fields = [] ↔
      (fields.Nodup ∧ ∀ name ∈ fields, name ∉ seen) ∧ ∀ name ∈ fields, name ∈ declared := by
  induction fields generalizing seen with
  | nil => simp [fieldIssues]
  | cons name rest ih =>
    rw [fieldIssues, List.append_eq_nil_iff, List.append_eq_nil_iff, ih]
    have hrepeated : (if seen.contains name then [repeatedIssue name] else []) = [] ↔
        name ∉ seen := by simp
    have hundeclared : (if declared.contains name then [] else [undeclaredIssue name]) = [] ↔
        name ∈ declared := by simp
    rw [hrepeated, hundeclared, List.nodup_cons, List.forall_mem_cons, List.forall_mem_cons]
    constructor
    · rintro ⟨⟨hseen, hdeclared⟩, ⟨hnodup, hfresh⟩, hrest⟩
      have hnew : name ∉ rest := fun hmem => hfresh name hmem List.mem_cons_self
      refine ⟨⟨⟨hnew, hnodup⟩, hseen, fun x hx hmem => ?_⟩, hdeclared, hrest⟩
      exact hfresh x hx (List.mem_cons_of_mem _ hmem)
    · rintro ⟨⟨⟨hnew, hnodup⟩, hseen, hfresh⟩, hdeclared, hrest⟩
      refine ⟨⟨hseen, hdeclared⟩, ⟨hnodup, fun x hx hmem => ?_⟩, hrest⟩
      rcases List.mem_cons.1 hmem with rfl | hmem
      · exact hnew hx
      · exact hfresh x hx hmem

theorem nestedIssues_eq_nil_iff :
    nestedIssues d = [] ↔
      (d.identityRules.nestedQuery.isSome → d.identityRules.identity ≠ []) := by
  rw [nestedIssues, Descriptor.hasImplicitIdentity]
  simp only [List.isEmpty_iff, ite_eq_right_iff, List.cons_ne_self, imp_false, not_and]
  exact ⟨fun h hquery hnil => h hnil hquery, fun h hnil hquery => h hquery hnil⟩

theorem excludedImportIssues_eq_nil_iff :
    excludedImportIssues d = [] ↔
      (d.lifecycle.excludeImport = true → d.identityRules.importFormat = []) := by
  simp [excludedImportIssues]

/-- The texts of the import formats: those given, else the id template. -/
def formatSources (d : Descriptor) : List String :=
  if d.identityRules.importFormat = [] then [idTemplate d] else d.identityRules.importFormat

/-- With an id template that is fit for use, the formats to compile do not depend on it. -/
theorem consideredFormats_of_checkedIdFormat {t : Template} (h : checkedIdFormat d = .ok t) :
    consideredFormats d = if d.lifecycle.excludeImport then [] else formatSources d := by
  rw [consideredFormats, h, formatSources]
  simp only [List.isEmpty_iff]

/-- The import formats of an identity have the texts to compile, in order. -/
theorem sources_formats_of_resolve {i : Identity} (h : resolve d = .ok i) :
    i.importFormats.map (fun f => f.template.source) =
      if d.lifecycle.excludeImport then [] else formatSources d := by
  obtain ⟨-, -, hid, hformats⟩ := resolve_eq_ok_iff.1 h
  rw [← consideredFormats_of_checkedIdFormat hid]
  exact map_source_of_forall₂ hformats

theorem exists_forall₂_formatOf_iff {known sources : List String} :
    (∃ formats, List.Forall₂ (FormatOf known) sources formats) ↔
      ∀ source ∈ sources, ImportFormat.CompilesOver known source := by
  simp only [← exists_formatOf_iff]
  induction sources with
  | nil => simp
  | cons source rest ih =>
    rw [List.forall_mem_cons, ← ih]
    constructor
    · rintro ⟨_, _ | ⟨hf, hrest⟩⟩
      exact ⟨⟨_, hf⟩, _, hrest⟩
    · rintro ⟨⟨f, hf⟩, formats, hrest⟩
      exact ⟨f :: formats, .cons hf hrest⟩

theorem exists_resolve_iff :
    (∃ identity, resolve d = .ok identity) ↔
      ((d.identityFields.Nodup ∧ ∀ name ∈ d.identityFields, d.Declares name) ∧
        (d.identityRules.nestedQuery.isSome → d.identityRules.identity ≠ [])) ∧
      Template.CompilesOver d.identityFields (idTemplate d) ∧
      (d.lifecycle.excludeImport = true → d.identityRules.importFormat = []) ∧
      (d.lifecycle.excludeImport = false →
        ∀ source ∈ formatSources d, ImportFormat.CompilesOver d.identityFields source) := by
  have hfields : fieldIssues d.declaredNames [] d.identityFields = [] ↔
      d.identityFields.Nodup ∧ ∀ name ∈ d.identityFields, d.Declares name := by
    rw [fieldIssues_eq_nil_iff]
    simp [Descriptor.mem_declaredNames_iff]
  -- the formats to compile depend on the id template, so that comes before them
  have hformats : ∀ {t}, checkedIdFormat d = .ok t →
      ((∃ formats, List.Forall₂ (FormatOf d.identityFields) (consideredFormats d) formats) ↔
        (d.lifecycle.excludeImport = false →
          ∀ source ∈ formatSources d, ImportFormat.CompilesOver d.identityFields source)) := by
    intro t hid
    rw [exists_forall₂_formatOf_iff, consideredFormats_of_checkedIdFormat hid]
    cases d.lifecycle.excludeImport <;> simp
  rw [← hfields, ← nestedIssues_eq_nil_iff, ← excludedImportIssues_eq_nil_iff]
  constructor
  · rintro ⟨identity, h⟩
    obtain ⟨⟨hissues, hnested, hexcluded⟩, -, hid, hforall⟩ := resolve_eq_ok_iff.1 h
    exact ⟨⟨hissues, hnested⟩, ⟨_, checkedIdFormat_eq_ok_iff.1 hid⟩, hexcluded,
      (hformats hid).1 ⟨_, hforall⟩⟩
  · rintro ⟨⟨hissues, hnested⟩, ⟨t, ht⟩, hexcluded, hcompile⟩
    have hid := checkedIdFormat_eq_ok_iff.2 ht
    obtain ⟨formats, hforall⟩ := (hformats hid).2 hcompile
    exact ⟨⟨_, t, formats⟩,
      resolve_eq_ok_iff.2 ⟨⟨hissues, hnested, hexcluded⟩, rfl, hid, hforall⟩⟩

end Identity

/-! ### Locks -/

/-- The lock that a text stands for, if it needs known fields only. -/
def Lock.LockOf (known : List String) (source : String) (l : Lock) : Prop :=
  ∃ t, Template.compile source = .ok t ∧ t.tokens ⊆ known ∧ l = ⟨source, t.tokens⟩

theorem Lock.resolve_eq_ok_iff {d : Descriptor} {known : List String} {lock : Option Lock} :
    resolve d known = .ok lock ↔ Option.Rel (LockOf known) d.mutex lock := by
  rw [resolve]
  cases d.mutex with
  | none =>
    constructor
    · rintro ⟨⟩
      exact .none
    · rintro ⟨⟩
      rfl
  | some source =>
    dsimp only
    cases hchecked : Template.checked resolver "mutex" known id (Template.compile source) with
    | error issues =>
      simp only [Except.map, reduceCtorEq, false_iff]
      rintro (⟨t, ht, hknown, -⟩ | _)
      rw [Template.checked_eq_ok_iff.2 ⟨ht, hknown⟩] at hchecked
      cases hchecked
    | ok t =>
      obtain ⟨ht, hknown⟩ := Template.checked_eq_ok_iff.1 hchecked
      have hsource := Template.source_of_compile ht
      simp only [Except.map, Except.ok.injEq, hsource]
      constructor
      · rintro rfl
        exact .some ⟨t, ht, hknown, rfl⟩
      · rintro (⟨t', ht', -, rfl⟩ | _)
        rw [ht] at ht'
        cases ht'
        rfl

theorem Lock.exists_resolve_iff {d : Descriptor} {known : List String} :
    (∃ lock, resolve d known = .ok lock) ↔
      ∀ source ∈ d.mutex, Template.CompilesOver known source := by
  simp only [resolve_eq_ok_iff]
  cases d.mutex with
  | none => exact ⟨fun _ => nofun, fun _ => ⟨none, .none⟩⟩
  | some source =>
    constructor
    · rintro ⟨_, ⟨t, ht, hknown, -⟩ | _⟩ _ ⟨⟩
      exact ⟨t, ht, hknown⟩
    · intro h
      obtain ⟨t, ht, hknown⟩ := h source rfl
      exact ⟨some _, .some ⟨t, ht, hknown, rfl⟩⟩

/-! ### States -/

theorem StateUpgrades.issues_eq_nil_iff {strict : Bool} {s : StateRules} :
    issues strict s = [] ↔
      s.baseVersion ≤ s.schemaVersion ∧ (s.upgraders = true → s.migrateState = none) ∧
        (strict = true → s.upgraders = true → s.schemaVersion ≠ s.baseVersion) := by
  have hrange : rangeIssues s = [] ↔ s.baseVersion ≤ s.schemaVersion := by
    simp [rangeIssues]
  have hmigration : migrationIssues s = [] ↔ (s.upgraders = true → s.migrateState = none) := by
    simp [migrationIssues]
  have hempty : emptyRangeIssues strict s = [] ↔
      (strict = true → s.upgraders = true → s.schemaVersion ≠ s.baseVersion) := by
    cases strict with
    | false => simp [emptyRangeIssues]
    | true => simp [emptyRangeIssues, emptyRangeNotice?]
  rw [issues, List.append_eq_nil_iff, List.append_eq_nil_iff, hrange, hmigration, hempty, and_assoc]

theorem StateUpgrades.exists_resolve_iff {strict : Bool} {d : Descriptor} :
    (∃ state, resolve strict d = .ok state) ↔ issues strict d.stateRules = [] := by
  simp [resolve_eq_ok_iff]

/-! ### Policies -/

/-- The runtime offers the hook, and for what it is used for. -/
def HookRegistry.Offers (r : HookRegistry) (ref : HookRef) : Prop :=
  ∃ registration, r.find? ref.name = some registration ∧ registration.kind = ref.kind.text

theorem HookRegistry.complaint?_eq_none_iff {r : HookRegistry} {ref : HookRef} :
    r.complaint? ref = none ↔ r.Offers ref := by
  rw [complaint?, Offers]
  cases r.find? ref.name with
  | none => simp
  | some registration => simp

theorem HookRegistry.check_eq_nil_iff {r : HookRegistry} {refs : List HookRef} {resolver : String} :
    r.check refs resolver = [] ↔ ∀ ref ∈ refs, r.Offers ref := by
  simp only [check, List.filterMap_eq_nil_iff, Option.map_eq_none_iff, complaint?_eq_none_iff]

theorem LifecyclePolicy.issues_eq_nil_iff {hooks : Option HookRegistry} {d : Descriptor} :
    issues hooks d = [] ↔
      (d.lifecycle.excludeResource = true → d.iamPolicy ≠ none) ∧
        ∀ registry ∈ hooks, ∀ ref ∈ d.hooks, registry.Offers ref := by
  have hexclusion : exclusionIssues d = [] ↔
      (d.lifecycle.excludeResource = true → d.iamPolicy ≠ none) := by
    simp [exclusionIssues]
  have hhooks : hookIssues hooks d = [] ↔
      ∀ registry ∈ hooks, ∀ ref ∈ d.hooks, registry.Offers ref := by
    cases hooks with
    | none => simp [hookIssues]
    | some registry => simp [hookIssues, HookRegistry.check_eq_nil_iff]
  rw [issues, List.append_eq_nil_iff, hexclusion, hhooks]

/-! ### Descriptors -/

/-- What a descriptor has to fulfil to have a plan. -/
structure Descriptor.Acceptable (mode : ResolverMode) (d : Descriptor) : Prop where
  /-- Every URL that is given can be read. -/
  urls : ∀ source, some source ∈ Urls.given d.endpoints → Template.Compiles source
  /-- The URL of the resource can be told. -/
  selfLink : d.endpoints.createVerb.val = .post ∨ d.endpoints.selfLink.isSome
  /-- No field of the identity is listed twice. -/
  nodup_fields : d.identityFields.Nodup
  /-- Every field of the identity is declared. -/
  fields_declared : ∀ name ∈ d.identityFields, d.Declares name
  /-- A nested resource names its identity. -/
  nested : d.identityRules.nestedQuery.isSome → d.identityRules.identity ≠ []
  /-- The id template is fit for use. -/
  idFormat : Template.CompilesOver d.identityFields (Identity.idTemplate d)
  /-- There are no import formats for a resource that cannot be imported. -/
  no_formats : d.lifecycle.excludeImport = true → d.identityRules.importFormat = []
  /-- Otherwise every import format is fit for use. -/
  formats : d.lifecycle.excludeImport = false →
    ∀ source ∈ Identity.formatSources d, ImportFormat.CompilesOver d.identityFields source
  /-- The lock is fit for use, if there is one. -/
  mutex : ∀ source ∈ d.mutex, Template.CompilesOver d.identityFields source
  /-- Upgrades do not start beyond the current version. -/
  versions : d.stateRules.baseVersion ≤ d.stateRules.schemaVersion
  /-- States are not upgraded in steps and migrated by a hook. -/
  migration : d.stateRules.upgraders = true → d.stateRules.migrateState = none
  /-- A strict resolver wants steps where there may be some. -/
  steps : mode.strict = true → d.stateRules.upgraders = true →
    d.stateRules.schemaVersion ≠ d.stateRules.baseVersion
  /-- Something is generated. -/
  exclusion : d.lifecycle.excludeResource = true → d.iamPolicy ≠ none
  /-- The runtime offers every hook, if its hooks are known. -/
  hooks : ∀ registry ∈ mode.hooks, ∀ ref ∈ d.hooks, registry.Offers ref

/-- **A descriptor has a plan exactly if it is acceptable.** -/
theorem Plan.exists_resolve_iff_acceptable {mode : ResolverMode} {d : Descriptor} :
    (∃ p, Plan.resolve mode d = .ok p) ↔ d.Acceptable mode := by
  have hparts : (∃ p, Plan.resolve mode d = .ok p) ↔ (∃ urls, Urls.resolve d = .ok urls) ∧
      (∃ identity, Identity.resolve d = .ok identity) ∧
      (∃ lock, Lock.resolve d d.identityFields = .ok lock) ∧
      (∃ state, StateUpgrades.resolve mode.strict d = .ok state) ∧
      LifecyclePolicy.issues mode.hooks d = [] := by
    constructor
    · rintro ⟨p, h⟩
      obtain ⟨urls, identity, lock, state, hurls, hidentity, hlock, hstate, hpolicy, -⟩ :=
        resolve_eq_ok_iff.1 h
      exact ⟨⟨_, hurls⟩, ⟨_, hidentity⟩, ⟨_, hlock⟩, ⟨_, hstate⟩, hpolicy⟩
    · rintro ⟨⟨urls, hurls⟩, ⟨identity, hidentity⟩, ⟨lock, hlock⟩, ⟨state, hstate⟩, hpolicy⟩
      exact ⟨_, resolve_eq_ok_iff.2
        ⟨urls, identity, lock, state, hurls, hidentity, hlock, hstate, hpolicy, rfl⟩⟩
  rw [hparts, Urls.exists_resolve_iff, Identity.exists_resolve_iff, Lock.exists_resolve_iff,
    StateUpgrades.exists_resolve_iff, StateUpgrades.issues_eq_nil_iff,
    LifecyclePolicy.issues_eq_nil_iff]
  constructor
  · rintro ⟨⟨hurls, hself⟩, ⟨⟨⟨hnodup, hdeclared⟩, hnested⟩, hid, hnone, hformats⟩, hmutex,
      ⟨hversions, hmigration, hsteps⟩, hexclusion, hhooks⟩
    exact ⟨hurls, hself, hnodup, hdeclared, hnested, hid, hnone, hformats, hmutex, hversions,
      hmigration, hsteps, hexclusion, hhooks⟩
  · intro h
    exact ⟨⟨h.urls, h.selfLink⟩, ⟨⟨⟨h.nodup_fields, h.fields_declared⟩, h.nested⟩, h.idFormat,
      h.no_formats, h.formats⟩, h.mutex, ⟨h.versions, h.migration, h.steps⟩, h.exclusion, h.hooks⟩

end CrudPlan
