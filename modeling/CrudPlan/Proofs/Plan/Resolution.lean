import Mathlib.Data.List.Forall2
import CrudPlan.Plan.Basic
import CrudPlan.Proofs.Template.Matching

/-!
# When a descriptor has a plan

A part of the resolution has a result exactly if it finds no issue. This file says what that means
for each part, and what the result is then.

* `Template.checked_eq_ok_iff`: a template is fit for use if it compiles and needs known fields
  only;
* `Urls.resolve_eq_ok_iff`, `Identity.resolve_eq_ok_iff` and `StateUpgrades.resolve_eq_ok_iff` do so
  for the parts;
* `Plan.resolve_eq_ok_iff`: there is a plan if every part has a result, and the plan is made of
  these;
* `Plan.resolve_congr`: descriptors that agree part by part have the same plan or the same issues;
* `Plan.attempt_eq_ok_iff` and its siblings say what is left of this on a machine with limits.
-/

namespace CrudPlan

/-- What can be seen to have a result by evaluation has one. -/
theorem exists_eq_ok_of_isSome {ε α : Type} {x : Except ε α} (h : x.toOption.isSome) :
    ∃ a, x = .ok a := by
  cases x with
  | error e => cases h
  | ok a => exact ⟨a, rfl⟩

/-- What evaluation finds in a result is found in the result that there is. -/
theorem exists_eq_ok_of_map {ε α β : Type} {x : Except ε α} {f : α → β} {b : β}
    (h : x.toOption.map f = some b) : ∃ a, x = .ok a ∧ f a = b := by
  cases x with
  | error e => cases h
  | ok a => exact ⟨a, rfl, Option.some.inj h⟩

/-! ### Templates -/

namespace Template

/-- A text that can be read as a template. -/
def Compiles (source : String) : Prop := ∃ t, compile source = .ok t

theorem source_of_compile {source : String} {t : Template} (h : compile source = .ok t) :
    t.source = source :=
  (compile_eq_ok_iff.1 h).1

theorem unknownTokens_eq_nil_iff {t : Template} {known : List String} :
    t.unknownTokens known = [] ↔ t.tokens ⊆ known := by
  rw [unknownTokens, List.eq_nil_iff_forall_not_mem]
  simp only [mem_firstOccurrences]
  simp [List.subset_def]

variable {α : Type} {resolver field : String} {known : List String} {template : α → Template}
  {compiled : Except TemplateError α}

theorem checked_eq_ok_iff {a : α} :
    checked resolver field known template compiled = .ok a ↔
      compiled = .ok a ∧ (template a).tokens ⊆ known := by
  cases compiled with
  | error e => simp [checked]
  | ok b =>
    have htokens : tokenIssues resolver field known (template b) = [] ↔
        (template b).tokens ⊆ known := by
      rw [tokenIssues, List.map_eq_nil_iff, unknownTokens_eq_nil_iff]
    rw [checked]
    split
    · next h =>
      have := htokens.1 h
      constructor
      · rintro ⟨⟩
        exact ⟨rfl, this⟩
      · rintro ⟨⟨⟩, -⟩
        rfl
    · next h =>
      simp only [reduceCtorEq, false_iff, not_and]
      rintro ⟨⟩ hknown
      exact h (htokens.2 hknown)

theorem exists_ok_of_issuesOf_checked
    (h : issuesOf (checked resolver field known template compiled) = []) :
    ∃ a, checked resolver field known template compiled = .ok a := by
  cases compiled with
  | error e => simp [checked, issuesOf] at h
  | ok b =>
    rw [checked] at h ⊢
    split at h
    · exact ⟨b, rfl⟩
    · next hne => exact absurd h hne

end Template

/-! ### URLs -/

namespace Urls

variable {e : Endpoints} {d : Descriptor}

theorem templateIssue?_eq_none_iff {field source : String} :
    templateIssue? field source = none ↔ Template.Compiles source := by
  rw [templateIssue?, Template.Compiles]
  cases Template.compile source with
  | ok t => simp
  | error e => simp

/-- The URLs that a descriptor may give. -/
def given (e : Endpoints) : List (Option String) :=
  [some e.baseUrl, e.selfLink, e.createUrl, e.updateUrl, e.deleteUrl, e.caiBaseUrl]

theorem exists_mem_templates_iff {source : String} :
    (∃ field, (field, source) ∈ templates e) ↔ some source ∈ given e := by
  simp [templates, given, exists_or, eq_comm]

theorem templateIssues_eq_nil_iff :
    templateIssues e = [] ↔ ∀ source, some source ∈ given e → Template.Compiles source := by
  rw [templateIssues, List.filterMap_eq_nil_iff]
  constructor
  · intro h source hsource
    obtain ⟨field, hmem⟩ := exists_mem_templates_iff.2 hsource
    exact templateIssue?_eq_none_iff.1 (h _ hmem)
  · rintro h ⟨field, source⟩ hmem
    exact templateIssue?_eq_none_iff.2 (h source (exists_mem_templates_iff.1 ⟨field, hmem⟩))

/-- **There are URLs** if all that are given can be read and that of the resource can be told. -/
theorem resolve_eq_ok_iff {urls : Urls} :
    resolve d = .ok urls ↔
      (∀ source, some source ∈ given d.endpoints → Template.Compiles source) ∧
        ∃ selfLink, selfLink? d.endpoints = some selfLink ∧
          urls = ofSelfLink d.name d.endpoints selfLink := by
  rw [← templateIssues_eq_nil_iff, resolve, issues]
  cases selfLink? d.endpoints with
  | none => simp
  | some selfLink =>
    cases templateIssues d.endpoints with
    | nil => simp [eq_comm]
    | cons issue rest => simp

end Urls

/-! ### Identities -/

namespace Identity

variable {d : Descriptor} {known : List String}

/-- The import format that a text stands for, if it needs known fields only. -/
def FormatOf (known : List String) (source : String) (f : ImportFormat) : Prop :=
  ImportFormat.compile source = .ok f ∧ f.template.tokens ⊆ known

theorem checkedFormat_eq_ok_iff {source : String} {position : Nat} {f : ImportFormat} :
    checkedFormat known source position = .ok f ↔ FormatOf known source f :=
  Template.checked_eq_ok_iff

theorem source_of_formatOf {source : String} {f : ImportFormat} (h : FormatOf known source f) :
    f.template.source = source :=
  Template.source_of_compile (ImportFormat.compile_eq_ok_iff.1 h.1).1

theorem checkedFormats_eq_ok_iff {sources : List String} {position : Nat}
    {formats : List ImportFormat} :
    (((sources.zipIdx position).map fun (source, i) => checkedFormat known source i).flatMap
        issuesOf = [] ∧
      ((sources.zipIdx position).map fun (source, i) => checkedFormat known source i).filterMap
        (·.toOption) = formats) ↔
      List.Forall₂ (FormatOf known) sources formats := by
  induction sources generalizing position formats with
  | nil => simp [eq_comm]
  | cons source rest ih =>
    simp only [List.zipIdx_cons, List.map_cons, List.flatMap_cons, List.append_eq_nil_iff,
      List.filterMap_cons]
    constructor
    · rintro ⟨⟨hfirst, hrest⟩, hformats⟩
      -- a format without issues is one that was compiled
      obtain ⟨f, hf⟩ := Template.exists_ok_of_issuesOf_checked hfirst
      have hf : checkedFormat known source position = .ok f := hf
      rw [hf] at hformats
      subst hformats
      exact .cons (checkedFormat_eq_ok_iff.1 hf) (ih.1 ⟨hrest, rfl⟩)
    · rintro (_ | ⟨hf, hrest⟩)
      obtain ⟨hissues, hformats⟩ := (@ih (position + 1) _).2 hrest
      rw [checkedFormat_eq_ok_iff.2 hf]
      exact ⟨⟨rfl, hissues⟩, congrArg _ hformats⟩

theorem map_source_of_forall₂ {sources : List String} {formats : List ImportFormat}
    (h : List.Forall₂ (FormatOf known) sources formats) :
    formats.map (fun f => f.template.source) = sources := by
  induction h with
  | nil => rfl
  | cons hf _ ih => rw [List.map_cons, ih, source_of_formatOf hf]

theorem checkedIdFormat_eq_ok_iff {t : Template} :
    checkedIdFormat d = .ok t ↔
      Template.compile (idTemplate d) = .ok t ∧ t.tokens ⊆ d.identityFields :=
  Template.checked_eq_ok_iff

/-- **There is an identity** if its fields are in order, the id template is fit for use, and so is
each import format. -/
theorem resolve_eq_ok_iff {identity : Identity} :
    resolve d = .ok identity ↔
      (fieldIssues d.declaredNames [] d.identityFields = [] ∧ nestedIssues d = [] ∧
        excludedImportIssues d = []) ∧
      identity.fields = d.identityFields ∧ checkedIdFormat d = .ok identity.idFormat ∧
      List.Forall₂ (FormatOf d.identityFields) (consideredFormats d) identity.importFormats := by
  obtain ⟨fields, idFormat, formats⟩ := identity
  rw [← @checkedFormats_eq_ok_iff d.identityFields _ 0]
  change _ ↔ _ ∧ _ ∧ _ ∧ (checkedFormats d).flatMap issuesOf = [] ∧
    (checkedFormats d).filterMap (·.toOption) = formats
  cases hid : checkedIdFormat d with
  | error found => simp [resolve, hid]
  | ok t =>
    rw [resolve, hid]
    have hissues : issues d = [] ↔ ((fieldIssues d.declaredNames [] d.identityFields = [] ∧
        nestedIssues d = []) ∧ excludedImportIssues d = []) ∧
        (checkedFormats d).flatMap issuesOf = [] := by
      simp only [issues, hid, issuesOf, List.append_eq_nil_iff, and_true]
    split
    · next h he =>
      cases he
      obtain ⟨⟨⟨hfields, hnested⟩, hexcluded⟩, hformats⟩ := hissues.1 h
      simp [hfields, hnested, hexcluded, hformats, eq_comm]
    · next h =>
      simp only [reduceCtorEq, false_iff]
      rintro ⟨⟨hfields, hnested, hexcluded⟩, -, -, hformats, -⟩
      exact h _ (hissues.2 ⟨⟨⟨hfields, hnested⟩, hexcluded⟩, hformats⟩) rfl

end Identity

/-! ### States -/

theorem StateUpgrades.resolve_eq_ok_iff {strict : Bool} {d : Descriptor} {state : StateUpgrades} :
    resolve strict d = .ok state ↔
      issues strict d.stateRules = [] ∧ state = ofRules d.stateRules := by
  rw [resolve]
  split
  · next h => simp [h, eq_comm]
  · next h =>
    simp only [reduceCtorEq, false_iff]
    rintro ⟨hnil, -⟩
    exact h hnil

/-! ### Plans -/

namespace Plan

variable {mode : ResolverMode} {d d' : Descriptor} {p : Plan}

/-- **There is a plan** if every part has a result and the policy has no issue. -/
theorem resolve_eq_ok_iff :
    resolve mode d = .ok p ↔ ∃ urls identity mutex state,
      Urls.resolve d = .ok urls ∧ Identity.resolve d = .ok identity ∧
      Lock.resolve d d.identityFields = .ok mutex ∧
      StateUpgrades.resolve mode.strict d = .ok state ∧
      LifecyclePolicy.issues mode.hooks d = [] ∧
      p = assemble mode d urls identity mutex state := by
  rw [resolve]
  split
  · next urls identity mutex state h =>
    simp only [parts, Parts.mk.injEq] at h
    obtain ⟨hurls, hidentity, hmutex, hstate, hpolicy⟩ := h
    simp [hurls, hidentity, hmutex, hstate, hpolicy, eq_comm]
  · next h =>
    simp only [reduceCtorEq, false_iff]
    rintro ⟨urls, identity, mutex, state, hurls, hidentity, hmutex, hstate, hpolicy, -⟩
    exact h urls identity mutex state (by simp [parts, *])

/-- A plan holds the results of the parts. -/
theorem parts_of_resolve (h : resolve mode d = .ok p) :
    Urls.resolve d = .ok p.urls ∧ Identity.resolve d = .ok p.identity ∧
      Lock.resolve d d.identityFields = .ok p.mutex ∧
      StateUpgrades.resolve mode.strict d = .ok p.state := by
  obtain ⟨urls, identity, mutex, state, hurls, hidentity, hmutex, hstate, -, rfl⟩ :=
    resolve_eq_ok_iff.1 h
  exact ⟨hurls, hidentity, hmutex, hstate⟩

theorem resource_of_resolve (h : resolve mode d = .ok p) : p.resource = d.name := by
  obtain ⟨_, _, _, _, -, -, -, -, -, rfl⟩ := resolve_eq_ok_iff.1 h
  rfl

/-- Descriptors that agree part by part have the same plan or the same issues. -/
theorem resolve_congr (hparts : parts mode d' = parts mode d)
    (hassemble : assemble mode d' = assemble mode d) : resolve mode d' = resolve mode d := by
  rw [resolve, resolve, hparts, hassemble]

/-! ### Plans on a machine with limits -/

/-- Where nothing is too much for the machine, it gives the plan or the issues. -/
theorem attempt_of_overload?_eq_none (h : StateUpgrades.overload? d.stateRules = none) :
    attempt mode d = (resolve mode d).mapError (.unresolved d.name) := by
  rw [attempt, h]

theorem attempt_of_overload?_eq_some {cause : Overload}
    (h : StateUpgrades.overload? d.stateRules = some cause) :
    attempt mode d = .error (.overloaded cause) := by
  rw [attempt, h]

theorem attempt_eq_ok_iff :
    attempt mode d = .ok p ↔
      StateUpgrades.overload? d.stateRules = none ∧ resolve mode d = .ok p := by
  cases h : StateUpgrades.overload? d.stateRules with
  | some cause => simp [attempt_of_overload?_eq_some h]
  | none =>
    rw [attempt_of_overload?_eq_none h]
    cases resolve mode d <;> simp [Except.mapError]

theorem attempt_eq_unresolved_iff {name : String} {issues : List Issue} :
    attempt mode d = .error (.unresolved name issues) ↔
      StateUpgrades.overload? d.stateRules = none ∧ name = d.name ∧
        resolve mode d = .error issues := by
  cases h : StateUpgrades.overload? d.stateRules with
  | some cause => simp [attempt_of_overload?_eq_some h]
  | none =>
    rw [attempt_of_overload?_eq_none h]
    cases resolve mode d <;> simp [Except.mapError, eq_comm]

theorem attempt_eq_overloaded_iff {cause : Overload} :
    attempt mode d = .error (.overloaded cause) ↔
      StateUpgrades.overload? d.stateRules = some cause := by
  cases h : StateUpgrades.overload? d.stateRules with
  | some found => simp [attempt_of_overload?_eq_some h]
  | none =>
    rw [attempt_of_overload?_eq_none h]
    cases resolve mode d <;> simp [Except.mapError]

end Plan

end CrudPlan
