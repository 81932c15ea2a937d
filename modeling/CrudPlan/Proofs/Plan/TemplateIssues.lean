import Mathlib.Data.List.Nodup
import CrudPlan.Proofs.Plan.Acceptance
import CrudPlan.Proofs.Plan.Issues
import CrudPlan.Proofs.Template.Uses

/-!
# Which template an issue is about

The issues of a descriptor are collected in one list, part by part. An issue names the field that it
is about, and this file says that nothing more is needed to tell the issues of one template from
those of the others.

* `Descriptor.Uses`: the templates of a descriptor with their fields. These are the URLs that are
  given, the id template, the import formats to compile and the lock;
* `IssueGroup` divides the list of all issues, and `IssueGroup.ofField` finds the division of a
  field. By `Plan.about_resolve` no other division has issues with this field;
* `Plan.issues_template_by_template`: the issues that name the field of a template are those that
  this template has by itself, and every issue about a template names such a field.

The proof: every issue lies in the division of its field (`Plan.holds_of_mem_issuesIn`), so the
issues of a field are those of one division. Within a division the templates are told apart by their
fields again, as no URL has the field of another and no two positions are written alike.
-/

namespace CrudPlan

/-! ### Issues of a field -/

/-- The issues that name a field. -/
def about (field : String) (issues : List Issue) : List Issue := issues.filter (·.field == field)

section About

variable {field : String} {issues more : List Issue}

theorem about_append : about field (issues ++ more) = about field issues ++ about field more :=
  List.filter_append ..

theorem about_eq_nil (h : ∀ i ∈ issues, i.field ≠ field) : about field issues = [] :=
  List.filter_eq_nil_iff.2 fun i hi => by simpa using h i hi

theorem about_eq_self (h : ∀ i ∈ issues, i.field = field) : about field issues = issues :=
  List.filter_eq_self.2 fun i hi => by simpa using h i hi

/-- If only one of several lists has issues with a field, the others do not matter. -/
theorem about_flatMap {β : Type} {l : List β} {list : β → List Issue} {b : β} (hnodup : l.Nodup)
    (hb : b ∈ l) (hothers : ∀ c ∈ l, c ≠ b → about field (list c) = []) :
    about field (l.flatMap list) = about field (list b) := by
  -- both what stands before `b` and what stands after it is such a part
  have hnone : ∀ part : List β, (∀ c ∈ part, c ∈ l ∧ c ≠ b) →
      about field (part.flatMap list) = [] := by
    intro part hpart
    rw [about, List.filter_flatMap, List.flatMap_eq_nil_iff]
    exact fun c hc => hothers c (hpart c hc).1 (hpart c hc).2
  obtain ⟨before, after, rfl⟩ := List.append_of_mem hb
  obtain ⟨-, hafter, hdisjoint⟩ := List.nodup_append.1 hnodup
  have hbefore := hnone before fun c hc =>
    ⟨List.mem_append_left _ hc, hdisjoint c hc b List.mem_cons_self⟩
  have hafter := hnone after fun c hc =>
    ⟨List.mem_append_right _ (List.mem_cons_of_mem _ hc),
      fun he => (List.nodup_cons.1 hafter).1 (he ▸ hc)⟩
  rw [List.flatMap_append, List.flatMap_cons, about_append, about_append, hbefore, hafter,
    List.nil_append, List.append_nil]

/-- The same for lists that are told apart by a key. -/
theorem about_flatMap_of_keys {β : Type} {l : List β} {list : β → List Issue} {key : β → String}
    {b : β} (hkeys : (l.map key).Nodup) (hfields : ∀ c, ∀ i ∈ list c, i.field = key c)
    (hb : b ∈ l) : about (key b) (l.flatMap list) = list b := by
  have hothers : ∀ c ∈ l, c ≠ b → about (key b) (list c) = [] := by
    intro c hc hne
    have hkey : key c ≠ key b := fun he => hne (List.inj_on_of_nodup_map hkeys hc hb he)
    exact about_eq_nil fun i hi => (hfields c i hi).trans_ne hkey
  rw [about_flatMap (List.Nodup.of_map key hkeys) hb hothers]
  exact about_eq_self (hfields b)

end About

theorem Template.field_of_mem_checked {α : Type} {resolver field : String} {known : List String}
    {template : α → Template} {compiled : Except TemplateError α} {i : Issue}
    (hi : i ∈ issuesOf (checked resolver field known template compiled)) : i.field = field := by
  rw [issuesOf_checked] at hi
  cases compiled with
  | error e =>
    rw [List.mem_singleton.1 hi]
  | ok a =>
    obtain ⟨token, -, rfl⟩ := List.mem_map.1 hi
    rfl

/-! ### Templates of a descriptor -/

/-- The URLs that are given, with their fields. -/
inductive Endpoints.Gives (e : Endpoints) : String → String → Prop
  | baseUrl : Gives e "base_url" e.baseUrl
  | selfLink {url : String} (h : e.selfLink = some url) : Gives e "self_link" url
  | createUrl {url : String} (h : e.createUrl = some url) : Gives e "create_url" url
  | updateUrl {url : String} (h : e.updateUrl = some url) : Gives e "update_url" url
  | deleteUrl {url : String} (h : e.deleteUrl = some url) : Gives e "delete_url" url
  | caiBaseUrl {url : String} (h : e.caiBaseUrl = some url) : Gives e "cai_base_url" url

namespace Identity

/-- The field of an import format. -/
def formatField (position : Nat) : String := "import_format[" ++ toString position ++ "]"

/-- The import formats to compile, with their positions: those given, else the id template if it is
fit for use, and none of a resource that cannot be imported. -/
inductive Considers (d : Descriptor) : Nat → String → Prop
  | given {position : Nat} {source : String} (hexclude : d.lifecycle.excludeImport = false)
      (h : d.identityRules.importFormat[position]? = some source) : Considers d position source
  | default (hexclude : d.lifecycle.excludeImport = false)
      (hnone : d.identityRules.importFormat = [])
      (hfit : Template.CompilesOver d.identityFields (idTemplate d)) :
      Considers d 0 (idTemplate d)

end Identity

/-- The templates of a descriptor. A URL has to be readable only; the others may name fields of the
identity, and an import format names each at most once. -/
inductive Descriptor.Uses (d : Descriptor) : TemplateUse → Prop
  | url {field source : String} (h : d.endpoints.Gives field source) :
      Uses d { resolver := Urls.resolver, field := field, source := source }
  | idFormat :
      Uses d {
        resolver := Identity.resolver
        field := "id_format"
        source := Identity.idTemplate d
        known := some d.identityFields }
  | importFormat {position : Nat} {source : String} (h : Identity.Considers d position source) :
      Uses d {
        resolver := Identity.resolver
        field := Identity.formatField position
        source := source
        known := some d.identityFields
        once := true }
  | mutex {source : String} (h : d.mutex = some source) :
      Uses d {
        resolver := Lock.resolver
        field := "mutex"
        source := source
        known := some d.identityFields }

/-! ### Groups of issues -/

/-- The divisions of the list of all issues. -/
inductive IssueGroup where
  | urls
  | identity
  | idFormat
  | excludedImport
  | importFormats
  | mutex
  | rest
  deriving DecidableEq

namespace IssueGroup

/-- Every division, in order. -/
def all : List IssueGroup :=
  [.urls, .identity, .idFormat, .excludedImport, .importFormats, .mutex, .rest]

theorem nodup_all : all.Nodup := by decide

theorem mem_all (g : IssueGroup) : g ∈ all := by
  cases g <;> decide

/-- The divisions of all fields but those of import formats. -/
def table : List (String × IssueGroup) := [
  ("base_url", .urls), ("self_link", .urls), ("create_url", .urls), ("update_url", .urls),
  ("delete_url", .urls), ("cai_base_url", .urls), ("identity", .identity),
  ("id_format", .idFormat), ("import_format", .excludedImport), ("mutex", .mutex),
  ("state_upgrade_base_schema_version", .rest), ("migrate_state", .rest),
  ("schema_version", .rest), ("exclude_resource", .rest), ("error_retry_predicates", .rest),
  ("error_abort_predicates", .rest), ("custom_diff", .rest), ("read_error_transform", .rest)]

/-- The division of a field. -/
def ofField (field : String) : IssueGroup := (table.lookup field).getD .importFormats

/-- No other field ends in a bracket. -/
theorem ofField_formatField (position : Nat) :
    ofField (Identity.formatField position) = .importFormats := by
  -- the digits of the position are out of the way if names are told apart by their ends
  have hlast : (Identity.formatField position).toList.getLast? = some ']' := by
    simp [Identity.formatField, List.getLast?_cons]
  have hothers : ∀ entry ∈ table, entry.1.toList.getLast? ≠ some ']' := by decide
  have hnone : table.lookup (Identity.formatField position) = none := by
    rw [List.lookup_eq_none_iff]
    intro entry hentry
    simp only [bne_iff_ne, ne_eq]
    rintro he
    exact hothers entry hentry (he ▸ hlast)
  rw [ofField, hnone, Option.getD_none]

end IssueGroup

theorem Identity.formatField_injective : Function.Injective formatField := by
  intro m n h
  have hdigits : Nat.toDigits 10 m = Nat.toDigits 10 n := by
    simpa [formatField] using congrArg String.toList h
  have hvalue := congrArg (Nat.ofDigitChars 10 · 0) hdigits
  simpa only [Nat.ofDigitChars_ten_toDigits] using hvalue

namespace Urls

variable {e : Endpoints} {field source : String}

theorem mem_templates_iff : (field, source) ∈ templates e ↔ e.Gives field source := by
  constructor
  · intro h
    simp only [templates, List.mem_filterMap, List.mem_cons, List.not_mem_nil, or_false] at h
    obtain ⟨slot, hslot, hurl⟩ := h
    rcases hslot with rfl | rfl | rfl | rfl | rfl | rfl <;>
      obtain ⟨url, hgiven, ⟨⟩⟩ := Option.map_eq_some_iff.1 hurl
    · cases hgiven
      exact .baseUrl
    · exact .selfLink hgiven
    · exact .createUrl hgiven
    · exact .updateUrl hgiven
    · exact .deleteUrl hgiven
    · exact .caiBaseUrl hgiven
  · intro h
    cases h <;> simp [templates, *]

/-- The fields of the URLs that are given keep their order. -/
theorem fields_sublist (slots : List (String × Option String)) :
    ((slots.filterMap fun (field, url) => url.map (field, ·)).map Prod.fst).Sublist
      (slots.map Prod.fst) := by
  induction slots with
  | nil => exact .slnil
  | cons slot rest ih =>
    obtain ⟨field, url⟩ := slot
    cases url with
    | none => exact ih.cons _
    | some source => exact ih.cons_cons _

/-- No two templates stand in one field. -/
theorem nodup_fields_templates : ((templates e).map Prod.fst).Nodup := by
  rw [templates]
  exact (fields_sublist _).nodup (by simp)

theorem templateIssues_eq_flatMap :
    templateIssues e =
      (templates e).flatMap fun (field, source) => (templateIssue? field source).toList :=
  List.filterMap_eq_flatMap_toList ..

theorem field_of_mem_templateIssue? {i : Issue} (hi : i ∈ (templateIssue? field source).toList) :
    i.field = field := by
  rw [templateIssue?] at hi
  split at hi
  · cases hi
  · rw [Option.toList_some, List.mem_singleton] at hi
    rw [hi]

/-- A URL has to be readable, and that is all. -/
theorem reported_templateIssue? (field source : String) :
    TemplateUse.Reported { resolver := resolver, field := field, source := source }
      (templateIssue? field source).toList := by
  rw [templateIssue?]
  cases ht : Template.compile source with
  | error e => exact .unreadable ht
  | ok t =>
    have hallowed : Outsiders (TemplateUse.Allows
        { resolver := resolver, field := field, source := source }) t.tokens [] := by
      apply Outsiders.nil
      intro name _ known hknown
      cases hknown
    exact .readable ht Bool.noConfusion hallowed

/-- The URL of a resource is blamed only if it is not given. -/
theorem about_selfLink (h : e.Gives field source) :
    about field (if (selfLink? e).isSome then [] else [selfLinkIssue e]) = [] := by
  split
  · rfl
  · next hnone =>
    apply about_eq_nil
    intro i hi hfield
    rw [List.mem_singleton.1 hi] at hfield
    have hfield : "self_link" = field := hfield
    cases h with
    | selfLink hself => simp [selfLink?, hself] at hnone
    | _ => exact absurd hfield (by decide)

theorem about_issues (h : e.Gives field source) :
    about field (issues e) = (templateIssue? field source).toList := by
  rw [issues, about_append, about_selfLink h, List.append_nil, templateIssues_eq_flatMap]
  exact about_flatMap_of_keys (b := (field, source)) nodup_fields_templates
    (fun _ _ hi => field_of_mem_templateIssue? hi) (mem_templates_iff.2 h)

end Urls

namespace Identity

variable {d : Descriptor} {position : Nat} {source : String}

theorem considers_iff :
    Considers d position source ↔ (consideredFormats d)[position]? = some source := by
  rw [consideredFormats]
  cases hexclude : d.lifecycle.excludeImport with
  | true =>
    simp only [if_pos, List.getElem?_nil, reduceCtorEq, iff_false]
    rintro (⟨hincluded, -⟩ | ⟨hincluded, -, -⟩) <;> simp [hexclude] at hincluded
  | false =>
    rw [if_neg Bool.false_ne_true]
    cases hformats : d.identityRules.importFormat with
    | cons first rest =>
      rw [if_neg (by simp)]
      constructor
      · rintro (⟨-, h⟩ | ⟨-, hnone, -⟩)
        · rwa [hformats] at h
        · rw [hformats] at hnone
          cases hnone
      · intro h
        exact .given hexclude (hformats ▸ h)
    | nil =>
      rw [if_pos List.isEmpty_nil]
      -- no formats are given, so it depends on the id template
      cases hid : checkedIdFormat d with
      | ok t =>
        have hfit : Template.CompilesOver d.identityFields (idTemplate d) :=
          ⟨t, checkedIdFormat_eq_ok_iff.1 hid⟩
        constructor
        · rintro (⟨-, h⟩ | -)
          · simp [hformats] at h
          · rfl
        · intro h
          obtain ⟨hzero, rfl⟩ : position = 0 ∧ idTemplate d = source := by
            simpa [List.getElem?_singleton] using h
          rw [hzero]
          exact .default hexclude hformats hfit
      | error found =>
        simp only [List.getElem?_nil, reduceCtorEq, iff_false]
        rintro (⟨-, h⟩ | ⟨-, -, t, ht⟩)
        · simp [hformats] at h
        · rw [checkedIdFormat_eq_ok_iff.2 ht] at hid
          cases hid

theorem about_excludedImportIssues : about "import_format" (excludedImportIssues d) =
    if d.lifecycle.excludeImport ∧ d.identityRules.importFormat ≠ [] then
      [issue .conflictingOverride "import_format"
        "import_format cannot be set when exclude_import is true"]
    else [] := by
  simp only [excludedImportIssues, List.isEmpty_iff]
  apply about_eq_self
  intro i hi
  split at hi
  · rw [List.mem_singleton.1 hi]
    rfl
  · cases hi

/-- The import formats to compile, with the lists of their issues. -/
theorem issues_checkedFormats :
    (checkedFormats d).flatMap issuesOf =
      (consideredFormats d).zipIdx.flatMap fun (source, position) =>
        issuesOf (checkedFormat d.identityFields source position) := by
  rw [checkedFormats, List.flatMap_map]

theorem field_of_mem_checkedFormat {known : List String} {i : Issue}
    (hi : i ∈ issuesOf (checkedFormat known source position)) : i.field = formatField position :=
  Template.field_of_mem_checked hi

theorem about_formatField (h : Considers d position source) :
    about (formatField position) ((checkedFormats d).flatMap issuesOf) =
      issuesOf (checkedFormat d.identityFields source position) := by
  have hkeys : ((consideredFormats d).zipIdx.map fun entry => formatField entry.2).Nodup := by
    have hpositions : ((consideredFormats d).zipIdx.map Prod.snd).Nodup := by
      rw [List.zipIdx_map_snd]
      exact List.nodup_range'
    have hfields := hpositions.map formatField_injective
    rwa [List.map_map] at hfields
  have hmem : (source, position) ∈ (consideredFormats d).zipIdx :=
    List.mk_mem_zipIdx_iff_getElem?.2 (considers_iff.1 h)
  rw [issues_checkedFormats]
  exact about_flatMap_of_keys (b := (source, position)) hkeys
    (fun _ _ hi => field_of_mem_checkedFormat hi) hmem

end Identity

/-! ### Where an issue belongs -/

/-- An issue with a template. Identity fields that are not declared have the same kind of issue as
tokens that are no identity fields, but another field. -/
def Issue.IsAboutTemplate (i : Issue) : Prop :=
  i.kind = .malformedTemplate ∨ (i.kind = .unknownIdentityToken ∧ i.field ≠ "identity")

/-- An issue belongs to a division by its field, and if it is about a template, the descriptor has a
template in that field. -/
structure IssueGroup.Holds (d : Descriptor) (g : IssueGroup) (i : Issue) : Prop where
  field : ofField i.field = g
  template : i.IsAboutTemplate → ∃ u, d.Uses u ∧ u.field = i.field

section Holds

variable {d : Descriptor} {i : Issue}

/-- Most kinds of issues are never about a template. -/
theorem IssueGroup.holds_of_kind {g : IssueGroup} (kind : IssueKind) (hkind : i.kind = kind)
    (hfield : ofField i.field = g)
    (hother : kind ≠ .malformedTemplate ∧ kind ≠ .unknownIdentityToken) : g.Holds d i where
  field := hfield
  template := by
    rintro (hmalformed | ⟨hunknown, -⟩)
    · exact absurd (hkind.symm.trans hmalformed) hother.1
    · exact absurd (hkind.symm.trans hunknown) hother.2

theorem IssueGroup.holds_of_uses {g : IssueGroup} {u : TemplateUse} (hu : d.Uses u)
    (hfield : i.field = u.field) (hgroup : ofField u.field = g) : g.Holds d i where
  field := by rw [hfield, hgroup]
  template := fun _ => ⟨u, hu, hfield.symm⟩

theorem Urls.ofField_of_gives {e : Endpoints} {field source : String} (h : e.Gives field source) :
    IssueGroup.ofField field = .urls := by
  cases h <;> decide

theorem Urls.holds_of_mem (hi : i ∈ issues d.endpoints) : IssueGroup.urls.Holds d i := by
  rw [issues, templateIssues_eq_flatMap, List.mem_append] at hi
  rcases hi with hi | hi
  · obtain ⟨⟨field, source⟩, hmem, hi⟩ := List.mem_flatMap.1 hi
    have hgiven : d.endpoints.Gives field source := mem_templates_iff.1 hmem
    have hfield : i.field = field := field_of_mem_templateIssue? hi
    exact IssueGroup.holds_of_uses (.url hgiven) hfield (ofField_of_gives hgiven)
  · split at hi
    · cases hi
    · have hfield : IssueGroup.ofField "self_link" = .urls := by decide
      rw [List.mem_singleton.1 hi]
      exact IssueGroup.holds_of_kind .unresolvableUrl rfl hfield (by decide)

theorem Identity.holds_of_mem_fieldIssues {declared seen fields : List String}
    (hi : i ∈ fieldIssues declared seen fields) : IssueGroup.identity.Holds d i := by
  have hfield : IssueGroup.ofField "identity" = .identity := by decide
  induction fields generalizing seen with
  | nil => cases hi
  | cons name rest ih =>
    rw [fieldIssues, List.mem_append, List.mem_append] at hi
    rcases hi with (hi | hi) | hi
    · split at hi
      · rw [List.mem_singleton.1 hi]
        exact IssueGroup.holds_of_kind .conflictingOverride rfl hfield (by decide)
      · cases hi
    · split at hi
      · cases hi
      · rw [List.mem_singleton.1 hi]
        refine ⟨hfield, ?_⟩
        rintro (⟨⟨⟩⟩ | ⟨-, hne⟩)
        exact absurd rfl hne
    · exact ih hi

theorem Identity.holds_of_mem_nestedIssues (hi : i ∈ nestedIssues d) :
    IssueGroup.identity.Holds d i := by
  have hfield : IssueGroup.ofField "identity" = .identity := by decide
  rw [nestedIssues] at hi
  split at hi
  · rw [List.mem_singleton.1 hi]
    exact IssueGroup.holds_of_kind .conflictingOverride rfl hfield (by decide)
  · cases hi

theorem Identity.holds_of_mem_checkedIdFormat (hi : i ∈ issuesOf (checkedIdFormat d)) :
    IssueGroup.idFormat.Holds d i := by
  have hfield : i.field = "id_format" := Template.field_of_mem_checked hi
  have hgroup : IssueGroup.ofField "id_format" = .idFormat := by decide
  exact IssueGroup.holds_of_uses .idFormat hfield hgroup

theorem Identity.holds_of_mem_excludedImportIssues (hi : i ∈ excludedImportIssues d) :
    IssueGroup.excludedImport.Holds d i := by
  have hfield : IssueGroup.ofField "import_format" = .excludedImport := by decide
  rw [excludedImportIssues] at hi
  split at hi
  · rw [List.mem_singleton.1 hi]
    exact IssueGroup.holds_of_kind .conflictingOverride rfl hfield (by decide)
  · cases hi

theorem Identity.holds_of_mem_checkedFormats (hi : i ∈ (checkedFormats d).flatMap issuesOf) :
    IssueGroup.importFormats.Holds d i := by
  rw [issues_checkedFormats] at hi
  obtain ⟨⟨source, position⟩, hmem, hi⟩ := List.mem_flatMap.1 hi
  have hconsidered : Considers d position source :=
    considers_iff.2 (List.mk_mem_zipIdx_iff_getElem?.1 hmem)
  have hfield : i.field = formatField position := field_of_mem_checkedFormat hi
  exact IssueGroup.holds_of_uses (.importFormat hconsidered) hfield
    (IssueGroup.ofField_formatField position)

theorem Lock.issuesOf_resolve {known : List String} {source : String} (h : d.mutex = some source) :
    issuesOf (resolve d known) =
      issuesOf (Template.checked resolver "mutex" known id (Template.compile source)) := by
  rw [resolve, h]
  exact issuesOf_map _ _

theorem Lock.holds_of_mem {known : List String} (hi : i ∈ issuesOf (resolve d known)) :
    IssueGroup.mutex.Holds d i := by
  cases hmutex : d.mutex with
  | none =>
    rw [resolve, hmutex] at hi
    cases hi
  | some source =>
    rw [issuesOf_resolve hmutex] at hi
    have hfield : i.field = "mutex" := Template.field_of_mem_checked hi
    have hgroup : IssueGroup.ofField "mutex" = .mutex := by decide
    exact IssueGroup.holds_of_uses (.mutex hmutex) hfield hgroup

theorem StateUpgrades.holds_of_mem {strict : Bool} (hi : i ∈ issues strict d.stateRules) :
    IssueGroup.rest.Holds d i := by
  have hrange : IssueGroup.ofField "state_upgrade_base_schema_version" = .rest := by decide
  have hmigration : IssueGroup.ofField "migrate_state" = .rest := by decide
  have hempty : IssueGroup.ofField "schema_version" = .rest := by decide
  rw [issues, List.mem_append, List.mem_append] at hi
  rcases hi with (hi | hi) | hi
  · rw [rangeIssues] at hi
    split at hi
    · rw [List.mem_singleton.1 hi]
      exact IssueGroup.holds_of_kind .invalidStateVersionRange rfl hrange (by decide)
    · cases hi
  · rw [migrationIssues] at hi
    split at hi
    · rw [List.mem_singleton.1 hi]
      exact IssueGroup.holds_of_kind .conflictingOverride rfl hmigration (by decide)
    · cases hi
  · rw [emptyRangeIssues] at hi
    split at hi
    · obtain ⟨notice, -, rfl⟩ := List.mem_map.1 hi
      exact IssueGroup.holds_of_kind .invalidStateVersionRange rfl hempty (by decide)
    · cases hi

theorem LifecyclePolicy.holds_of_mem {hooks : Option HookRegistry} (hi : i ∈ issues hooks d) :
    IssueGroup.rest.Holds d i := by
  have hexclusion : IssueGroup.ofField "exclude_resource" = .rest := by decide
  have hhook : ∀ kind : HookKind, IssueGroup.ofField kind.field = .rest := by
    intro kind
    cases kind <;> decide
  rw [issues, List.mem_append] at hi
  rcases hi with hi | hi
  · rw [exclusionIssues] at hi
    split at hi
    · rw [List.mem_singleton.1 hi]
      exact IssueGroup.holds_of_kind .conflictingOverride rfl hexclusion (by decide)
    · cases hi
  · cases hooks with
    | none => cases hi
    | some registry =>
      obtain ⟨ref, -, hcomplaint⟩ := List.mem_filterMap.1 hi
      obtain ⟨message, -, rfl⟩ := Option.map_eq_some_iff.1 hcomplaint
      exact IssueGroup.holds_of_kind .unknownHook rfl (hhook ref.kind) (by decide)

end Holds

/-! ### Plans -/

namespace Plan

variable {mode : ResolverMode} {d : Descriptor}

/-- The issues in each division. -/
def issuesIn (mode : ResolverMode) (d : Descriptor) : IssueGroup → List Issue
  | .urls => Urls.issues d.endpoints
  | .identity => Identity.fieldIssues d.declaredNames [] d.identityFields ++ Identity.nestedIssues d
  | .idFormat => issuesOf (Identity.checkedIdFormat d)
  | .excludedImport => Identity.excludedImportIssues d
  | .importFormats => (Identity.checkedFormats d).flatMap issuesOf
  | .mutex => issuesOf (Lock.resolve d d.identityFields)
  | .rest => StateUpgrades.issues mode.strict d.stateRules ++ LifecyclePolicy.issues mode.hooks d

theorem issuesOf_resolve_eq_flatMap :
    issuesOf (resolve mode d) = IssueGroup.all.flatMap (issuesIn mode d) := by
  rw [issuesOf_resolve, Parts.issues]
  simp only [parts, Urls.issuesOf_resolve, Identity.issuesOf_resolve, Identity.issues,
    StateUpgrades.issuesOf_resolve, IssueGroup.all, List.flatMap_cons, List.flatMap_nil, issuesIn,
    List.append_assoc, List.append_nil]

theorem holds_of_mem_issuesIn {g : IssueGroup} {i : Issue} (hi : i ∈ issuesIn mode d g) :
    g.Holds d i := by
  cases g with
  | urls => exact Urls.holds_of_mem hi
  | identity =>
    rcases List.mem_append.1 hi with hi | hi
    · exact Identity.holds_of_mem_fieldIssues hi
    · exact Identity.holds_of_mem_nestedIssues hi
  | idFormat => exact Identity.holds_of_mem_checkedIdFormat hi
  | excludedImport => exact Identity.holds_of_mem_excludedImportIssues hi
  | importFormats => exact Identity.holds_of_mem_checkedFormats hi
  | mutex => exact Lock.holds_of_mem hi
  | rest =>
    rcases List.mem_append.1 hi with hi | hi
    · exact StateUpgrades.holds_of_mem hi
    · exact LifecyclePolicy.holds_of_mem hi

/-- The issues that name a field are in the division of the field. -/
theorem about_resolve {field : String} {g : IssueGroup} (hg : IssueGroup.ofField field = g) :
    about field (issuesOf (resolve mode d)) = about field (issuesIn mode d g) := by
  rw [issuesOf_resolve_eq_flatMap]
  refine about_flatMap IssueGroup.nodup_all g.mem_all fun other _ hne => ?_
  -- an issue that names the field lies in the division of the field, so this is no other one
  refine about_eq_nil fun i hi hfield => hne ?_
  rw [← (holds_of_mem_issuesIn hi).field, hfield, hg]

/-- The issues of a descriptor with its templates. -/
structure BlamesEach (d : Descriptor) (issues : List Issue) : Prop where
  /-- The issues that name the field of a template are those of this template by itself. -/
  each : ∀ u, d.Uses u → u.Reported (about u.field issues)
  /-- Every issue about a template names the field of one. -/
  only : ∀ i ∈ issues, i.IsAboutTemplate → ∃ u, d.Uses u ∧ u.field = i.field
  /-- Import formats of a resource that cannot be imported are one issue, whatever they are. -/
  excluded : about "import_format" issues =
    if d.lifecycle.excludeImport ∧ d.identityRules.importFormat ≠ [] then
      [Identity.issue .conflictingOverride "import_format"
        "import_format cannot be set when exclude_import is true"]
    else []

/-- **No template hides another or is blamed for it.** -/
theorem issues_template_by_template (mode : ResolverMode) (d : Descriptor) :
    BlamesEach d (issuesOf (resolve mode d)) where
  each := by
    intro u hu
    cases hu with
    | url hgiven =>
      rw [about_resolve (Urls.ofField_of_gives hgiven), issuesIn, Urls.about_issues hgiven]
      exact Urls.reported_templateIssue? _ _
    | idFormat =>
      have hgroup : IssueGroup.ofField "id_format" = .idFormat := by decide
      rw [about_resolve hgroup, issuesIn, Identity.checkedIdFormat,
        about_eq_self fun _ => Template.field_of_mem_checked]
      exact TemplateUse.reported_checked rfl rfl
    | importFormat hconsidered =>
      rw [about_resolve (IssueGroup.ofField_formatField _), issuesIn,
        Identity.about_formatField hconsidered]
      exact TemplateUse.reported_checkedFormat rfl rfl
    | mutex hmutex =>
      have hgroup : IssueGroup.ofField "mutex" = .mutex := by decide
      rw [about_resolve hgroup, issuesIn, Lock.issuesOf_resolve hmutex,
        about_eq_self fun _ => Template.field_of_mem_checked]
      exact TemplateUse.reported_checked rfl rfl
  only := by
    intro i hi
    rw [issuesOf_resolve_eq_flatMap] at hi
    obtain ⟨g, -, hi⟩ := List.mem_flatMap.1 hi
    exact (holds_of_mem_issuesIn hi).template
  excluded := by
    have hgroup : IssueGroup.ofField "import_format" = .excludedImport := by decide
    rw [about_resolve hgroup, issuesIn, Identity.about_excludedImportIssues]

end Plan

end CrudPlan
