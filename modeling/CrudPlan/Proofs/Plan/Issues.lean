import CrudPlan.Batch
import CrudPlan.Proofs.Plan.Resolution

/-!
# What is reported of a descriptor without a plan

Every part of the resolution runs to its end and has either a result or at least one issue. So a
descriptor is refused exactly if some part has an issue, and it is told of all of them.

* `Explained` is what holds of every part: without a result there is an issue. For each part there
  is a lemma that lists its issues, and one that it is explained;
* `Plan.resolve_eq_error_iff`: a descriptor has no plan if the issues of its parts, taken together,
  are not none, and these are reported then;
* `Plan.resolve_reports_all` adds who is told, and what a plan has from the parts.
-/

namespace CrudPlan

/-! ### Results and issues -/

section Explained

variable {α β : Type} {x : Resolved α}

/-- There is a result, or an issue that stands in its way. -/
def Explained (x : Resolved α) : Prop := x ≠ .error []

theorem exists_ok_of_explained (hx : Explained x) (h : issuesOf x = []) : ∃ a, x = .ok a := by
  cases x with
  | ok a => exact ⟨a, rfl⟩
  | error found =>
    have hnil : found = [] := h
    exact absurd (congrArg Except.error hnil) hx

theorem explained_error {found : List Issue} (h : found ≠ []) :
    Explained (.error found : Resolved α) := by
  rintro ⟨⟩
  exact h rfl

theorem issuesOf_map (f : α → β) (x : Resolved α) : issuesOf (x.map f) = issuesOf x := by
  cases x <;> rfl

theorem Explained.map (f : α → β) (hx : Explained x) : Explained (x.map f) := by
  cases x with
  | ok a => rintro ⟨⟩
  | error found => exact explained_error fun hnil => hx (congrArg Except.error hnil)

end Explained

/-! ### The parts -/

theorem Template.explained_checked {α : Type} {resolver field : String} {known : List String}
    {template : α → Template} {compiled : Except TemplateError α} :
    Explained (checked resolver field known template compiled) := by
  intro h
  obtain ⟨a, ha⟩ := exists_ok_of_issuesOf_checked (congrArg issuesOf h)
  rw [ha] at h
  cases h

namespace Urls

variable {d : Descriptor}

/-- Without issues the URL of the resource can be told. -/
theorem isSome_selfLink?_of_issues {e : Endpoints} (h : issues e = []) : (selfLink? e).isSome := by
  have hself := (List.append_eq_nil_iff.1 h).2
  by_contra hnone
  rw [if_neg hnone] at hself
  exact List.cons_ne_nil _ _ hself

theorem issuesOf_resolve : issuesOf (resolve d) = issues d.endpoints := by
  rw [resolve]
  split
  · next h _ => exact h.symm
  · rfl

theorem explained_resolve : Explained (resolve d) := by
  rw [resolve]
  split
  · rintro ⟨⟩
  · next h =>
    apply explained_error
    intro hnil
    -- an open URL would have been an issue
    obtain ⟨selfLink, hself⟩ := Option.isSome_iff_exists.1 (isSome_selfLink?_of_issues hnil)
    exact h selfLink hnil hself

end Urls

namespace Identity

variable {d : Descriptor}

theorem issuesOf_resolve : issuesOf (resolve d) = issues d := by
  rw [resolve]
  split
  · next h _ => exact h.symm
  · rfl

/-- The issues of the id template are among those of the identity, so it is fit for use if there are
none. -/
theorem exists_checkedIdFormat_of_issues (h : issues d = []) : ∃ t, checkedIdFormat d = .ok t := by
  simp only [issues, List.append_eq_nil_iff] at h
  obtain ⟨⟨⟨-, hid⟩, -⟩, -⟩ := h
  exact exists_ok_of_explained Template.explained_checked hid

theorem explained_resolve : Explained (resolve d) := by
  rw [resolve]
  split
  · rintro ⟨⟩
  · next h =>
    apply explained_error
    intro hnil
    obtain ⟨t, ht⟩ := exists_checkedIdFormat_of_issues hnil
    exact h t hnil ht

end Identity

theorem Lock.explained_resolve {d : Descriptor} {known : List String} :
    Explained (resolve d known) := by
  rw [resolve]
  split
  · rintro ⟨⟩
  · exact Template.explained_checked.map _

namespace StateUpgrades

variable {strict : Bool} {d : Descriptor}

theorem issuesOf_resolve : issuesOf (resolve strict d) = issues strict d.stateRules := by
  rw [resolve]
  split
  · next h => exact h.symm
  · rfl

theorem explained_resolve : Explained (resolve strict d) := by
  rw [resolve]
  split
  · rintro ⟨⟩
  · next h => exact explained_error h

end StateUpgrades

/-! ### Plans -/

namespace Plan

variable {mode : ResolverMode} {d : Descriptor} {p : Plan}

/-- A plan has the results that the parts give by themselves, and no part has an issue. -/
structure MadeOfParts (mode : ResolverMode) (d : Descriptor) (p : Plan) : Prop where
  urls : Urls.resolve d = .ok p.urls
  identity : Identity.resolve d = .ok p.identity
  mutex : Lock.resolve d d.identityFields = .ok p.mutex
  state : StateUpgrades.resolve mode.strict d = .ok p.state
  policy : LifecyclePolicy.issues mode.hooks d = []

theorem madeOfParts_of_resolve (h : resolve mode d = .ok p) : p.MadeOfParts mode d := by
  obtain ⟨urls, identity, mutex, state, hurls, hidentity, hmutex, hstate, hpolicy, rfl⟩ :=
    resolve_eq_ok_iff.1 h
  exact ⟨hurls, hidentity, hmutex, hstate, hpolicy⟩

theorem MadeOfParts.issues_parts (h : p.MadeOfParts mode d) : (parts mode d).issues = [] := by
  simp [Parts.issues, parts, h.urls, h.identity, h.mutex, h.state, h.policy, issuesOf]

/-- If no part has an issue, there is a plan. -/
theorem exists_resolve_of_issues_parts (h : (parts mode d).issues = []) :
    ∃ p, resolve mode d = .ok p := by
  simp only [Parts.issues, parts, List.append_eq_nil_iff] at h
  obtain ⟨⟨⟨⟨hurls, hidentity⟩, hmutex⟩, hstate⟩, hpolicy⟩ := h
  obtain ⟨urls, hurls⟩ := exists_ok_of_explained Urls.explained_resolve hurls
  obtain ⟨identity, hidentity⟩ := exists_ok_of_explained Identity.explained_resolve hidentity
  obtain ⟨mutex, hmutex⟩ := exists_ok_of_explained Lock.explained_resolve hmutex
  obtain ⟨state, hstate⟩ := exists_ok_of_explained StateUpgrades.explained_resolve hstate
  exact ⟨_, resolve_eq_ok_iff.2
    ⟨urls, identity, mutex, state, hurls, hidentity, hmutex, hstate, hpolicy, rfl⟩⟩

/-- Whether there is a plan or not, the issues are those of all parts. -/
theorem issuesOf_resolve : issuesOf (resolve mode d) = (parts mode d).issues := by
  cases h : resolve mode d with
  | ok p => exact (madeOfParts_of_resolve h).issues_parts.symm
  | error found =>
    rw [resolve] at h
    split at h
    · cases h
    · cases h
      rfl

/-- **A descriptor is refused for the issues of its parts**, if there are any. -/
theorem resolve_eq_error_iff {found : List Issue} :
    resolve mode d = .error found ↔ found ≠ [] ∧ found = (parts mode d).issues := by
  constructor
  · intro h
    have hissues : found = (parts mode d).issues := by rw [← issuesOf_resolve, h, issuesOf]
    refine ⟨?_, hissues⟩
    rintro rfl
    obtain ⟨p, hp⟩ := exists_resolve_of_issues_parts hissues.symm
    rw [hp] at h
    cases h
  · rintro ⟨hne, hissues⟩
    cases h : resolve mode d with
    | ok p => exact absurd (hissues.trans (madeOfParts_of_resolve h).issues_parts) hne
    | error other => rw [hissues, ← issuesOf_resolve, h, issuesOf]

/-- **All issues, or a whole plan.** A descriptor that is refused is told under its own name of the
issues of every part, in order, and there is at least one. A plan has what the parts give by
themselves, and none of them has an issue. No part ever fails without an issue. A machine with
limits reports no other issues, under no other name, and gives no other plan. -/
theorem resolve_reports_all (mode : ResolverMode) (d : Descriptor) :
    (∀ found, resolve mode d = .error found ↔
      found ≠ [] ∧
      found = issuesOf (Urls.resolve d) ++ issuesOf (Identity.resolve d) ++
        issuesOf (Lock.resolve d d.identityFields) ++
        issuesOf (StateUpgrades.resolve mode.strict d) ++ LifecyclePolicy.issues mode.hooks d) ∧
    (∀ found, resolve mode d = .error found →
      Batch.outcome mode d = .failed ⟨d.name, .unresolved (some d.name) found⟩) ∧
    (∀ p, resolve mode d = .ok p → p.MadeOfParts mode d) ∧
    (∀ name found, attempt mode d = .error (.unresolved name found) →
      name = d.name ∧ resolve mode d = .error found) ∧
    (∀ p, attempt mode d = .ok p → resolve mode d = .ok p) ∧
    Explained (Urls.resolve d) ∧ Explained (Identity.resolve d) ∧
    (∀ known, Explained (Lock.resolve d known)) ∧
    ∀ strict, Explained (StateUpgrades.resolve strict d) := by
  have houtcome : ∀ found, resolve mode d = .error found →
      Batch.outcome mode d = .failed ⟨d.name, .unresolved (some d.name) found⟩ := by
    intro found h
    rw [Batch.outcome, h]
  exact ⟨fun _ => resolve_eq_error_iff, houtcome, fun _ => madeOfParts_of_resolve,
    fun _ _ h => (attempt_eq_unresolved_iff.1 h).2, fun _ h => (attempt_eq_ok_iff.1 h).2,
    Urls.explained_resolve, Identity.explained_resolve, fun _ => Lock.explained_resolve,
    fun _ => StateUpgrades.explained_resolve⟩

end Plan

end CrudPlan
