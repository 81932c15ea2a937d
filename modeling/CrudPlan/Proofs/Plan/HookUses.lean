import CrudPlan.Proofs.Plan.Hooks

/-!
# The hooks of a plan

A descriptor names hooks in five fields, one for each kind. They are collected in one list, which is
checked, and its entries end up in five parts of the plan. On this way no hook is lost or invented,
and none gets another kind.

* `Descriptor.hookNames` are the names in the field of a kind, and `Plan.hooksOf` is the part of a
  plan that carries the hooks of a kind;
* `Plan.hooks` lists what all these parts carry;
* `LifecyclePolicy.hooksOf_eq`: the hooks of a kind, picked from the list of all, are those of the
  field of this kind;
* `Plan.hooks_of_resolve`: a plan carries what its descriptor names and what is checked.
-/

namespace CrudPlan

variable {mode : ResolverMode} {d : Descriptor} {p : Plan}

/-! ### Hooks by kind -/

namespace HookKind

/-- The kinds, in the order in which a descriptor declares their fields. -/
def declared : List HookKind :=
  [.migrateState, .retryPredicate, .abortPredicate, .customDiff, .readErrorTransform]

/-- The uses of hooks for a kind. -/
def uses (kind : HookKind) (names : List String) : List HookRef :=
  names.map fun name => ⟨name, kind⟩

theorem filter_uses (kind other : HookKind) (names : List String) :
    (other.uses names).filter (·.kind = kind) = if other = kind then other.uses names else [] := by
  split
  · next h => simp [uses, h]
  · next h => simp [uses, h]

end HookKind

/-- The hooks that a descriptor names for a kind. -/
def Descriptor.hookNames (d : Descriptor) : HookKind → List String
  | .retryPredicate => d.runtimeHooks.retryPredicates
  | .abortPredicate => d.runtimeHooks.abortPredicates
  | .customDiff => d.runtimeHooks.customDiff
  | .readErrorTransform => d.runtimeHooks.readErrorTransform.toList
  | .migrateState => d.stateRules.migrateState.toList

theorem Descriptor.hooks_eq_flatMap (d : Descriptor) :
    d.hooks = HookKind.declared.flatMap fun kind => kind.uses (d.hookNames kind) := rfl

theorem LifecyclePolicy.hooksOf_eq (d : Descriptor) (kind : HookKind) :
    hooksOf d kind = kind.uses (d.hookNames kind) := by
  rw [hooksOf, Descriptor.hooks_eq_flatMap, List.filter_flatMap]
  simp only [HookKind.filter_uses]
  -- every kind is declared once, so one field is left
  cases kind <;> simp [HookKind.declared]

/-! ### Hooks of a plan -/

namespace Plan

/-- The hooks that a plan carries for a kind. -/
def hooksOf (p : Plan) : HookKind → List HookRef
  | .retryPredicate => p.policy.retryPredicates
  | .abortPredicate => p.policy.abortPredicates
  | .customDiff => p.policy.customDiff
  | .readErrorTransform => p.policy.readErrorTransform.toList
  | .migrateState => p.state.migrateState.toList

/-- All hooks that a plan carries. -/
def hooks (p : Plan) : List HookRef :=
  p.state.migrateState.toList ++ p.policy.retryPredicates ++ p.policy.abortPredicates ++
    p.policy.customDiff ++ p.policy.readErrorTransform.toList

theorem hooks_eq_flatMap (p : Plan) : p.hooks = HookKind.declared.flatMap p.hooksOf := by
  simp [hooks, HookKind.declared, hooksOf]

/-- Each part of a plan carries what the field of its kind names. -/
theorem hooksOf_of_resolve (h : resolve mode d = .ok p) (kind : HookKind) :
    p.hooksOf kind = kind.uses (d.hookNames kind) := by
  obtain ⟨urls, identity, mutex, state, -, -, -, hstate, -, rfl⟩ := resolve_eq_ok_iff.1 h
  obtain ⟨-, rfl⟩ := StateUpgrades.resolve_eq_ok_iff.1 hstate
  cases kind with
  | retryPredicate => exact LifecyclePolicy.hooksOf_eq d .retryPredicate
  | abortPredicate => exact LifecyclePolicy.hooksOf_eq d .abortPredicate
  | customDiff => exact LifecyclePolicy.hooksOf_eq d .customDiff
  | readErrorTransform =>
    change (LifecyclePolicy.hooksOf d .readErrorTransform).head?.toList = _
    rw [LifecyclePolicy.hooksOf_eq, Descriptor.hookNames]
    -- a field for one name has at most one
    cases d.runtimeHooks.readErrorTransform <;> rfl
  | migrateState =>
    change (d.stateRules.migrateState.map (HookRef.mk · .migrateState)).toList = _
    rw [Descriptor.hookNames]
    cases d.stateRules.migrateState <;> rfl

/-- **No hook is lost, invented or moved to another kind.** The hooks of a plan, part by part, are
those of its descriptor, each as often and in the order in which it names them, and each part
carries the names of one field, under the kind of this field. They are also what is checked:
whichever registry is given, a descriptor with a plan is refused for those of them that the registry
does not offer, and for nothing else. -/
theorem hooks_of_resolve (h : resolve mode d = .ok p) :
    p.hooks = d.hooks ∧
    (∀ kind, p.hooksOf kind = (d.hookNames kind).map fun name => ⟨name, kind⟩) ∧
    (∀ registry, LifecyclePolicy.hookIssues (some registry) d =
        registry.check p.hooks LifecyclePolicy.resolver ∧
      issuesOf (resolve ⟨mode.strict, some registry⟩ d) =
        registry.check p.hooks LifecyclePolicy.resolver) ∧
    ∀ registry ∈ mode.hooks, ∀ ref ∈ p.hooks, registry.Offers ref := by
  have hkinds := hooksOf_of_resolve h
  have hhooks : p.hooks = d.hooks := by
    rw [hooks_eq_flatMap, Descriptor.hooks_eq_flatMap, funext hkinds]
  have hmade := madeOfParts_of_resolve h
  obtain ⟨hexclusion, hoffers⟩ := LifecyclePolicy.issues_eq_nil_iff.1 hmade.policy
  have hunchecked : p.MadeOfParts ⟨mode.strict, none⟩ d :=
    { hmade with policy := LifecyclePolicy.issues_eq_nil_iff.2 ⟨hexclusion, nofun⟩ }
  rw [hhooks]
  refine ⟨rfl, hkinds, fun registry => ⟨rfl, ?_⟩, hoffers⟩
  rw [issuesOf_resolve, issues_parts_some, hunchecked.issues_parts, List.nil_append]

/-- A resource with hooks of every kind, one of them under two kinds and one without a name. -/
def hookedJobs : Descriptor where
  about := { name := "Job" }
  endpoints := { baseUrl := "jobs" }
  stateRules := { migrateState := some "migrate" }
  runtimeHooks := {
    retryPredicates := ["is_conflict", "is_quota", "is_conflict"]
    abortPredicates := ["is_quota"]
    customDiff := ["diff_labels"]
    readErrorTransform := some "" }

theorem hooks_of_resolve_jobs :
    ∃ p, resolve {} hookedJobs = .ok p ∧
      p.hooks = [⟨"migrate", .migrateState⟩, ⟨"is_conflict", .retryPredicate⟩,
        ⟨"is_quota", .retryPredicate⟩, ⟨"is_conflict", .retryPredicate⟩,
        ⟨"is_quota", .abortPredicate⟩, ⟨"diff_labels", .customDiff⟩, ⟨"", .readErrorTransform⟩] ∧
      p.hooksOf .readErrorTransform = [⟨"", .readErrorTransform⟩] ∧
      ∀ registry, issuesOf (resolve ⟨false, some registry⟩ hookedJobs) =
        registry.check p.hooks LifecyclePolicy.resolver := by
  obtain ⟨p, hp⟩ : ∃ p, resolve {} hookedJobs = .ok p := exists_eq_ok_of_isSome (by decide +kernel)
  obtain ⟨hhooks, hkinds, hchecked, -⟩ := hooks_of_resolve hp
  exact ⟨p, hp, hhooks, hkinds .readErrorTransform, fun registry => (hchecked registry).2⟩

end Plan

end CrudPlan
