import CrudPlan.Proofs.Hook.Growth
import CrudPlan.Proofs.Plan.Issues

/-!
# What a registry does to a resolution

Only the check of hooks looks at the registry, and it comes last. So a registry takes plans away
from descriptors that use what it does not offer, and changes nothing else.

* `Plan.issues_parts_some`: with a registry, the issues are those without one and then those of its
  check;
* `Plan.resolve_some_eq_ok_iff`: with a registry, there is the same plan or none;
* `Plan.resolve_filters_by_registry` adds what is reported of a descriptor that is refused, and that
  a registry may grow without harm.
-/

namespace CrudPlan.Plan

variable {strict : Bool} {registry : HookRegistry} {d : Descriptor} {p : Plan}

/-- The issues of the hooks come after all others. -/
theorem issues_parts_some :
    (parts ⟨strict, some registry⟩ d).issues =
      (parts ⟨strict, none⟩ d).issues ++ registry.check d.hooks LifecyclePolicy.resolver := by
  simp only [parts, Parts.issues, LifecyclePolicy.issues, LifecyclePolicy.hookIssues,
    List.append_nil, List.append_assoc]

/-- **With a registry there is the same plan, or none.** -/
theorem resolve_some_eq_ok_iff :
    resolve ⟨strict, some registry⟩ d = .ok p ↔
      resolve ⟨strict, none⟩ d = .ok p ∧ ∀ ref ∈ d.hooks, registry.Offers ref := by
  have hpolicy : LifecyclePolicy.issues (some registry) d = [] ↔
      LifecyclePolicy.issues none d = [] ∧ ∀ ref ∈ d.hooks, registry.Offers ref := by
    rw [LifecyclePolicy.issues_eq_nil_iff, LifecyclePolicy.issues_eq_nil_iff]
    simp
  rw [resolve_eq_ok_iff, resolve_eq_ok_iff]
  constructor
  · rintro ⟨urls, identity, mutex, state, hurls, hidentity, hmutex, hstate, hissues, rfl⟩
    obtain ⟨hissues, hoffers⟩ := hpolicy.1 hissues
    exact ⟨⟨urls, identity, mutex, state, hurls, hidentity, hmutex, hstate, hissues, rfl⟩, hoffers⟩
  · rintro ⟨⟨urls, identity, mutex, state, hurls, hidentity, hmutex, hstate, hissues, rfl⟩, hoffers⟩
    exact ⟨urls, identity, mutex, state, hurls, hidentity, hmutex, hstate,
      hpolicy.2 ⟨hissues, hoffers⟩, rfl⟩

/-- **A registry only filters.** With a registry a descriptor has the plan that it has without one,
if every hook that it names is offered. If it is refused, it is told of the issues that it has
without a registry, and then of each use of a hook that is not offered, as often as it occurs and in
the order of the descriptor. A plan stays what it is while hooks are added to the registry or
refused by it. -/
theorem resolve_filters_by_registry (strict : Bool) (registry : HookRegistry) (d : Descriptor) :
    (∀ p, resolve ⟨strict, some registry⟩ d = .ok p ↔
      resolve ⟨strict, none⟩ d = .ok p ∧ ∀ ref ∈ d.hooks, registry.Offers ref) ∧
    (∀ found, resolve ⟨strict, some registry⟩ d = .error found ↔
      found ≠ [] ∧ ∃ unknown,
        List.Forall₂ (registry.Blames LifecyclePolicy.resolver) (registry.unoffered d.hooks)
          unknown ∧
        found = issuesOf (resolve ⟨strict, none⟩ d) ++ unknown) ∧
    ∀ p hooks, resolve ⟨strict, some registry⟩ d = .ok p →
      resolve ⟨strict, some (registry.attemptAll hooks)⟩ d = .ok p := by
  refine ⟨fun _ => resolve_some_eq_ok_iff, fun found => ?_, fun p hooks h => ?_⟩
  · simp only [resolve_eq_error_iff, issues_parts_some, issuesOf_resolve,
      HookRegistry.forall₂_blames_iff, exists_eq_left]
  · obtain ⟨hplan, hoffers⟩ := resolve_some_eq_ok_iff.1 h
    exact resolve_some_eq_ok_iff.2 ⟨hplan, fun ref href => (hoffers ref href).attemptAll hooks⟩

end CrudPlan.Plan
