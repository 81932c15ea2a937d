import CrudPlan.Proofs.Plan.Acceptance

/-!
# How registries grow

A registry gains hooks by attempts to add them, and an attempt that is refused leaves it as it was.
So what it offers once it offers forever.

* `HookRegistry.attempt` is one attempt, `HookRegistry.attemptAll` a sequence of them;
* `HookRegistry.find?_attempt` is what one attempt preserves: every registration.
  `HookRegistry.find?_attemptAll` and `HookRegistry.Offers.attemptAll` follow for sequences;
* `HookRegistry.Blames` is an issue with a hook that is not offered, and
  `HookRegistry.forall₂_blames_iff` says that a check finds one for each such use, in order.
-/

namespace CrudPlan.HookRegistry

variable {r grown : HookRegistry} {name kind : String} {target : Json} {registration : Registration}
  {ref : HookRef} {refs : List HookRef}

/-! ### Attempts -/

/-- The registry after an attempt to add a hook. -/
def attempt (r : HookRegistry) (hook : Registration) : HookRegistry :=
  match r.register hook.name hook.kind hook.target with
  | .ok grown => grown
  | .error _ => r

/-- The registry after attempts to add hooks. -/
def attemptAll (r : HookRegistry) (hooks : List Registration) : HookRegistry :=
  hooks.foldl attempt r

/-- A name that is added was free. -/
theorem find?_eq_none_of_register (h : r.register name kind target = .ok grown) :
    r.find? name = none := by
  rw [register] at h
  split_ifs at h with hempty htaken
  simpa [contains] using htaken

theorem find?_attempt (hook : Registration) (h : r.find? name = some registration) :
    (r.attempt hook).find? name = some registration := by
  rw [attempt]
  split
  · next grown hgrown =>
    -- the new name was free, so it is not the one that is looked up
    have hne : name ≠ hook.name := by
      rintro rfl
      rw [find?_eq_none_of_register hgrown] at h
      cases h
    rw [find?_register hgrown, if_neg hne, h]
  · exact h

/-- **A registration is never lost or changed**, whatever is attempted after it. -/
theorem find?_attemptAll (hooks : List Registration) (h : r.find? name = some registration) :
    (r.attemptAll hooks).find? name = some registration := by
  induction hooks generalizing r with
  | nil => exact h
  | cons hook rest ih => exact ih (find?_attempt hook h)

theorem Offers.attemptAll (hooks : List Registration) (h : r.Offers ref) :
    (r.attemptAll hooks).Offers ref := by
  obtain ⟨registration, hfind, hkind⟩ := h
  exact ⟨registration, find?_attemptAll hooks hfind, hkind⟩

/-! ### Checks -/

instance (r : HookRegistry) : DecidablePred r.Offers := fun _ =>
  decidable_of_iff _ complaint?_eq_none_iff

/-- The uses of hooks that the registry does not offer. -/
def unoffered (r : HookRegistry) (refs : List HookRef) : List HookRef :=
  refs.filter fun ref => ¬ r.Offers ref

/-- An issue with the use of a hook that is not registered, or for something else. -/
structure Blames (r : HookRegistry) (resolver : String) (ref : HookRef) (i : Issue) : Prop where
  kind : i.kind = .unknownHook
  resolver : i.resolver = resolver
  field : i.field = ref.kind.field
  unregistered : r.find? ref.name = none →
    i.message = ref.kind.text ++ " '" ++ ref.name ++ "' is not registered"
  misused : ∀ registration, r.find? ref.name = some registration →
    i.message = "'" ++ ref.name ++ "' is registered as " ++ registration.kind ++ ", not " ++
      ref.kind.text

theorem blames_iff {resolver message : String} {i : Issue} (h : r.complaint? ref = some message) :
    r.Blames resolver ref i ↔ i = ⟨.unknownHook, resolver, ref.kind.field, message⟩ := by
  obtain ⟨kind, name, field, text⟩ := i
  have hmessage : ((r.find? ref.name = none →
        text = ref.kind.text ++ " '" ++ ref.name ++ "' is not registered") ∧
      ∀ registration, r.find? ref.name = some registration →
        text = "'" ++ ref.name ++ "' is registered as " ++ registration.kind ++ ", not " ++
          ref.kind.text) ↔ text = message := by
    rw [complaint?] at h
    split at h
    · next hfind => simp_all
    · next registration hfind =>
      split_ifs at h
      simp_all
  rw [Issue.mk.injEq, ← hmessage]
  constructor
  · rintro ⟨hkind, hresolver, hfield, hunregistered, hmisused⟩
    exact ⟨hkind, hresolver, hfield, hunregistered, hmisused⟩
  · rintro ⟨hkind, hresolver, hfield, hunregistered, hmisused⟩
    exact ⟨hkind, hresolver, hfield, hunregistered, hmisused⟩

/-- **A check blames every use that is not offered**, each as often as it occurs and in order. -/
theorem forall₂_blames_iff {resolver : String} {issues : List Issue} :
    List.Forall₂ (r.Blames resolver) (r.unoffered refs) issues ↔
      issues = r.check refs resolver := by
  induction refs generalizing issues with
  | nil => simp [unoffered, check]
  | cons ref rest ih =>
    cases hcomplaint : r.complaint? ref with
    | none =>
      have hoffers : r.Offers ref := complaint?_eq_none_iff.1 hcomplaint
      have hunoffered : r.unoffered (ref :: rest) = r.unoffered rest :=
        List.filter_cons_of_neg (by simpa using hoffers)
      have hcheck : r.check (ref :: rest) resolver = r.check rest resolver :=
        List.filterMap_cons_none (by rw [hcomplaint]; rfl)
      rw [hunoffered, hcheck, ih]
    | some message =>
      have hoffers : ¬ r.Offers ref := by
        rw [← complaint?_eq_none_iff, hcomplaint]
        exact Option.some_ne_none message
      have hunoffered : r.unoffered (ref :: rest) = ref :: r.unoffered rest :=
        List.filter_cons_of_pos (by simpa using hoffers)
      have hcheck : r.check (ref :: rest) resolver =
          ⟨.unknownHook, resolver, ref.kind.field, message⟩ :: r.check rest resolver :=
        List.filterMap_cons_some (by rw [hcomplaint]; rfl)
      rw [hunoffered, hcheck]
      cases issues with
      | nil => simp
      | cons i others => rw [List.forall₂_cons, blames_iff hcomplaint, ih, List.cons.injEq]

end CrudPlan.HookRegistry
