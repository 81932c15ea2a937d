import CrudPlan.Proofs.Hook.Tables

/-!
# Sessions with registries

A program makes registries from tables and calls them, in any order and as often as it likes. A
registry is known by its number, in the order in which they are made.

* `HookRegistry.reply` and `HookRegistry.after` are what a call is answered, and the registry after
  it; only `Call.register` may change it;
* `Session.take` is a step of a session and `Session.run` a whole one. `Session.accepted` reads off
  the transcript which hooks a registry was given and did not refuse;
* `Session.Sound` is what a step preserves (`Session.Sound.take`), so that it holds at any time
  (`Session.sound_run`): names are not empty and taken once, and a registry holds the hooks that it
  accepted, no others. As the list of these only grows, no hook is lost or changed;
* `Session.promises_run` collects what this means for the replies of a session.
-/

namespace CrudPlan.HookRegistry

variable {r : HookRegistry} {hook : Registration} {name : String}

/-! ### Calls -/

/-- A call of a registry. -/
inductive Call where
  /-- Adds a hook. -/
  | register (hook : Registration)
  /-- Looks a name up. -/
  | get (name : String)
  /-- Asks whether a name is taken. -/
  | contains (name : String)
  /-- Asks for the number of hooks. -/
  | size
  /-- Checks uses of hooks. -/
  | check (refs : List HookRef) (resolver : String)

/-- What a step of a session is answered. -/
inductive Reply where
  /-- A registry is made, and this is its number. -/
  | made (number : Nat)
  /-- The hook is added. -/
  | registered
  /-- The hook, or one of the table, cannot be added. -/
  | refused (error : RegistrationError)
  /-- The registration of the name. -/
  | found (registration : Registration)
  /-- The name is not taken. -/
  | unknownHook (name : String)
  /-- Whether the name is taken. -/
  | holds (answer : Bool)
  /-- The number of hooks. -/
  | size (n : Nat)
  /-- The issues with the uses. -/
  | issues (issues : List Issue)
  /-- There is no registry of the number. -/
  | noRegistry

/-- What a call is answered. -/
def reply (r : HookRegistry) : Call → Reply
  | .register hook =>
    match r.register hook.name hook.kind hook.target with
    | .ok _ => .registered
    | .error e => .refused e
  | .get name =>
    match r.find? name with
    | some registration => .found registration
    | none => .unknownHook name
  | .contains name => .holds (r.contains name)
  | .size => .size r.size
  | .check refs resolver => .issues (r.check refs resolver)

/-- The registry after a call. -/
def after (r : HookRegistry) : Call → HookRegistry
  | .register hook => r.attempt hook
  | _ => r

/-- The hooks that a call with the given reply has added. -/
def added : Call → Reply → List Registration
  | .register hook, .registered => [hook]
  | _, _ => []

/-- A hook is added under a name of its own, or refused, and then nothing changes. -/
theorem reply_register_cases (r : HookRegistry) (hook : Registration) :
    ((hook.name ≠ "" ∧ hook.name ∉ r.names) ∧ r.reply (.register hook) = .registered ∧
      r.after (.register hook) = ⟨r.registrations ++ [hook]⟩) ∨
    ((hook.name = "" ∨ hook.name ∈ r.names) ∧
      (∃ e, r.reply (.register hook) = .refused e) ∧ r.after (.register hook) = r) := by
  cases h : r.register hook.name hook.kind hook.target with
  | ok grown =>
    obtain ⟨hfree, hgrown⟩ := register_eq_ok_iff.1 h
    exact .inl ⟨hfree, by rw [reply, h], by rw [after, attempt, h, hgrown]⟩
  | error e =>
    have htaken := exists_register_error_iff.1 ⟨e, h⟩
    exact .inr ⟨htaken, ⟨e, by rw [reply, h]⟩, by rw [after, attempt, h]⟩

/-- **A call adds to a registry, and does nothing else to it.** -/
theorem registrations_after (r : HookRegistry) (c : Call) :
    (r.after c).registrations = r.registrations ++ added c (r.reply c) := by
  cases c with
  | register hook =>
    obtain ⟨-, hreply, hafter⟩ | ⟨-, ⟨e, hreply⟩, hafter⟩ := reply_register_cases r hook
    · rw [hafter, hreply, added]
    · rw [hafter, hreply]
      exact (List.append_nil _).symm
  | _ => exact (List.append_nil _).symm

/-- Names stay in order. -/
theorem WellNamed.after (h : WellNamed r.registrations) (c : Call) :
    WellNamed (r.after c).registrations := by
  cases c with
  | register hook =>
    obtain ⟨⟨hempty, hfree⟩, -, hafter⟩ | ⟨-, -, hafter⟩ := reply_register_cases r hook
    · obtain ⟨hnone, hnodup⟩ := h
      rw [hafter, WellNamed, List.map_append, List.mem_append, List.nodup_append_comm]
      refine ⟨?_, List.nodup_cons.2 ⟨hfree, hnodup⟩⟩
      rintro (hmem | hmem)
      · exact hnone hmem
      · exact hempty (List.mem_singleton.1 hmem).symm
    · rw [hafter]
      exact h
  | _ => exact h

theorem exists_refused_register_iff :
    (∃ e, r.reply (.register hook) = .refused e) ↔ hook.name = "" ∨ hook.name ∈ r.names := by
  obtain ⟨⟨hempty, hfree⟩, hreply, -⟩ | ⟨htaken, hrefused, -⟩ := reply_register_cases r hook
  · simp [hreply, hempty, hfree]
  · exact ⟨fun _ => htaken, fun _ => hrefused⟩

theorem after_eq_of_refused {c : Call} {e : RegistrationError} (h : r.reply c = .refused e) :
    r.after c = r := by
  cases c with
  | register hook =>
    obtain ⟨-, hreply, -⟩ | ⟨-, -, hsame⟩ := reply_register_cases r hook
    · rw [hreply] at h
      cases h
    · exact hsame
  | _ => rfl

theorem reply_get_eq_found_iff {registration : Registration} :
    r.reply (.get name) = .found registration ↔ r.find? name = some registration := by
  rw [reply]
  cases r.find? name with
  | none => simp
  | some other => simp

theorem contains_iff_get : r.contains name = true ↔ r.reply (.get name) ≠ .unknownHook name := by
  rw [contains, reply]
  cases r.find? name with
  | none => simp
  | some registration => simp

/-- Whether a look-up of the hook fails or finds one of another kind. -/
def isMisused (r : HookRegistry) (ref : HookRef) : Bool :=
  match r.reply (.get ref.name) with
  | .found registration => registration.kind != ref.kind.text
  | _ => true

theorem filter_isMisused (refs : List HookRef) : refs.filter r.isMisused = r.unoffered refs := by
  refine List.filter_congr fun ref _ => ?_
  rw [Bool.eq_iff_iff, decide_eq_true_iff, isMisused, reply, Offers]
  cases r.find? ref.name with
  | none => simp
  | some registration => simp

/-! ### Sessions -/

/-- A step of a session. -/
inductive Step where
  /-- Makes a registry from a table. -/
  | make (table : List (String × List String))
  /-- Calls the registry of a number. -/
  | call (number : Nat) (c : Call)

/-- The registries that were made, and what was said. -/
structure Session where
  /-- The registries, in the order in which they were made. -/
  registries : List HookRegistry := []
  /-- The steps with their replies, the last one at the end. -/
  transcript : List (Step × Reply) := []

namespace Session

variable {s : Session} {i : Nat}

/-- What a step is answered. -/
def reply (s : Session) : Step → Reply
  | .make table =>
    match ofNames table with
    | .ok _ => .made s.registries.length
    | .error e => .refused e
  | .call i c =>
    match s.registries[i]? with
    | some r => r.reply c
    | none => .noRegistry

/-- The registries after a step. -/
def registriesAfter (s : Session) : Step → List HookRegistry
  | .make table =>
    match ofNames table with
    | .ok r => s.registries ++ [r]
    | .error _ => s.registries
  | .call i c => s.registries.modify i (·.after c)

/-- The session after one more step. -/
def take (s : Session) (step : Step) : Session where
  registries := s.registriesAfter step
  transcript := s.transcript ++ [(step, s.reply step)]

/-- The session of some steps. -/
def run (steps : List Step) : Session := steps.foldl take {}

/-- The hooks that the registry of a number accepts in a step. -/
def acceptedIn (i : Nat) : Step × Reply → List Registration
  | (.make table, .made j) => if j = i then listed table else []
  | (.make _, _) => []
  | (.call j c, reply) => if j = i then added c reply else []

/-- The hooks that the registry of a number has accepted, in order: each is a registration that
succeeded, by itself or as part of the table. -/
def accepted (s : Session) (i : Nat) : List Registration := s.transcript.flatMap (acceptedIn i)

theorem accepted_take (s : Session) (step : Step) (i : Nat) :
    (s.take step).accepted i = s.accepted i ++ acceptedIn i (step, s.reply step) := by
  simp [accepted, take]

/-- **The hooks that were accepted stay so.** -/
theorem accepted_prefix_foldl (s : Session) (steps : List Step) (i : Nat) :
    s.accepted i <+: (steps.foldl take s).accepted i := by
  induction steps generalizing s with
  | nil => exact List.prefix_rfl
  | cons step rest ih =>
    have hstep : s.accepted i <+: (s.take step).accepted i := by
      rw [accepted_take]
      exact List.prefix_append _ _
    exact hstep.trans (ih (s.take step))

/-- What holds at any time of a session. -/
structure Sound (s : Session) : Prop where
  /-- Names are not empty and taken once. -/
  wellNamed : ∀ r ∈ s.registries, WellNamed r.registrations
  /-- A registry holds what it has accepted, and no registry has accepted anything before it is
  made. -/
  accepted : ∀ i, s.accepted i = (s.registries[i]?.map registrations).getD []

theorem sound_start : Sound {} where
  wellNamed := List.forall_mem_nil _
  accepted _ := rfl

theorem Sound.make (h : s.Sound) (table : List (String × List String)) :
    (s.take (.make table)).Sound := by
  cases hmade : ofNames table with
  | error e =>
    have hsame : (s.take (.make table)).registries = s.registries := by
      rw [take, registriesAfter, hmade]
    refine ⟨hsame ▸ h.wellNamed, fun i => ?_⟩
    rw [accepted_take, hsame, ← h.accepted, reply, hmade]
    exact List.append_nil _
  | ok r =>
    obtain ⟨hnamed, hr⟩ := ofNames_eq_ok_iff.1 hmade
    have hmore : (s.take (.make table)).registries = s.registries ++ [r] := by
      rw [take, registriesAfter, hmade]
    refine ⟨fun x hx => ?_, fun i => ?_⟩
    · rw [hmore, List.mem_append, List.mem_singleton] at hx
      rcases hx with hx | rfl
      · exact h.wellNamed x hx
      · rw [hr]
        exact hnamed
    · have hreply : s.reply (.make table) = .made s.registries.length := by rw [reply, hmade]
      rw [accepted_take, hmore, hreply, acceptedIn, h.accepted]
      by_cases hi : s.registries.length = i
      · -- the number of the new registry was free before
        subst hi
        simp [hr]
      · rw [if_neg hi, List.append_nil]
        by_cases hlt : i < s.registries.length
        · rw [List.getElem?_append_left hlt]
        · have hover : (s.registries ++ [r]).length ≤ i := by
            simp only [List.length_append, List.length_singleton]
            omega
          rw [List.getElem?_eq_none (by omega), List.getElem?_eq_none hover]

theorem Sound.call (h : s.Sound) (j : Nat) (c : Call) : (s.take (.call j c)).Sound := by
  have hregistries : (s.take (.call j c)).registries = s.registries.modify j (·.after c) := rfl
  refine ⟨fun x hx => ?_, fun i => ?_⟩
  · obtain ⟨i, hi⟩ := List.mem_iff_getElem?.1 hx
    rw [hregistries, List.getElem?_modify] at hi
    obtain ⟨r, hr, rfl⟩ := Option.map_eq_some_iff.1 hi
    have hnamed : WellNamed r.registrations := h.wellNamed r (List.mem_of_getElem? hr)
    split_ifs
    · exact hnamed.after c
    · exact hnamed
  · rw [accepted_take, hregistries, acceptedIn, h.accepted]
    by_cases hj : j = i
    · subst hj
      rw [if_pos rfl, List.getElem?_modify_eq, reply]
      cases hr : s.registries[j]? with
      | none => cases c <;> rfl
      | some r => exact (registrations_after r c).symm
    · rw [if_neg hj, List.append_nil, List.getElem?_modify_ne _ _ hj]

/-- **A step keeps a session sound.** -/
theorem Sound.take (h : s.Sound) (step : Step) : (s.take step).Sound := by
  cases step with
  | make table => exact h.make table
  | call j c => exact h.call j c

theorem Sound.foldl (h : s.Sound) (steps : List Step) : (steps.foldl Session.take s).Sound := by
  induction steps generalizing s with
  | nil => exact h
  | cons step rest ih => exact ih (h.take step)

/-- **A session is sound at any time.** -/
theorem sound_run (steps : List Step) : (run steps).Sound := sound_start.foldl steps

theorem Sound.registrations_eq (h : s.Sound) (hr : s.registries[i]? = some r) :
    r.registrations = s.accepted i := by
  rw [h.accepted, hr]
  rfl

/-! ### Replies -/

theorem reply_call (hr : s.registries[i]? = some r) (c : Call) :
    s.reply (.call i c) = r.reply c := by
  rw [reply, hr]

/-- **A step that is refused changes no registry.** -/
theorem registries_take_of_refused {step : Step} {e : RegistrationError}
    (h : s.reply step = .refused e) : (s.take step).registries = s.registries := by
  cases step with
  | make table =>
    cases hmade : ofNames table with
    | ok r =>
      rw [reply, hmade] at h
      cases h
    | error e => rw [take, registriesAfter, hmade]
  | call i c =>
    have hregistries : (s.take (.call i c)).registries = s.registries.modify i (·.after c) := rfl
    rw [hregistries]
    refine List.ext_getElem? fun j => ?_
    by_cases hj : i = j
    · subst hj
      rw [List.getElem?_modify_eq]
      cases hr : s.registries[i]? with
      | none => rfl
      | some r =>
        rw [reply_call hr] at h
        exact congrArg some (after_eq_of_refused h)
    · rw [List.getElem?_modify_ne _ _ hj]

theorem exists_registry_of_found {c : Call} {registration : Registration}
    (h : s.reply (.call i c) = .found registration) :
    ∃ r, s.registries[i]? = some r ∧ r.reply c = .found registration := by
  rw [reply] at h
  split at h
  · next r hr => exact ⟨r, hr, h⟩
  · cases h

/-- **A name that is found is found again**, whatever is done in between. -/
theorem Sound.found_foldl {registration : Registration} (h : s.Sound) (more : List Step)
    (hfound : s.reply (.call i (.get name)) = .found registration) :
    (more.foldl Session.take s).reply (.call i (.get name)) = .found registration := by
  obtain ⟨r, hr, hreply⟩ := exists_registry_of_found hfound
  have hfind : r.find? name = some registration := reply_get_eq_found_iff.1 hreply
  have hlater : (more.foldl Session.take s).Sound := h.foldl more
  have hgrown : r.registrations <+: (more.foldl Session.take s).accepted i := by
    rw [h.registrations_eq hr]
    exact accepted_prefix_foldl s more i
  cases hr' : (more.foldl Session.take s).registries[i]? with
  | none =>
    -- a registry that holds something has been made
    rw [hlater.accepted, hr'] at hgrown
    have hmem := hgrown.subset (List.mem_of_find?_eq_some hfind)
    cases hmem
  | some r' =>
    rw [← hlater.registrations_eq hr'] at hgrown
    rw [reply_call hr']
    exact reply_get_eq_found_iff.2 (hgrown.find?_eq_some hfind)

/-- What is promised of the replies at some time of a session. -/
structure Promises (s : Session) : Prop where
  /-- No registry holds an empty name, or a name twice. -/
  wellNamed : ∀ r ∈ s.registries, WellNamed r.registrations
  /-- A registry holds the hooks whose registration succeeded, in order. -/
  contents : ∀ i r, s.registries[i]? = some r → r.registrations = s.accepted i
  /-- The number of hooks is that of the registrations that succeeded. -/
  size : ∀ i < s.registries.length, s.reply (.call i .size) = .size (s.accepted i).length
  /-- A hook is refused exactly if its name is empty or found already. -/
  refused_iff : ∀ i < s.registries.length, ∀ hook,
    (∃ e, s.reply (.call i (.register hook)) = .refused e) ↔
      hook.name = "" ∨ ∃ registration, s.reply (.call i (.get hook.name)) = .found registration
  /-- What is refused changes nothing. -/
  unchanged : ∀ step e, s.reply step = .refused e → (s.take step).registries = s.registries
  /-- What is found is found at any later time, and the same. -/
  kept : ∀ (more : List Step) i name registration, s.reply (.call i (.get name)) = .found registration →
    (more.foldl Session.take s).reply (.call i (.get name)) = .found registration
  /-- A name is held exactly if looking it up does not fail. -/
  holds : ∀ i < s.registries.length, ∀ name, ∃ answer,
    s.reply (.call i (.contains name)) = .holds answer ∧
      (answer = true ↔ s.reply (.call i (.get name)) ≠ .unknownHook name)
  /-- A check reports the uses for which a look-up fails or finds another kind, one by one. -/
  check : ∀ i r, s.registries[i]? = some r → ∀ refs resolver, ∃ issues,
    s.reply (.call i (.check refs resolver)) = .issues issues ∧
      List.Forall₂ (r.Blames resolver) (refs.filter r.isMisused) issues
  /-- A table makes a registry exactly if no name in it is empty or occurs twice. -/
  made_iff : ∀ table, (∃ i, s.reply (.make table) = .made i) ↔ WellNamed (listed table)
  /-- What is found then does not depend on the order in which the table lists its hooks. -/
  reordered : ∀ table other i, s.reply (.make table) = .made i →
    (listed table).Perm (listed other) → s.reply (.make other) = .made i ∧
      ∀ name, (s.take (.make other)).reply (.call i (.get name)) =
        (s.take (.make table)).reply (.call i (.get name))

theorem exists_made_iff {table : List (String × List String)} :
    (∃ i, s.reply (.make table) = .made i) ↔ WellNamed (listed table) := by
  rw [← exists_ofNames_iff, reply]
  cases ofNames table with
  | ok r => simp
  | error e => simp

/-- The registry of a table that is taken is the last one. -/
theorem reply_take_make {table : List (String × List String)} (h : WellNamed (listed table))
    (c : Call) :
    s.reply (.make table) = .made s.registries.length ∧
      (s.take (.make table)).reply (.call s.registries.length c) =
        HookRegistry.reply ⟨listed table⟩ c := by
  have hmade : ofNames table = .ok ⟨listed table⟩ := ofNames_eq_ok_iff.2 ⟨h, rfl⟩
  have hlast : (s.take (.make table)).registries[s.registries.length]? = some ⟨listed table⟩ := by
    rw [take, registriesAfter, hmade, List.getElem?_concat_length]
  exact ⟨by rw [reply, hmade], reply_call hlast c⟩

/-- **What is promised of registries is kept in every session**, however tables and calls follow
each other and whatever is refused. -/
theorem promises_run (steps : List Step) : (run steps).Promises := by
  have hsound : (run steps).Sound := sound_run steps
  generalize run steps = s at hsound
  refine ⟨hsound.wellNamed, fun _ _ => hsound.registrations_eq, fun i hi => ?_,
    fun i hi hook => ?_, fun _ _ => registries_take_of_refused,
    fun more _ _ _ => hsound.found_foldl more, fun i hi name => ?_, fun i r hr refs resolver => ?_,
    fun _ => exists_made_iff, fun table other i hmade hperm => ?_⟩
  · have hr : s.registries[i]? = some s.registries[i] := List.getElem?_eq_getElem hi
    rw [reply_call hr, ← hsound.registrations_eq hr]
    rfl
  · have hr : s.registries[i]? = some s.registries[i] := List.getElem?_eq_getElem hi
    simp only [reply_call hr, exists_refused_register_iff, mem_names_iff, reply_get_eq_found_iff]
  · have hr : s.registries[i]? = some s.registries[i] := List.getElem?_eq_getElem hi
    rw [reply_call hr, reply_call hr]
    exact ⟨_, rfl, contains_iff_get⟩
  · refine ⟨r.check refs resolver, reply_call hr _, ?_⟩
    rw [filter_isMisused, forall₂_blames_iff]
  · have hnamed : WellNamed (listed table) := exists_made_iff.1 ⟨i, hmade⟩
    obtain ⟨hnumber, -⟩ := reply_take_make hnamed .size
    obtain ⟨hother, -⟩ := reply_take_make (hnamed.of_perm hperm) .size
    obtain rfl : s.registries.length = i := by
      rw [hmade] at hnumber
      cases hnumber
      rfl
    refine ⟨hother, fun name => ?_⟩
    have hfind : (⟨listed table⟩ : HookRegistry).find? name = find? ⟨listed other⟩ name :=
      find?_eq_of_perm hnamed.2 hperm name
    rw [(reply_take_make hnamed _).2, (reply_take_make (hnamed.of_perm hperm) _).2,
      HookRegistry.reply, HookRegistry.reply, hfind]

/-- A name is taken under one kind, so it is refused under another. -/
example :
    (run [.make [("custom_diff", ["labels", "tags"])],
      .call 0 (.register ⟨"tags", "retry_predicate", .null⟩),
      .call 0 (.register ⟨"busy", "retry_predicate", .null⟩),
      .call 0 .size]).transcript.map Prod.snd =
    [.made 0, .refused (.taken "tags"), .registered, .size 3] := by cbv

end Session

end CrudPlan.HookRegistry
