import CrudPlan.Product.Resolve
import CrudPlan.Proofs.Batch.Runs

/-!
# One resource of a product, and all of them

A product resolves one resource by a search for the first of its name, and all resources by a batch
that passes over those excluded and remembers the names of the others. This file says how the two
answers fit together.

* `BatchResult.only` is what a batch says of one name. By `Batch.resolve_named` it depends on the
  resources of that name only, so that the batch may be thought to hold no others;
* `Product.resource_cases`: what the search finds;
* `Product.resolveAll_answers`: whatever is answered by name, the batch answers too, if it gives a
  result. `Product.resolveAll_vaults` is a case where it gives none;
* `Product.resolveOne_of_mem_plans`: a plan of the batch is found by name as well, unless the first
  resource of the name is excluded. `Product.resolveOne_disk` is a case where it is.
-/

namespace CrudPlan

/-! ### What a batch says of one name -/

/-- What is chosen from outcomes under their names may be sorted out by name before. -/
theorem Outcome.filter_filterMap {α : Type} {choose : Outcome → Option α} {nameOf : α → String}
    (h : ∀ {o a}, a ∈ choose o → nameOf a = o.name) (name : String) (outcomes : List Outcome) :
    (outcomes.filterMap choose).filter (nameOf · == name) =
      (outcomes.filter (·.name == name)).filterMap choose := by
  rw [List.filter_filterMap, List.filterMap_filter]
  refine List.filterMap_congr fun o _ => ?_
  cases hchosen : choose o with
  | none => simp
  | some a =>
    have hname : nameOf a = o.name := h hchosen
    rw [Option.filter_some, hname]

namespace BatchResult

variable (name : String)

/-- What a result says of one name. -/
def only (r : BatchResult) : BatchResult where
  plans := r.plans.filter (·.resource == name)
  failures := r.failures.filter (·.name == name)
  skipped := r.skipped.filter (· == name)

theorem only_ofOutcomes (outcomes : List Outcome) :
    (ofOutcomes outcomes).only name = ofOutcomes (outcomes.filter (·.name == name)) := by
  have hplans := Outcome.filter_filterMap Outcome.resource_of_plan? name outcomes
  have hfailures := Outcome.filter_filterMap Outcome.name_of_failure? name outcomes
  have hskipped := Outcome.filter_filterMap Outcome.name_of_skipped? name outcomes
  rw [only, ofOutcomes, hplans, hfailures, hskipped, ofOutcomes]

variable {name} {r : BatchResult}

theorem notMem_of_only_eq_empty (h : r.only name = {}) :
    (∀ p ∈ r.plans, p.resource ≠ name) ∧ (∀ f ∈ r.failures, f.name ≠ name) ∧ name ∉ r.skipped := by
  simp only [only, mk.injEq, List.filter_eq_nil_iff, beq_iff_eq] at h
  obtain ⟨hplans, hfailures, hskipped⟩ := h
  exact ⟨hplans, hfailures, fun hmem => hskipped name hmem rfl⟩

end BatchResult

namespace Batch

variable {mode : ResolverMode} {name : String} {seen seen' : List String}
  {d : Descriptor} {ds : List Descriptor}

/-- The resources of one name. -/
def named (name : String) (ds : List Descriptor) : List Descriptor := ds.filter (·.name == name)

theorem name_of_mem_named (h : d ∈ named name ds) : d.name = name := by
  simpa using (List.mem_filter.1 h).2

/-- What becomes of the resources of one name depends on these and on whether the name is taken. -/
theorem filter_outcomesFrom (h : name ∈ seen ↔ name ∈ seen') :
    (outcomesFrom mode seen ds).filter (·.name == name) =
      outcomesFrom mode seen' (named name ds) := by
  induction ds generalizing seen seen' with
  | nil => rfl
  | cons d rest ih =>
    have hafter : name ∈ seenAfter seen d ↔
        name ∈ seen ∨ (d.lifecycle.exclude = false ∧ d.name = name) := mem_seenAfter_iff
    rw [outcomesFrom_cons, named]
    by_cases hname : d.name = name
    · have hcontains : seen.contains d.name = seen'.contains d.name := by
        rw [Bool.eq_iff_iff, List.contains_iff_mem, List.contains_iff_mem, hname, h]
      have hrest : name ∈ seenAfter seen d ↔ name ∈ seenAfter seen' d := by
        rw [hafter, mem_seenAfter_iff, h]
      rw [List.filter_cons_of_pos (by simpa [name_outcomeIf] using hname),
        List.filter_cons_of_pos (by simpa using hname), outcomesFrom_cons, hcontains]
      exact congrArg _ (ih hrest)
    · -- another name is not remembered in place of this one
      have hrest : name ∈ seenAfter seen d ↔ name ∈ seen' := by
        rw [hafter, ← h]
        simp [hname]
      rw [List.filter_cons_of_neg (by simpa [name_outcomeIf] using hname),
        List.filter_cons_of_neg (by simpa using hname)]
      exact ih hrest

/-- **What a batch says of a name, it says of the resources of that name by themselves.** -/
theorem resolve_named : resolve mode (named name ds) = (resolve mode ds).only name := by
  rw [resolve, resolve, outcomes, outcomes, BatchResult.only_ofOutcomes,
    filter_outcomesFrom Iff.rfl]

/-- Where all names are taken, there are no more plans. -/
theorem plans_eq_nil_of_taken (h : ∀ d ∈ ds, d.name ∈ seen) :
    (outcomesFrom mode seen ds).filterMap Outcome.plan? = [] := by
  rw [List.eq_nil_iff_forall_not_mem]
  intro p hp
  have hfresh : p.resource ∉ seen := nodup_plans_outcomesFrom.2 p hp
  have hresource : p.resource ∈ ds.map Descriptor.name := by
    rw [← map_name_outcomesFrom]
    exact (Outcome.map_filterMap_sublist Outcome.resource_of_plan? _).subset
      (List.mem_map_of_mem hp)
  obtain ⟨d, hd, hname⟩ := List.mem_map.1 hresource
  exact hfresh (hname ▸ h d hd)

variable {rest : List Descriptor}

/-- The first of some resources of one name settles what becomes of them, unless it is excluded. -/
theorem resolve_named_cons (hfirst : named name ds = d :: rest)
    (hexclude : d.lifecycle.exclude = false) :
    (resolve mode ds).only name =
      .ofOutcomes (outcome mode d :: outcomesFrom mode [d.name] rest) := by
  have hstep : outcomesFrom mode [] (d :: rest) =
      outcome mode d :: outcomesFrom mode [d.name] rest := by
    rw [outcomesFrom_cons]
    simp [outcomeIf, seenAfter, hexclude]
  rw [← resolve_named, hfirst, resolve, outcomes, hstep]

theorem plans_eq_nil_of_named_cons (hfirst : named name ds = d :: rest) :
    (outcomesFrom mode [d.name] rest).filterMap Outcome.plan? = [] := by
  have hnames : ∀ e ∈ d :: rest, e.name = name := fun e he => name_of_mem_named (hfirst ▸ he)
  apply plans_eq_nil_of_taken
  intro e he
  rw [hnames e (List.mem_cons_of_mem _ he), hnames d List.mem_cons_self]
  exact List.mem_singleton_self _

/-- If the first resource of a name has a plan, that is the plan of the name. -/
theorem plans_of_resolve {plan : Plan} (hfirst : named name ds = d :: rest)
    (hexclude : d.lifecycle.exclude = false) (h : Plan.resolve mode d = .ok plan) :
    ((resolve mode ds).only name).plans = [plan] := by
  have houtcome : outcome mode d = .resolved plan := by rw [outcome, h]
  have hlater : (outcomesFrom mode [d.name] rest).filterMap Outcome.plan? = [] :=
    plans_eq_nil_of_named_cons hfirst
  rw [resolve_named_cons hfirst hexclude, houtcome]
  exact congrArg (plan :: ·) hlater

/-- If it has issues, there is no plan of the name, and its issues are the first failure. -/
theorem failures_of_resolve {issues : List Issue} (hfirst : named name ds = d :: rest)
    (hexclude : d.lifecycle.exclude = false) (h : Plan.resolve mode d = .error issues) :
    ((resolve mode ds).only name).plans = [] ∧
      ((resolve mode ds).only name).failures.head? =
        some ⟨d.name, .unresolved (some d.name) issues⟩ := by
  have houtcome : outcome mode d = .failed ⟨d.name, .unresolved (some d.name) issues⟩ := by
    rw [outcome, h]
  have hlater : (outcomesFrom mode [d.name] rest).filterMap Outcome.plan? = [] :=
    plans_eq_nil_of_named_cons hfirst
  rw [resolve_named_cons hfirst hexclude, houtcome]
  exact ⟨hlater, rfl⟩

/-- An excluded resource is among those skipped. -/
theorem mem_skipped (hd : d ∈ ds) (hexclude : d.lifecycle.exclude = true) :
    d.name ∈ (resolve mode ds).skipped := by
  obtain ⟨before, after, rfl⟩ := List.append_of_mem hd
  rw [resolve, outcomes, outcomesFrom_append, outcomesFrom_cons, outcomeIf, if_pos hexclude]
  exact List.mem_filterMap.2
    ⟨.skipped d.name, List.mem_append_right _ List.mem_cons_self, rfl⟩

/-- A batch with a result could resolve the first resource of every name, unless it is excluded. -/
theorem overload?_of_named (hnone : overload? ds = none) (hfirst : named name ds = d :: rest)
    (hexclude : d.lifecycle.exclude = false) : StateUpgrades.overload? d.stateRules = none := by
  obtain ⟨before, after, hsplit, hbefore, hname, -⟩ := List.filter_eq_cons_iff.1 hfirst
  rw [beq_iff_eq] at hname
  have hfree : ¬ Taken before d.name := by
    rintro ⟨e, he, -, hsame⟩
    exact hbefore e he (beq_iff_eq.2 (hsame.trans hname))
  exact overload?_eq_none_iff.1 hnone before d after hsplit ⟨hexclude, hfree⟩

end Batch

/-! ### Requests -/

namespace Product

variable {p : Product} {name : String} {strict : Option Bool} {d : Descriptor}
  {mode : ResolverMode} {r : BatchResult}

/-- The search for a name ends in one of three ways, by the first resource that has it. -/
theorem resource_cases (p : Product) (name : String) :
    (Batch.named name p.resources = [] ∧ p.resource name = .error (.noResource name p.name)) ∨
    ∃ d rest, Batch.named name p.resources = d :: rest ∧
      ((d.lifecycle.exclude = true ∧
        p.resource name = .error (.excludedResource name p.name)) ∨
      (d.lifecycle.exclude = false ∧ p.resource name = .ok d)) := by
  have hfind : p.resources.find? (·.name == name) = (Batch.named name p.resources).head? :=
    List.head?_filter.symm
  rw [resource, hfind]
  cases hnamed : Batch.named name p.resources with
  | nil => exact .inl ⟨rfl, rfl⟩
  | cons d rest =>
    refine .inr ⟨d, rest, rfl, ?_⟩
    cases hexclude : d.lifecycle.exclude with
    | true => exact .inl ⟨rfl, by simp [hexclude]⟩
    | false => exact .inr ⟨rfl, by simp [hexclude]⟩

theorem resolveOne_of_resource_error {e : ConfigError} (h : p.resource name = .error e) :
    p.resolveOne name strict = .error (.config e) := by
  rw [resolveOne, h]

/-- A resource that is found is resolved by itself. -/
theorem resolveOne_of_resource (h : p.resource name = .ok d) (hmode : p.mode strict = .ok mode) :
    p.resolveOne name strict = (Plan.attempt mode d).mapError .ofRefusal := by
  rw [resolveOne, h, hmode]

theorem resolveOne_eq_ok_iff {plan : Plan} :
    p.resolveOne name strict = .ok plan ↔
      ∃ d mode, p.resource name = .ok d ∧ p.mode strict = .ok mode ∧
        Plan.attempt mode d = .ok plan := by
  cases hresource : p.resource name with
  | error e => simp [resolveOne_of_resource_error hresource]
  | ok d =>
    cases hmode : p.mode strict with
    | error e => simp [resolveOne, hresource, hmode]
    | ok mode =>
      rw [resolveOne_of_resource hresource hmode]
      simp only [Except.ok.injEq, exists_and_left, exists_eq_left']
      cases Plan.attempt mode d <;> simp [Except.mapError]

theorem resolveAll_of_mode (hmode : p.mode strict = .ok mode) :
    p.resolveAll strict = (Batch.attempt mode p.resources).mapError .overload := by
  rw [resolveAll, hmode]

theorem resolveAll_eq_ok_iff :
    p.resolveAll strict = .ok r ↔
      ∃ mode, p.mode strict = .ok mode ∧ Batch.attempt mode p.resources = .ok r := by
  cases hmode : p.mode strict with
  | error e => simp [resolveAll, hmode]
  | ok mode =>
    rw [resolveAll_of_mode hmode]
    simp only [Except.ok.injEq, exists_eq_left']
    cases Batch.attempt mode p.resources <;> simp [Except.mapError]

/-- Why all resources together get no answer. -/
inductive Crashes (p : Product) (strict : Option Bool) : Crash → Prop
  /-- The hooks cannot be registered. -/
  | registration {e : RegistrationError} (hmode : p.mode strict = .error e) :
    Crashes p strict (.registration e)
  /-- The batch ends with a resource that is too much for the machine. -/
  | overload {mode : ResolverMode} {cause : Overload} (hmode : p.mode strict = .ok mode)
    (hrun : Batch.Run mode [] p.resources (.error cause)) : Crashes p strict (.overload cause)

theorem resolveAll_eq_error_iff {crash : Crash} :
    p.resolveAll strict = .error crash ↔ p.Crashes strict crash := by
  cases hmode : p.mode strict with
  | error e =>
    rw [resolveAll, hmode]
    constructor
    · rintro ⟨⟩
      exact .registration hmode
    · rintro (h | ⟨h, -⟩)
      · rw [hmode] at h
        cases h
        rfl
      · rw [hmode] at h
        cases h
  | ok mode =>
    rw [resolveAll_of_mode hmode]
    constructor
    · intro h
      cases hattempt : Batch.attempt mode p.resources with
      | ok r =>
        rw [hattempt] at h
        cases h
      | error cause =>
        rw [hattempt] at h
        cases h
        exact .overload hmode (Batch.attempt_eq_error_iff.1 hattempt)
    · rintro (h | ⟨h, hrun⟩)
      · rw [hmode] at h
        cases h
      · rw [hmode] at h
        cases h
        rw [Batch.attempt_eq_error_iff.2 hrun]
        rfl

end Product

/-- A batch answers a request by name in the same way. If there is a plan, it is the only one of
the name. Issues are those of its first failure, and there is no plan then. A name without a
resource does not occur, an excluded one among those skipped. -/
def BatchResult.Answers (r : BatchResult) (name : String) : Except RequestError Plan → Prop
  | .ok plan => r.plans.filter (·.resource == name) = [plan]
  | .error (.unresolved resource issues) =>
    r.failures.find? (·.name == name) = some ⟨name, .unresolved (some resource) issues⟩ ∧
      ∀ plan ∈ r.plans, plan.resource ≠ name
  | .error (.config (.noResource _ _)) =>
    (∀ plan ∈ r.plans, plan.resource ≠ name) ∧ (∀ f ∈ r.failures, f.name ≠ name) ∧
      name ∉ r.skipped
  | .error (.config (.excludedResource _ _)) => name ∈ r.skipped
  | .error (.config _) => False
  | .error (.crashed _) => False

namespace Product

variable {p : Product} {name : String} {strict : Option Bool} {r : BatchResult}

theorem answers_of_resolveAll (h : p.resolveAll strict = .ok r) :
    r.Answers name (p.resolveOne name strict) := by
  obtain ⟨mode, hmode, hattempt⟩ := resolveAll_eq_ok_iff.1 h
  obtain ⟨hbearable, rfl⟩ := Batch.attempt_eq_ok_iff.1 hattempt
  obtain ⟨hnone, hresource⟩ | ⟨d, rest, hfirst, hd⟩ := resource_cases p name
  · -- a batch of no resources says nothing
    have hempty : (Batch.resolve mode p.resources).only name = {} := by
      rw [← Batch.resolve_named, hnone]
      rfl
    rw [resolveOne_of_resource_error hresource]
    exact BatchResult.notMem_of_only_eq_empty hempty
  have hmem : d ∈ Batch.named name p.resources := hfirst ▸ List.mem_cons_self
  have hname : d.name = name := Batch.name_of_mem_named hmem
  obtain ⟨hexclude, hresource⟩ | ⟨hexclude, hresource⟩ := hd
  · rw [resolveOne_of_resource_error hresource, ← hname]
    exact Batch.mem_skipped (List.mem_of_mem_filter hmem) hexclude
  · rw [resolveOne_of_resource hresource hmode,
      Plan.attempt_of_overload?_eq_none (Batch.overload?_of_named hbearable hfirst hexclude)]
    cases hresolve : Plan.resolve mode d with
    | ok plan => exact Batch.plans_of_resolve hfirst hexclude hresolve
    | error issues =>
      obtain ⟨hplans, hfailure⟩ := Batch.failures_of_resolve hfirst hexclude hresolve
      rw [hname] at hfailure
      rw [hname]
      refine ⟨by rw [← List.head?_filter]; exact hfailure, fun plan hplan heq => ?_⟩
      have honly : plan ∈ ((Batch.resolve mode p.resources).only name).plans :=
        List.mem_filter.2 ⟨hplan, by simpa using heq⟩
      rw [hplans] at honly
      exact List.not_mem_nil honly

/-- **What is answered by name, the batch answers too**, if it gives a result. It gives none if the
hooks cannot be registered, or if its run ends with a resource that is too much for the machine,
whichever resource is asked for by name. -/
theorem resolveAll_answers (p : Product) (name : String) (strict : Option Bool) :
    (∀ r, p.resolveAll strict = .ok r → r.Answers name (p.resolveOne name strict)) ∧
    ∀ crash, p.resolveAll strict = .error crash ↔ p.Crashes strict crash :=
  ⟨fun _ h => answers_of_resolveAll h, fun _ => resolveAll_eq_error_iff⟩

/-- Whether the first resource of a name is excluded. -/
def hidesFirst (p : Product) (name : String) : Bool :=
  (p.resources.find? (·.name == name)).any (·.lifecycle.exclude)

/-- **A plan of the batch is found by name**, unless the first resource of the name is excluded:
then there is no way to it. -/
theorem resolveOne_of_mem_plans {plan : Plan} (h : p.resolveAll strict = .ok r)
    (hplan : plan ∈ r.plans) (hname : plan.resource = name) :
    p.resolveOne name strict =
      if p.hidesFirst name then .error (.config (.excludedResource name p.name))
      else .ok plan := by
  have honly : plan ∈ (r.only name).plans := List.mem_filter.2 ⟨hplan, by simpa using hname⟩
  have hhides : p.hidesFirst name =
      (Batch.named name p.resources).head?.any (·.lifecycle.exclude) := by
    rw [hidesFirst, Batch.named, List.head?_filter]
  rw [hhides]
  obtain ⟨mode, hmode, hattempt⟩ := resolveAll_eq_ok_iff.1 h
  obtain ⟨hbearable, rfl⟩ := Batch.attempt_eq_ok_iff.1 hattempt
  obtain ⟨hnone, -⟩ | ⟨d, rest, hfirst, hd⟩ := resource_cases p name
  · rw [← Batch.resolve_named, hnone] at honly
    exact absurd honly List.not_mem_nil
  rw [hfirst, List.head?_cons, Option.any_some]
  obtain ⟨hexclude, hresource⟩ | ⟨hexclude, hresource⟩ := hd
  · rw [resolveOne_of_resource_error hresource, hexclude, if_pos rfl]
  -- a batch has at most one plan of a name, and it has `plan`
  rw [resolveOne_of_resource hresource hmode, hexclude, if_neg Bool.false_ne_true,
    Plan.attempt_of_overload?_eq_none (Batch.overload?_of_named hbearable hfirst hexclude)]
  cases hresolve : Plan.resolve mode d with
  | ok found =>
    rw [Batch.plans_of_resolve hfirst hexclude hresolve, List.mem_singleton] at honly
    rw [honly]
    rfl
  | error issues =>
    rw [(Batch.failures_of_resolve hfirst hexclude hresolve).1] at honly
    exact absurd honly List.not_mem_nil

/-- A document in which one of two disks is excluded, and one of two networks. -/
def computeDocument : Json := .object [
  ("name", .text "compute"),
  ("resources", .list [
    .object [("name", .text "Disk"), ("base_url", .text "old/disks"), ("exclude", .bool true)],
    .object [("name", .text "Disk"), ("base_url", .text "disks")],
    .object [("name", .text "Network"), ("base_url", .text "networks")],
    .object [("name", .text "Network"), ("base_url", .text "old/nets"), ("exclude", .bool true)]])]

/-- The product of that document. -/
def compute : Product where
  name := "compute"
  resources := [
    { about := { name := "Disk" }, endpoints := { baseUrl := "old/disks" },
      lifecycle := { exclude := true } },
    { about := { name := "Disk" }, endpoints := { baseUrl := "disks" } },
    { about := { name := "Network" }, endpoints := { baseUrl := "networks" } },
    { about := { name := "Network" }, endpoints := { baseUrl := "old/nets" },
      lifecycle := { exclude := true } }]

theorem resolveAll_compute :
    ∃ r, compute.resolveAll none = .ok r ∧ r.plans.map Plan.resource = ["Disk", "Network"] :=
  exists_eq_ok_of_map (by decide +kernel)

/-- What is answered for the network is its only plan in the batch. -/
theorem resolveAll_answers_network :
    ∃ r plan, compute.resolveAll none = .ok r ∧ compute.resolveOne "Network" none = .ok plan ∧
      r.plans.filter (·.resource == "Network") = [plan] := by
  obtain ⟨r, hresult, -⟩ := resolveAll_compute
  obtain ⟨plan, hplan⟩ : ∃ plan, compute.resolveOne "Network" none = .ok plan :=
    exists_eq_ok_of_isSome (by decide +kernel)
  have hanswers := (resolveAll_answers compute "Network" none).1 r hresult
  rw [hplan] at hanswers
  exact ⟨r, plan, hresult, hplan, hanswers⟩

/-- The network that comes first is not excluded, so its plan is found. -/
theorem resolveOne_of_mem_plans_network :
    ∃ r plan, compute.resolveAll none = .ok r ∧ (plan ∈ r.plans ∧ plan.resource = "Network") ∧
      compute.resolveOne "Network" none = .ok plan := by
  obtain ⟨r, hresult, hplans⟩ := resolveAll_compute
  have hmem : "Network" ∈ r.plans.map Plan.resource := by
    rw [hplans]
    decide
  obtain ⟨plan, hplan, hname⟩ := List.mem_map.1 hmem
  have hfirst : compute.hidesFirst "Network" = false := by decide
  have hfound := resolveOne_of_mem_plans hresult hplan hname
  rw [hfirst, if_neg Bool.false_ne_true] at hfound
  exact ⟨r, plan, hresult, ⟨hplan, hname⟩, hfound⟩

/-- The disk that comes first is excluded, so the plan of the other is out of reach. -/
theorem resolveOne_disk :
    load { files := [({ parts := ["product.yaml"] }, .document computeDocument)] }
        { parts := ["product.yaml"] } = .ok compute ∧
      (∃ r, compute.resolveAll none = .ok r ∧ ∃ plan ∈ r.plans, plan.resource = "Disk") ∧
      compute.resolveOne "Disk" none =
        .error (.config (.excludedResource "Disk" "compute")) := by
  obtain ⟨r, hresult, hplans⟩ := resolveAll_compute
  have hmem : "Disk" ∈ r.plans.map Plan.resource := by
    rw [hplans]
    decide
  exact ⟨by decide +kernel, ⟨r, hresult, List.mem_map.1 hmem⟩, rfl⟩

/-- A document with a disk, and with an archive that has been through more versions than can be
listed. -/
def vaultsDocument : Json := .object [
  ("name", .text "vaults"),
  ("resources", .list [
    .object [("name", .text "Disk"), ("base_url", .text "disks")],
    .object [("name", .text "Archive"), ("base_url", .text "archives"),
      ("state_upgraders", .bool true), ("schema_version", .nat Overload.itemLimit)]])]

/-- The product of that document. -/
def vaults : Product where
  name := "vaults"
  resources := [
    { about := { name := "Disk" }, endpoints := { baseUrl := "disks" } },
    { about := { name := "Archive" }, endpoints := { baseUrl := "archives" },
      stateRules := { schemaVersion := Overload.itemLimit, upgraders := true } }]

/-- A workspace with that document. -/
def vaultsWorkspace : Workspace where
  files := [({ parts := ["product.yaml"] }, .document vaultsDocument)]

theorem load_vaults : load vaultsWorkspace { parts := ["product.yaml"] } = .ok vaults := by
  decide +kernel

/-- **What is answered by name, a batch need not answer**: the disk has a plan, but is lost with the
archive. -/
theorem resolveAll_vaults :
    load vaultsWorkspace { parts := ["product.yaml"] } = .ok vaults ∧
      (∃ plan, vaults.resolveOne "Disk" none = .ok plan) ∧
      vaults.resolveAll none = .error (.overload .tooManyItems) := by
  refine ⟨load_vaults, exists_eq_ok_of_isSome (by decide +kernel), ?_⟩
  have hoverload : Batch.overload? vaults.resources = some .tooManyItems := by decide
  rw [resolveAll_of_mode rfl, Batch.attempt, hoverload]
  rfl

end Product

end CrudPlan
