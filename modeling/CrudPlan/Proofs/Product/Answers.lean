import CrudPlan.Proofs.Hook.Tables
import CrudPlan.Proofs.Plan.Limits
import CrudPlan.Proofs.Product.ByName
import CrudPlan.Proofs.Product.Loading

/-!
# What requests to a product get for an answer

The registry of a product is made anew for every request, from the hooks that it lists. Making one
can fail, and then there would be no answer at all. A product that was loaded has been checked for
this, so that only a resource that is too much for the machine keeps a request from its answer.

* `Product.exists_registry_iff` says when the registry can be made, and
  `Product.exists_mode_of_load` that it can after loading;
* `Product.exists_resolveAll_iff` and `Product.exists_resolveOne_overload_iff` say when a request is
  too much for the machine;
* `Product.answerable_of_load`: requests to a product that was loaded fail only for what they ask
  for. `Product.requests_vaults` shows that they may get no answer.
-/

namespace CrudPlan.Product

variable {w : Workspace} {path : FilePath} {p : Product} {name : String} {strict : Option Bool}
  {mode : ResolverMode}

/-! ### Registries -/

/-- The hooks that a product lists, with the names of their kinds. -/
def listedHooks (table : List (HookKind × List String)) : List Registration :=
  HookRegistry.listed (table.map fun (kind, names) => (kind.text, names))

/-- **The registry can be made if no hook has an empty name, or that of another.** -/
theorem exists_registry_iff :
    (∃ hooks, p.registry = .ok hooks) ↔
      ∀ table, p.hooks = some table → HookRegistry.WellNamed (listedHooks table) := by
  unfold registry
  cases p.hooks with
  | none => simp
  | some table =>
    have hmade : (∃ r, registryOf table = .ok r) ↔ HookRegistry.WellNamed (listedHooks table) :=
      HookRegistry.exists_ofNames_iff
    simp only [Option.some.injEq, forall_eq', ← hmade]
    cases registryOf table <;> simp [Except.map]

/-- **Loading checks that the registry can be made.** -/
theorem exists_registry_of_load (h : load w path = .ok p) : ∃ hooks, p.registry = .ok hooks := by
  obtain ⟨ms, settings, -, -, -, hread⟩ := load_eq_ok_iff.1 h
  obtain ⟨q, -, hchecked⟩ := Checked.andThen_eq_valid_iff.1 hread
  obtain ⟨rfl, hmade⟩ := checkHooks_eq_valid_iff.1 hchecked
  exact hmade

/-- So it is known how the resources of a loaded product are resolved. -/
theorem exists_mode_of_load (h : load w path = .ok p) (strict : Option Bool) :
    ∃ mode, p.mode strict = .ok mode := by
  obtain ⟨hooks, hmade⟩ := exists_registry_of_load h
  exact ⟨_, by rw [Product.mode, hmade]; rfl⟩

/-! ### Limits -/

/-- All resources together are resolved if none that has to be is too much for the machine. -/
theorem exists_resolveAll_iff (hmode : p.mode strict = .ok mode) :
    (∃ r, p.resolveAll strict = .ok r) ↔
      ∀ before d after, p.resources = before ++ d :: after → Batch.Fresh before d →
        d.stateRules.Bearable := by
  simp only [resolveAll_eq_ok_iff, hmode, Except.ok.injEq, exists_eq_left', Batch.attempt_eq_ok_iff,
    exists_and_left, exists_eq, and_true, Batch.overload?_eq_none_iff,
    StateUpgrades.overload?_eq_none_iff]

/-- A resource that is found is resolved unless it is too much for the machine. -/
theorem exists_resolveOne_overload_iff (hmode : p.mode strict = .ok mode) :
    (∃ cause, p.resolveOne name strict = .error (.crashed (.overload cause))) ↔
      ∃ d, p.resource name = .ok d ∧ ¬ d.stateRules.Bearable := by
  cases hresource : p.resource name with
  | error e => simp [resolveOne_of_resource_error hresource]
  | ok d =>
    rw [resolveOne_of_resource hresource hmode]
    simp only [Except.ok.injEq, exists_eq_left', ← StateUpgrades.overload?_eq_none_iff,
      Option.ne_none_iff_exists', ← @Plan.attempt_eq_overloaded_iff mode]
    cases Plan.attempt mode d with
    | ok plan => simp [Except.mapError]
    | error refusal => cases refusal <;> simp [Except.mapError, RequestError.ofRefusal]

/-! ### Answers -/

/-- What can become of requests to a product. -/
structure Answerable (p : Product) (name : String) (strict : Option Bool) : Prop where
  /-- The registry can be made. -/
  registry : ∃ hooks, p.registry = .ok hooks
  /-- It is made because no listed hook has an empty name, or that of another. -/
  wellNamed : ∀ table, p.hooks = some table → HookRegistry.WellNamed (listedHooks table)
  /-- All resources together have a result, or are too much for the machine. -/
  all : (∃ r, p.resolveAll strict = .ok r) ∨
    ∃ cause, p.resolveAll strict = .error (.overload cause)
  /-- They have a result if none that has to be resolved is too much for the machine. -/
  all_iff : (∃ r, p.resolveAll strict = .ok r) ↔
    ∀ before d after, p.resources = before ++ d :: after → Batch.Fresh before d →
      d.stateRules.Bearable
  /-- One resource has a plan, there is a problem with the request or with the resource, or it is
  too much for the machine. -/
  one : (∃ plan, p.resolveOne name strict = .ok plan) ∨
    (∃ e, p.resolveOne name strict = .error (.config e)) ∨
    (∃ issues, p.resolveOne name strict = .error (.unresolved name issues)) ∨
    ∃ cause, p.resolveOne name strict = .error (.crashed (.overload cause))
  /-- There is a problem with the request exactly if no resource has the name or the first one that
  has it is excluded. -/
  config_iff : (∃ e, p.resolveOne name strict = .error (.config e)) ↔
    (∀ d ∈ p.resources, d.name ≠ name) ∨ p.hidesFirst name = true
  /-- It is too much for the machine exactly if the resource that is found is. -/
  overload_iff : (∃ cause, p.resolveOne name strict = .error (.crashed (.overload cause))) ↔
    ∃ d, p.resource name = .ok d ∧ ¬ d.stateRules.Bearable

/-- There is a problem with a request exactly if no resource is found. -/
theorem exists_resolveOne_config_iff (hmode : p.mode strict = .ok mode) :
    (∃ e, p.resolveOne name strict = .error (.config e)) ↔ ∃ e, p.resource name = .error e := by
  cases hresource : p.resource name with
  | error e => simp [resolveOne_of_resource_error hresource]
  | ok d =>
    rw [resolveOne_of_resource hresource hmode]
    cases Plan.attempt mode d with
    | ok plan => simp [Except.mapError]
    | error refusal => cases refusal <;> simp [Except.mapError, RequestError.ofRefusal]

theorem exists_resource_error_iff :
    (∃ e, p.resource name = .error e) ↔
      (∀ d ∈ p.resources, d.name ≠ name) ∨ p.hidesFirst name = true := by
  rw [resource, hidesFirst]
  cases hfind : p.resources.find? (·.name == name) with
  | none =>
    have hnone : ∀ d ∈ p.resources, d.name ≠ name := by simpa using hfind
    exact ⟨fun _ => .inl hnone, fun _ => ⟨_, rfl⟩⟩
  | some d =>
    have hsome : ¬ ∀ d ∈ p.resources, d.name ≠ name := by
      intro h
      exact h d (List.mem_of_find?_eq_some hfind) (by simpa using List.find?_some hfind)
    rw [Option.any_some, or_iff_right hsome]
    dsimp only
    split_ifs with hexclude <;> simp [hexclude]

/-- A request ends in one of four ways. -/
theorem resolveOne_cases (hmode : p.mode strict = .ok mode) :
    (∃ plan, p.resolveOne name strict = .ok plan) ∨
    (∃ e, p.resolveOne name strict = .error (.config e)) ∨
    (∃ issues, p.resolveOne name strict = .error (.unresolved name issues)) ∨
    ∃ cause, p.resolveOne name strict = .error (.crashed (.overload cause)) := by
  obtain ⟨-, hresource⟩ | ⟨d, rest, hfirst, hd⟩ := resource_cases p name
  · exact .inr (.inl ⟨_, resolveOne_of_resource_error hresource⟩)
  obtain ⟨-, hresource⟩ | ⟨-, hresource⟩ := hd
  · exact .inr (.inl ⟨_, resolveOne_of_resource_error hresource⟩)
  have hname : d.name = name := Batch.name_of_mem_named (hfirst ▸ List.mem_cons_self)
  rw [resolveOne_of_resource hresource hmode]
  cases hattempt : Plan.attempt mode d with
  | ok plan => exact .inl ⟨plan, rfl⟩
  | error refusal =>
    cases refusal with
    | unresolved resource issues =>
      obtain ⟨-, rfl, -⟩ := Plan.attempt_eq_unresolved_iff.1 hattempt
      exact .inr (.inr (.inl ⟨issues, by rw [hname]; rfl⟩))
    | overloaded cause => exact .inr (.inr (.inr ⟨cause, rfl⟩))

/-- **Requests to a product that was loaded fail only for what they ask for**, with every strictness
and every name: for the name, for issues of the resource, or because a resource is too much for the
machine. -/
theorem answerable_of_load (h : load w path = .ok p) (name : String) (strict : Option Bool) :
    p.Answerable name strict := by
  obtain ⟨hooks, hmade⟩ := exists_registry_of_load h
  obtain ⟨mode, hmode⟩ := exists_mode_of_load h strict
  refine ⟨⟨hooks, hmade⟩, exists_registry_iff.1 ⟨hooks, hmade⟩, ?_, exists_resolveAll_iff hmode,
    resolveOne_cases hmode,
    (exists_resolveOne_config_iff hmode).trans exists_resource_error_iff,
    exists_resolveOne_overload_iff hmode⟩
  rw [resolveAll_of_mode hmode]
  cases Batch.attempt mode p.resources with
  | ok r => exact .inl ⟨r, rfl⟩
  | error cause => exact .inr ⟨cause, rfl⟩

/-- A document that lists hooks of two kinds, one of which is used for the other. -/
def subnetsDocument : Json := .object [
  ("name", .text "subnets"),
  ("hooks", .object [("custom_diff", .list [.text "labels", .text "ranges"]),
    ("retry_predicate", .list [.text "busy"])]),
  ("resources", .list [
    .object [("name", .text "Subnet"), ("base_url", .text "subnets"),
      ("error_retry_predicates", .list [.text "busy"])],
    .object [("name", .text "Route"), ("base_url", .text "routes"),
      ("custom_diff", .list [.text "busy"])]])]

/-- The product of that document. -/
def subnets : Product where
  name := "subnets"
  hooks := some [(.customDiff, ["labels", "ranges"]), (.retryPredicate, ["busy"])]
  resources := [
    { about := { name := "Subnet" }, endpoints := { baseUrl := "subnets" },
      runtimeHooks := { retryPredicates := ["busy"] } },
    { about := { name := "Route" }, endpoints := { baseUrl := "routes" },
      runtimeHooks := { customDiff := ["busy"] } }]

/-- Also the resource that uses a hook for the wrong thing gets an answer. -/
theorem answerable_subnets :
    load { files := [({ parts := ["product.yaml"] }, .document subnetsDocument)] }
        { parts := ["product.yaml"] } = .ok subnets ∧
      subnets.Answerable "Route" none := by
  have hload : load { files := [({ parts := ["product.yaml"] }, .document subnetsDocument)] }
      { parts := ["product.yaml"] } = .ok subnets := by decide +kernel
  exact ⟨hload, answerable_of_load hload "Route" none⟩

/-- **A product that was loaded need not get answers.** One of its resources is too much for the
machine, by itself and among the others. -/
theorem requests_vaults :
    load vaultsWorkspace { parts := ["product.yaml"] } = .ok vaults ∧
      vaults.resolveAll none = .error (.overload .tooManyItems) ∧
      vaults.resolveOne "Archive" none = .error (.crashed (.overload .tooManyItems)) := by
  refine ⟨load_vaults, ?_, ?_⟩
  · rw [resolveAll_of_mode rfl, Batch.attempt]
    rfl
  · rw [resolveOne_of_resource rfl rfl, Plan.attempt]
    rfl

end CrudPlan.Product
