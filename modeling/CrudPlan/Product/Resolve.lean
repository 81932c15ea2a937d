import CrudPlan.Batch
import CrudPlan.Product.Load

/-!
# Resolving products

* `Product.resolveAll` resolves every resource of a product;
* `Product.resolveOne` resolves the first resource of a name, unless it is excluded.

Both follow the settings of the product unless a strictness is given. A `Crash` is why a request may
get no answer at all.
-/

namespace CrudPlan

/-- Why a request gets no answer. -/
inductive Crash where
  /-- The hooks of the product cannot be registered. -/
  | registration (error : RegistrationError)
  /-- The machine cannot do what it takes. -/
  | overload (cause : Overload)
  deriving DecidableEq, Repr

/-- Why a resource of a product has no plan. -/
inductive RequestError where
  /-- The product or the name is at fault. -/
  | config (error : ConfigError)
  /-- The resource has issues. -/
  | unresolved (resource : String) (issues : List Issue)
  /-- There is no answer. -/
  | crashed (crash : Crash)
  deriving DecidableEq, Repr

/-- The configuration error as a problem. -/
def ConfigError.problem (e : ConfigError) : Problem := .configuration e.message

/-- The crash as a problem. -/
def Crash.problem : Crash → Problem
  | .registration error => .other error.message
  | .overload cause => .other cause.message

/-- The refusal of a plan as an answer to a request. -/
def RequestError.ofRefusal : Plan.Refusal → RequestError
  | .unresolved resource issues => .unresolved resource issues
  | .overloaded cause => .crashed (.overload cause)

/-- The request error as a problem. -/
def RequestError.problem : RequestError → Problem
  | .config error => error.problem
  | .unresolved resource issues => .unresolved (some resource) issues
  | .crashed crash => crash.problem

namespace Product

variable (p : Product)

/-- How the resources of a product are resolved. -/
def mode (strict : Option Bool) : Except RegistrationError ResolverMode :=
  p.registry.map fun hooks => ⟨strict.getD p.strict, hooks⟩

/-- Resolves every resource. -/
def resolveAll (strict : Option Bool) : Except Crash BatchResult :=
  match p.mode strict with
  | .error e => .error (.registration e)
  | .ok mode => (Batch.attempt mode p.resources).mapError .overload

/-- The first resource of a name, unless it is excluded. -/
def resource (name : String) : Except ConfigError Descriptor :=
  match p.resources.find? (·.name == name) with
  | none => .error (.noResource name p.name)
  | some d => if d.lifecycle.exclude then .error (.excludedResource name p.name) else .ok d

/-- Resolves the first resource of a name. -/
def resolveOne (name : String) (strict : Option Bool) : Except RequestError Plan :=
  match p.resource name with
  | .error e => .error (.config e)
  | .ok d =>
    match p.mode strict with
    | .error e => .error (.crashed (.registration e))
    | .ok mode => (Plan.attempt mode d).mapError .ofRefusal

/-! ### Log -/

/-- What is logged while a resource is resolved by name. -/
def resolveOneTrace (name : String) (strict : Option Bool) : List LogEntry :=
  match p.resource name, p.mode strict with
  | .ok d, .ok mode => Plan.trace mode d
  | _, _ => []

/-- What is logged while every resource is resolved. -/
def resolveAllTrace (strict : Option Bool) : List LogEntry :=
  match p.mode strict with
  | .ok mode => Batch.trace mode p.resources
  | .error _ => []

end Product

end CrudPlan
