import CrudPlan.Json.Printer
import CrudPlan.Plan.Identity
import CrudPlan.Plan.Lock
import CrudPlan.Plan.Policy
import CrudPlan.Sha256

/-!
# Resolved plans

A `Plan` is a descriptor with everything filled in that it leaves open.

* `ResolverMode` says how strict the resolver is and which hooks the runtime offers;
* `Plan.parts` runs every part of the resolution by itself, and `Plan.resolve` puts them together:
  a plan if no part has an issue, else the issues of all parts;
* `Plan.attempt` resolves a descriptor as far as the machine goes, and `Plan.Refusal` is why it may
  have no plan;
* `Plan.digest` is the hash of the plan's canonical JSON text.
-/

namespace CrudPlan

/-- Everything about a resource, filled in and checked. -/
structure Plan where
  /-- The name of the resource. -/
  resource : String
  /-- The first stage of the API that has it. -/
  minVersion : String
  /-- Its kind in the API. -/
  kind : String := ""
  /-- Its name in earlier versions. -/
  legacyName : String := ""
  /-- Why it should no longer be used. -/
  deprecationMessage : String := ""
  /-- The URLs of its operations. -/
  urls : Urls
  /-- What identifies it. -/
  identity : Identity
  /-- The lock that its operations hold. -/
  mutex : Option Lock := none
  /-- How stored states are upgraded. -/
  state : StateUpgrades
  /-- How its operations are requested and handled. -/
  policy : LifecyclePolicy
  /-- What is odd about it, but no issue. -/
  warnings : List String := []
  deriving DecidableEq, Repr

/-- Why a descriptor has no plan. -/
inductive Plan.Refusal where
  /-- The resource of the name has issues. -/
  | unresolved (resource : String) (issues : List Issue)
  /-- Its states are too much for the machine. -/
  | overloaded (cause : Overload)
  deriving DecidableEq, Repr

/-- How descriptors are resolved. -/
structure ResolverMode where
  /-- Whether upgrades without steps are an issue. -/
  strict : Bool := false
  /-- The hooks that the runtime offers, if they are known. -/
  hooks : Option HookRegistry := none

namespace Plan

/-- The dump of a plan. -/
def toJson (p : Plan) : Json := .object [
  ("resource", .text p.resource),
  ("min_version", .text p.minVersion),
  ("kind", .text p.kind),
  ("legacy_name", .text p.legacyName),
  ("deprecation_message", .text p.deprecationMessage),
  ("urls", p.urls.toJson),
  ("identity", p.identity.toJson),
  ("mutex", .optJson Lock.toJson p.mutex),
  ("state", p.state.toJson),
  ("policy", p.policy.toJson),
  ("warnings", .texts p.warnings)]

/-- The text whose hash is the digest of a plan. -/
def canonicalText (p : Plan) : String := p.toJson.canonical

/-- The hash of a plan, the same for equal plans. -/
def digest (p : Plan) : String := Sha256.hexDigest p.canonicalText.toUTF8.toList

/-- The hash of a plan, if the text that is hashed can be written. -/
def writtenDigest (p : Plan) : Except Overload String :=
  (p.toJson.written Json.canonical).map fun text => Sha256.hexDigest text.toUTF8.toList

/-! ### Resolution -/

/-- The outcome of each part of the resolution of a descriptor. -/
structure Parts where
  /-- The URLs. -/
  urls : Resolved Urls
  /-- The identity. -/
  identity : Resolved Identity
  /-- The lock. -/
  mutex : Resolved (Option Lock)
  /-- The state upgrades. -/
  state : Resolved StateUpgrades
  /-- The issues with the policy. -/
  policyIssues : List Issue

/-- The issues of all parts. -/
def Parts.issues (parts : Parts) : List Issue :=
  issuesOf parts.urls ++ issuesOf parts.identity ++ issuesOf parts.mutex ++ issuesOf parts.state ++
    parts.policyIssues

/-- Runs every part of the resolution. -/
def parts (mode : ResolverMode) (d : Descriptor) : Parts where
  urls := Urls.resolve d
  identity := Identity.resolve d
  mutex := Lock.resolve d d.identityFields
  state := StateUpgrades.resolve mode.strict d
  policyIssues := LifecyclePolicy.issues mode.hooks d

/-- The plan that the results of all parts make up. -/
def assemble (mode : ResolverMode) (d : Descriptor) (urls : Urls) (identity : Identity)
    (mutex : Option Lock) (state : StateUpgrades) : Plan where
  resource := d.name
  minVersion := d.about.minVersion.text
  kind := d.about.kind
  legacyName := d.about.legacyName
  deprecationMessage := d.about.deprecationMessage
  urls := urls
  identity := identity
  mutex := mutex
  state := state
  policy := LifecyclePolicy.assemble d urls
  warnings := StateUpgrades.warnings mode.strict d.stateRules

/-- The plan of a descriptor, or every issue with it, as long as the machine can do what it takes. -/
def resolve (mode : ResolverMode) (d : Descriptor) : Resolved Plan :=
  match parts mode d with
  | ⟨.ok urls, .ok identity, .ok mutex, .ok state, []⟩ =>
    .ok (assemble mode d urls identity mutex state)
  | parts => .error parts.issues

/-- Resolves a descriptor. An overload comes before all issues, also those of other parts. -/
def attempt (mode : ResolverMode) (d : Descriptor) : Except Refusal Plan :=
  match StateUpgrades.overload? d.stateRules with
  | some cause => .error (.overloaded cause)
  | none => (resolve mode d).mapError (.unresolved d.name)

/-- The names of the active operations of a plan. -/
def activeOperations (p : Plan) : List String := p.policy.activeOperations

end Plan

end CrudPlan
