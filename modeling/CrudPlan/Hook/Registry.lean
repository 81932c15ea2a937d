import CrudPlan.Hook.Basic
import CrudPlan.Issue
import CrudPlan.Json.Basic

/-!
# Hook registries

A registry knows the hooks that the runtime offers. It only grows: names are non-empty, each is
taken once and for all, and it keeps the kind it was registered under.

* `HookRegistry.register` adds a hook, `HookRegistry.ofNames` a whole table of them;
* `HookRegistry.find?` looks a name up;
* `HookRegistry.check` reports the uses of hooks that are not registered under the kind in which
  they are used.
-/

namespace CrudPlan

/-- A registered hook. Its kind is the name it was registered under, which need not be a
`HookKind`. -/
structure Registration where
  /-- The name of the hook. -/
  name : String
  /-- The name of its kind. -/
  kind : String
  /-- What the runtime keeps with it. -/
  target : Json := .null

/-- Why a hook cannot be registered. -/
inductive RegistrationError where
  | emptyName
  | taken (name : String)
  deriving DecidableEq, Repr

/-- The report of a registration error. -/
def RegistrationError.message : RegistrationError → String
  | .emptyName => "Hook name must be non-empty"
  | .taken name => s!"Hook already registered: {name}"

/-- The hooks that the runtime offers, in the order of registration. -/
structure HookRegistry where
  /-- The registrations. -/
  registrations : List Registration := []

namespace HookRegistry

variable (r : HookRegistry)

/-- The registry without hooks. -/
def empty : HookRegistry := {}

/-- The registration of a name. -/
def find? (name : String) : Option Registration := r.registrations.find? (·.name == name)

/-- Whether a name is registered. -/
def contains (name : String) : Bool := (r.find? name).isSome

/-- How many hooks are registered. -/
def size : Nat := r.registrations.length

/-- Adds a hook. -/
def register (name kind : String) (target : Json := .null) :
    Except RegistrationError HookRegistry :=
  if name = "" then .error .emptyName
  else if r.contains name then .error (.taken name)
  else .ok ⟨r.registrations ++ [⟨name, kind, target⟩]⟩

theorem find?_register {r grown : HookRegistry} {name kind : String} {target : Json}
    (h : r.register name kind target = .ok grown) (key : String) :
    grown.find? key = if key = name then some ⟨name, kind, target⟩ else r.find? key := by
  unfold register at h
  split at h
  · simp at h
  · split at h
    · simp at h
    · next hn =>
      simp only [Except.ok.injEq] at h
      subst h
      simp only [contains, find?, Bool.not_eq_true, Option.isSome_eq_false_iff,
        Option.isNone_iff_eq_none] at hn
      simp only [find?, List.find?_append, List.find?_cons, List.find?_nil]
      by_cases hk : key = name
      · subst hk
        simp [hn]
      · have hne : (name == key) = false := by simpa using Ne.symm hk
        simp [hk, hne]

/-- Adds hooks of one kind. -/
def registerNames (kind : String) (names : List String) : Except RegistrationError HookRegistry :=
  names.foldlM (fun r name => r.register name kind) r

/-- The registry of a table of kinds and names. -/
def ofNames (table : List (String × List String)) : Except RegistrationError HookRegistry :=
  table.foldlM (fun r (kind, names) => r.registerNames kind names) empty

/-- What is wrong with the use of a hook. -/
def complaint? (ref : HookRef) : Option String :=
  match r.find? ref.name with
  | none => some (ref.kind.text ++ " '" ++ ref.name ++ "' is not registered")
  | some registration =>
    if registration.kind = ref.kind.text then none
    else some ("'" ++ ref.name ++ "' is registered as " ++ registration.kind ++ ", not " ++
      ref.kind.text)

/-- The issues with a list of uses, in the order of the list. -/
def check (refs : List HookRef) (resolver : String := "policy") : List Issue :=
  refs.filterMap fun ref =>
    (r.complaint? ref).map fun message => ⟨.unknownHook, resolver, ref.kind.field, message⟩

end HookRegistry

end CrudPlan
