import CrudPlan.Document.Reader

/-!
# Request methods

Each operation on a resource sends a request with one of the methods that suit it.

* `Verb` holds all methods, `OneOf allowed` those of a list;
* `CreateVerb`, `ReadVerb`, … are the methods that each operation may use, and `CreateVerb.usual`,
  `ReadVerb.usual`, … those that it uses unless another one is given.
-/

namespace CrudPlan

/-- A request method. -/
inductive Verb where
  | get
  | post
  | put
  | patch
  | delete
  deriving DecidableEq, Repr

/-- The name of a method. -/
def Verb.text : Verb → String
  | .get => "GET"
  | .post => "POST"
  | .put => "PUT"
  | .patch => "PATCH"
  | .delete => "DELETE"

/-- A value that is in a list. -/
abbrev OneOf {α : Type} (allowed : List α) := { a : α // a ∈ allowed }

/-- Reads one of the values in a list, by its spelling. -/
def Reader.oneOf {α : Type} (spelling : α → String) (allowed : List α) : Reader (OneOf allowed) :=
  Reader.choice (fun a => spelling a.val) allowed.attach

/-- Methods that create a resource. -/
abbrev CreateVerb := OneOf [Verb.post, .put, .patch]

/-- The usual method that creates a resource. -/
def CreateVerb.usual : CreateVerb := ⟨.post, by decide⟩

/-- Methods that read a resource. -/
abbrev ReadVerb := OneOf [Verb.get, .post]

/-- The usual method that reads a resource. -/
def ReadVerb.usual : ReadVerb := ⟨.get, by decide⟩

/-- Methods that update a resource. -/
abbrev UpdateVerb := OneOf [Verb.put, .patch, .post]

/-- The usual method that updates a resource. -/
def UpdateVerb.usual : UpdateVerb := ⟨.put, by decide⟩

/-- Methods that delete a resource. -/
abbrev DeleteVerb := OneOf [Verb.delete, .post, .put, .patch]

/-- The usual method that deletes a resource. -/
def DeleteVerb.usual : DeleteVerb := ⟨.delete, by decide⟩

/-- Methods that fetch an access policy. -/
abbrev FetchVerb := OneOf [Verb.get, .post]

/-- The usual method that fetches an access policy. -/
def FetchVerb.usual : FetchVerb := ⟨.get, by decide⟩

/-- Methods that set an access policy. -/
abbrev SetVerb := OneOf [Verb.post, .put]

/-- The usual method that sets an access policy. -/
def SetVerb.usual : SetVerb := ⟨.post, by decide⟩

end CrudPlan
