import CrudPlan.Number.Double

/-!
# JSON values

The documents that descriptors and products are read from, and that plans are written to.

* `Json` keeps the members of an object in the order of the document;
* a number is an integer of any size or, if it is written with a fraction or an exponent, a
  floating-point number, so that `2.0` and `2` are told apart;
* `Json.sortKeys` puts the members of every object in the order of their keys.
-/

namespace CrudPlan

/-- A JSON value. -/
inductive Json where
  | null
  | bool (value : Bool)
  /-- A number written without a fraction and an exponent. -/
  | int (value : Int)
  /-- A number written with a fraction or an exponent. -/
  | double (value : Double)
  | text (value : String)
  | list (items : List Json)
  /-- The members of an object, in the order of the document. -/
  | object (members : List (String × Json))
  deriving Inhabited, Repr

namespace Json

/-- The JSON value of a natural number. -/
def nat (n : Nat) : Json := .int n

/-- The JSON value of a text, or `null` where there is none. -/
def optText : Option String → Json
  | none => .null
  | some s => .text s

/-- The JSON value of a list of texts. -/
def texts (xs : List String) : Json := .list (xs.map .text)

/-- The JSON value of a list, from those of its entries. -/
def listOf {α : Type} (dump : α → Json) (xs : List α) : Json := .list (xs.map dump)

/-- The JSON value of an entry, or `null` where there is none. -/
def optJson {α : Type} (dump : α → Json) : Option α → Json
  | none => .null
  | some a => dump a

/-- Whether a value says nothing: `null`, `false`, zero, or without content. -/
def isVoid : Json → Bool
  | .null => true
  | .bool b => !b
  | .int n => n == 0
  | .double d => d.isZero
  | .text s => s == ""
  | .list items => items.isEmpty
  | .object members => members.isEmpty

/-- Members in the order of their keys; members of one key keep their order. -/
def sortMembers (members : List (String × Json)) : List (String × Json) :=
  members.mergeSort fun a b => decide (a.1 ≤ b.1)

mutual

/-- The value with the members of every object in the order of their keys. -/
def sortKeys : Json → Json
  | .list items => .list (sortKeysItems items)
  | .object members => .object (sortMembers (sortKeysMembers members))
  | v => v

/-- The items of a list, each with its keys sorted. -/
def sortKeysItems : List Json → List Json
  | [] => []
  | v :: rest => v.sortKeys :: sortKeysItems rest

/-- The members of an object, the value of each with its keys sorted. -/
def sortKeysMembers : List (String × Json) → List (String × Json)
  | [] => []
  | (k, v) :: rest => (k, v.sortKeys) :: sortKeysMembers rest

end

end Json

end CrudPlan
