import CrudPlan.Document.Fault
import CrudPlan.Json.Basic
import CrudPlan.Number.Numeral

/-!
# Reading documents

A `Reader` turns a JSON value into a value of the library or reports every fault in it.

* `Reader.text`, `Reader.bool`, `Reader.int`, … read single values. Truth values and integers are
  also read from their usual spellings in text, and from floating-point numbers without a
  fraction if they are not too large;
* `Reader.listOf` and `Reader.record` read lists and objects;
* `Members.required`, `Members.optional` and `Members.closed` read the members of an object. A
  record is read by `<*>` in the order of its fields, so faults come in that order, and faults of
  unknown keys after them.
-/

namespace CrudPlan

/-- Reads a value of type `α` from a JSON value. -/
abbrev Reader (α : Type) := Json → Checked α

namespace Reader

variable {α : Type}

/-! ### Texts -/

/-- Any text. -/
def text : Reader String
  | .text s => .valid s
  | _ => .fault .notText

/-- A text for which `ok` holds; the other ones break the rule `kind`. -/
def textWhere (ok : String → Bool) (kind : FaultKind) : Reader String := fun v =>
  (text v).andThen fun s => if ok s then .valid s else .fault kind

/-- A text with at least one character. -/
def nonEmptyText : Reader String := textWhere (· != "") .textTooShort

/-- One of the given choices, by its spelling. -/
def choice (spelling : α → String) (choices : List α) : Reader α
  | .text s =>
    match choices.find? fun a => spelling a == s with
    | some a => .valid a
    | none => .fault .notAChoice
  | _ => .fault .notAChoice

/-! ### Truth values -/

/-- The spellings of `true`. -/
def trueWords : List String := ["1", "on", "t", "true", "y", "yes"]

/-- The spellings of `false`. -/
def falseWords : List String := ["0", "off", "f", "false", "n", "no"]

/-- The truth value that a text spells, in upper or lower case. -/
def boolOfText? (s : String) : Option Bool :=
  let word := String.ofList (s.toList.map Char.toLower)
  if trueWords.contains word then some true
  else if falseWords.contains word then some false
  else none

/-- The truth value of an integer; one that fits in 64 bits with a sign is at least readable. -/
def boolOfInt (n : Int) : Checked Bool :=
  if n = 0 then .valid false
  else if n = 1 then .valid true
  else if -Int.pow 2 63 ≤ n ∧ n < Int.pow 2 63 then .fault .unreadableBool
  else .fault .notBool

/-- The integer that a floating-point number is, if it lies strictly between `-2 ^ 63` and
`2 ^ 63`. -/
def smallInteger? (d : Double) : Option Int :=
  d.integer?.filter fun n => -Int.pow 2 63 < n && n < Int.pow 2 63

/-- A truth value. -/
def bool : Reader Bool
  | .bool b => .valid b
  | .int n => boolOfInt n
  | .double d =>
    match smallInteger? d with
    | some n => boolOfInt n
    | none => .fault .notBool
  | .text s =>
    match boolOfText? s with
    | some b => .valid b
    | none => .fault .unreadableBool
  | _ => .fault .notBool

/-! ### Integers -/

/-- The integer that a floating-point number is. -/
def intOfDouble (d : Double) : Checked Int :=
  match smallInteger? d, d.integer?, d with
  | some n, _, _ => .valid n
  | none, some _, _ => .fault .oversizedInt
  | none, none, .finite .. => .fault .fractionalInt
  | none, none, .infinite _ => .fault .infiniteInt

/-- An integer. -/
def int : Reader Int
  | .bool b => .valid (if b then 1 else 0)
  | .int n => .valid n
  | .double d => intOfDouble d
  | .text s =>
    match Numeral.integer s with
    | .ok n => .valid n
    | .error .malformed => .fault .unreadableInt
    | .error .tooLong => .fault .oversizedInt
  | _ => .fault .notInt

/-- An integer that is at least zero. -/
def nat : Reader Nat := fun v =>
  (int v).andThen fun n => if 0 ≤ n then .valid n.toNat else .fault .belowMinimum

/-- An integer that is more than zero. -/
def positive : Reader Nat := fun v =>
  (int v).andThen fun n => if 0 < n then .valid n.toNat else .fault .notAboveMinimum

/-! ### Composite values -/

/-- A value that may be `null`. -/
def nullable (read : Reader α) : Reader (Option α)
  | .null => .valid none
  | v => (read v).map some

/-- The items of a list, the first of them at the given position. -/
def itemsFrom (read : Reader α) (position : Nat) : List Json → Checked (List α)
  | [] => .valid []
  | v :: rest =>
    List.cons <$> (read v).within (.index position) <*> itemsFrom read (position + 1) rest

/-- A list whose items are all read alike. -/
def listOf (read : Reader α) : Reader (List α)
  | .list items => itemsFrom read 0 items
  | _ => .fault .notList

/-- A list with at least one item. -/
def nonEmptyListOf (read : Reader α) : Reader (List α)
  | .list [] => .fault .listTooShort
  | v => listOf read v

/-- An object, from its members. -/
def record (read : List (String × Json) → Checked α) : Reader α
  | .object members => read members
  | _ => .fault .notRecord

end Reader

/-- The members of an object. -/
abbrev Members := List (String × Json)

namespace Members

variable {α : Type} (members : Members)

/-- A member that has to be there. -/
def required (key : String) (read : Reader α) : Checked α :=
  match members.lookup key with
  | some v => (read v).within (.key key)
  | none => .invalid [⟨[.key key], .missing⟩]

/-- A member that may be left out. -/
def optional (key : String) (read : Reader α) (absent : α) : Checked α :=
  match members.lookup key with
  | some v => (read v).within (.key key)
  | none => .valid absent

/-- The faults of the keys that are not among `known`. -/
def unknownKeys (known : List String) : List Fault :=
  (members.filter fun (key, _) => !known.contains key).map fun (key, _) => ⟨[.key key], .unknownKey⟩

/-- Only the `known` keys are there. -/
def closed (known : List String) : Checked Unit :=
  match unknownKeys members known with
  | [] => .valid ()
  | faults => .invalid faults

end Members

end CrudPlan
