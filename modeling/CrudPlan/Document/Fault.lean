/-!
# Faults in a document

* `Step` leads from a value to a part of it, and the path of a fault is a list of steps;
* `FaultKind` says which rule a part breaks; `FaultKind.code` is its stable name;
* `Checked` is a value read from a document, or all the faults found. Two readings are combined by
  `<*>`, which keeps the faults of both, those of the first before those of the second.
-/

namespace CrudPlan

/-- One step from a value to a part of it. -/
inductive Step where
  /-- To the member of an object. -/
  | key (name : String)
  /-- To the item of a list. -/
  | index (position : Nat)
  deriving DecidableEq, Repr

/-- The rule that a part of a document breaks. -/
inductive FaultKind where
  | missing
  | unknownKey
  | notText
  | textTooShort
  | textPattern
  | notBool
  | unreadableBool
  | notInt
  | unreadableInt
  | fractionalInt
  | oversizedInt
  | infiniteInt
  | belowMinimum
  | notAboveMinimum
  | notList
  | listTooShort
  | notMapping
  | notAChoice
  | notRecord
  | notTaggedRecord
  | missingTag
  | unknownTag
  | notPath
  /-- The parts are well formed, but a rule between them is broken. -/
  | rejected (reason : String)
  deriving DecidableEq, Repr

/-- The stable name of a rule. -/
def FaultKind.code : FaultKind → String
  | .missing => "missing"
  | .unknownKey => "extra_forbidden"
  | .notText => "string_type"
  | .textTooShort => "string_too_short"
  | .textPattern => "string_pattern_mismatch"
  | .notBool => "bool_type"
  | .unreadableBool => "bool_parsing"
  | .notInt => "int_type"
  | .unreadableInt => "int_parsing"
  | .fractionalInt => "int_from_float"
  | .oversizedInt => "int_parsing_size"
  | .infiniteInt => "finite_number"
  | .belowMinimum => "greater_than_equal"
  | .notAboveMinimum => "greater_than"
  | .notList => "list_type"
  | .listTooShort => "too_short"
  | .notMapping => "dict_type"
  | .notAChoice => "literal_error"
  | .notRecord => "model_type"
  | .notTaggedRecord => "model_attributes_type"
  | .missingTag => "union_tag_not_found"
  | .unknownTag => "union_tag_invalid"
  | .notPath => "path_type"
  | .rejected _ => "value_error"

/-- A part of a document that breaks a rule. -/
structure Fault where
  /-- The way from the document to the part. -/
  path : List Step
  /-- The rule. -/
  kind : FaultKind
  deriving DecidableEq, Repr

/-- A value read from a document, or the faults found. -/
inductive Checked (α : Type) where
  | valid (value : α)
  | invalid (faults : List Fault)
  deriving DecidableEq, Repr

namespace Checked

variable {α β : Type}

/-- A single fault at the value itself. -/
def fault (kind : FaultKind) : Checked α := .invalid [⟨[], kind⟩]

/-- The value with a function applied. -/
def map (f : α → β) : Checked α → Checked β
  | .valid a => .valid (f a)
  | .invalid faults => .invalid faults

/-- Both readings; the faults of the first come first. -/
def apply : Checked (α → β) → Checked α → Checked β
  | .valid f, .valid a => .valid (f a)
  | .valid _, .invalid faults => .invalid faults
  | .invalid faults, .valid _ => .invalid faults
  | .invalid first, .invalid second => .invalid (first ++ second)

instance : Applicative Checked where
  pure := .valid
  map := map
  seq f a := apply f (a ())

/-- A second reading that needs the value of the first. -/
def andThen (x : Checked α) (f : α → Checked β) : Checked β :=
  match x with
  | .valid a => f a
  | .invalid faults => .invalid faults

/-- The same reading as a part of a larger value. -/
def within (step : Step) : Checked α → Checked α
  | .valid a => .valid a
  | .invalid faults => .invalid (faults.map fun f => { f with path := step :: f.path })

theorem seq_eq_valid_iff {f : Checked (α → β)} {x : Checked α} {b : β} :
    f <*> x = .valid b ↔ ∃ g a, f = .valid g ∧ x = .valid a ∧ g a = b := by
  cases f <;> cases x <;> simp [Seq.seq, apply]

theorem andThen_eq_valid_iff {x : Checked α} {f : α → Checked β} {b : β} :
    x.andThen f = .valid b ↔ ∃ a, x = .valid a ∧ f a = .valid b := by
  cases x <;> simp [andThen]

theorem within_eq_valid_iff {step : Step} {x : Checked α} {a : α} :
    x.within step = .valid a ↔ x = .valid a := by
  cases x <;> simp [within]

/-- The value, if there is no fault. -/
def value? : Checked α → Option α
  | .valid a => some a
  | .invalid _ => none

end Checked

end CrudPlan
