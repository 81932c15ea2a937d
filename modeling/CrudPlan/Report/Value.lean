import CrudPlan.Json.Printer

/-!
# Values in reports

How a report shows a value: a text between quotes and otherwise as it is, a list between square
brackets, `null` for none.

* `Report.textValue`, `Report.textsValue` and `Report.natsValue` show the values that plans have;
* `Report.value` shows any value;
* `Report.align` pads keys, so that the signs after them stand below each other.
-/

namespace CrudPlan.Report

/-- A text between quotes. -/
def textValue (s : String) : String := "\"" ++ s ++ "\""

/-- Shown items between square brackets. -/
def listValue (shown : List String) : String := "[" ++ ", ".intercalate shown ++ "]"

/-- A list of texts. -/
def textsValue (xs : List String) : String := listValue (xs.map textValue)

/-- A list of natural numbers. -/
def natsValue (xs : List Nat) : String := listValue (xs.map toString)

/-- A text, if there is one. -/
def optTextValue : Option String → String
  | none => "null"
  | some s => textValue s

/-- A truth value. -/
def boolValue (b : Bool) : String := if b then "True" else "False"

/-! ### Any value -/

mutual

/-- A value inside an object: a text is shown so that all its characters can be seen. -/
def innerValue : Json → String
  | .null => "None"
  | .bool b => boolValue b
  | .int n => toString n
  | .double d => String.ofList d.text
  | .text s => Text.quoted s
  | .list items => listValue (innerValues items)
  | .object members => "\x7b" ++ ", ".intercalate (innerMembers members) ++ "\x7d"

/-- The items of a list inside an object. -/
def innerValues : List Json → List String
  | [] => []
  | v :: rest => innerValue v :: innerValues rest

/-- The members of an object, each with its key. -/
def innerMembers : List (String × Json) → List String
  | [] => []
  | (k, v) :: rest => (Text.quoted k ++ ": " ++ innerValue v) :: innerMembers rest

end

mutual

/-- Any value. -/
def value : Json → String
  | .null => "null"
  | .bool b => boolValue b
  | .int n => toString n
  | .double d => String.ofList d.text
  | .text s => textValue s
  | .list items => listValue (values items)
  | .object members => innerValue (.object members)

/-- The items of a list. -/
def values : List Json → List String
  | [] => []
  | v :: rest => value v :: values rest

end

/-! ### Alignment -/

/-- A text with blanks after it, up to the given number of characters. -/
def padRight (width : Nat) (s : String) : String :=
  s ++ String.ofList (List.replicate (width - s.length) ' ')

/-- The number of characters of the longest text. -/
def maxLength (xs : List String) : Nat := (xs.map String.length).foldl max 0

/-- Items whose keys are padded to the longest of them. -/
def align (items : List (String × String)) : List (String × String) :=
  let width := maxLength (items.map (·.1))
  items.map fun (key, shown) => (padRight width key, shown)

end CrudPlan.Report
