import CrudPlan.Json.Basic
import CrudPlan.Overload
import CrudPlan.Text.Quoted

/-!
# JSON texts

Three ways to write a value.

* `Json.canonical` is one line without blanks, keys in order and only printable ASCII: equal
  values have equal texts, whatever the order of their members;
* `Json.report` is the same on indented lines, for people;
* `Json.document` is indented too, but keeps the order of the members and writes characters beyond
  ASCII as they are.

The machine gives no text of the first two forms for a value with an integer of too many digits
(`Json.written`).
-/

namespace CrudPlan.Json

/-! ### Characters in quotes -/

/-- The letter that stands for a character after a backslash. -/
def shortEscape? (c : Char) : Option Char :=
  if c = '"' then some '"'
  else if c = '\\' then some '\\'
  else if c = '\n' then some 'n'
  else if c = '\r' then some 'r'
  else if c = '\t' then some 't'
  else if c = '\x08' then some 'b'
  else if c = '\x0c' then some 'f'
  else none

/-- The escape of a sixteen-bit unit. -/
def unitEscape (n : Nat) : List Char := '\\' :: 'u' :: Text.hexDigits 4 n

/-- A character in ASCII: as it is if printable, else escaped, in two units beyond the first
65536 code points. -/
def escapeAscii (c : Char) : List Char :=
  match shortEscape? c with
  | some letter => ['\\', letter]
  | none =>
    let n := c.toNat
    if 0x20 ≤ n ∧ n ≤ 0x7e then [c]
    else if n < 0x10000 then unitEscape n
    else unitEscape (0xd800 + (n - 0x10000) / 0x400) ++ unitEscape (0xdc00 + (n - 0x10000) % 0x400)

/-- A character as it is, unless it is a control, a quote or a backslash. -/
def escapeControl (c : Char) : List Char :=
  match shortEscape? c with
  | some letter => ['\\', letter]
  | none => if c.toNat < 0x20 then unitEscape c.toNat else [c]

/-- A text between quotes. -/
def quote (escape : Char → List Char) (s : String) : List Char :=
  '"' :: s.toList.flatMap escape ++ ['"']

/-- The digits of an integer. -/
def intText (n : Int) : List Char := (toString n).toList

/-- The text of a truth value. -/
def boolText (b : Bool) : List Char := (if b then "true" else "false").toList

/-! ### One line -/

mutual

/-- A value on one line without blanks. -/
def compact (escape : Char → List Char) : Json → List Char
  | .null => "null".toList
  | .bool b => boolText b
  | .int n => intText n
  | .double d => d.text
  | .text s => quote escape s
  | .list items => '[' :: compactItems escape items ++ [']']
  | .object members => '{' :: compactMembers escape members ++ ['}']

/-- Items on one line, a comma between each two. -/
def compactItems (escape : Char → List Char) : List Json → List Char
  | [] => []
  | [v] => compact escape v
  | v :: rest => compact escape v ++ ',' :: compactItems escape rest

/-- Members on one line, a comma between each two. -/
def compactMembers (escape : Char → List Char) : List (String × Json) → List Char
  | [] => []
  | [(k, v)] => quote escape k ++ ':' :: compact escape v
  | (k, v) :: rest => quote escape k ++ ':' :: compact escape v ++ ',' :: compactMembers escape rest

end

/-- The value in one line of printable ASCII, the keys of every object in order. -/
def canonical (v : Json) : String := String.ofList (compact escapeAscii v.sortKeys)

/-! ### Indented lines -/

/-- A new line at the given depth. -/
def newLine (depth : Nat) : List Char := '\n' :: List.replicate (2 * depth) ' '

mutual

/-- A value on indented lines; `depth` is that of the line it starts on. -/
def indented (escape : Char → List Char) (depth : Nat) : Json → List Char
  | .null => "null".toList
  | .bool b => boolText b
  | .int n => intText n
  | .double d => d.text
  | .text s => quote escape s
  | .list [] => ['[', ']']
  | .list (v :: rest) => '[' :: indentedItems escape depth (v :: rest) ++ newLine depth ++ [']']
  | .object [] => ['{', '}']
  | .object (m :: rest) => '{' :: indentedMembers escape depth (m :: rest) ++ newLine depth ++ ['}']

/-- Items, each on a line of its own. -/
def indentedItems (escape : Char → List Char) (depth : Nat) : List Json → List Char
  | [] => []
  | [v] => newLine (depth + 1) ++ indented escape (depth + 1) v
  | v :: rest =>
    newLine (depth + 1) ++ indented escape (depth + 1) v ++ ',' :: indentedItems escape depth rest

/-- Members, each on a line of its own. -/
def indentedMembers (escape : Char → List Char) (depth : Nat) : List (String × Json) → List Char
  | [] => []
  | [(k, v)] =>
    newLine (depth + 1) ++ quote escape k ++ ':' :: ' ' :: indented escape (depth + 1) v
  | (k, v) :: rest =>
    newLine (depth + 1) ++ quote escape k ++ ':' :: ' ' :: indented escape (depth + 1) v ++
      ',' :: indentedMembers escape depth rest

end

/-- The value on indented lines of ASCII, the keys of every object in order. -/
def report (v : Json) : String := String.ofList (indented escapeAscii 0 v.sortKeys)

/-- The value on indented lines, in the order of its members. -/
def document (v : Json) : String := String.ofList (indented escapeControl 0 v)

/-! ### Limits -/

mutual

/-- The first integer of a value that cannot be written. -/
def overload? : Json → Option Overload
  | .int n => Overload.writing? n.natAbs
  | .list items => overloadOfItems? items
  | .object members => overloadOfMembers? members
  | _ => none

/-- The first integer among items that cannot be written. -/
def overloadOfItems? : List Json → Option Overload
  | [] => none
  | v :: rest => v.overload? <|> overloadOfItems? rest

/-- The first integer among members that cannot be written. -/
def overloadOfMembers? : List (String × Json) → Option Overload
  | [] => none
  | (_, v) :: rest => v.overload? <|> overloadOfMembers? rest

end

/-- The text of a value, in one of its forms, if all its integers can be written. -/
def written (form : Json → String) (v : Json) : Except Overload String :=
  match v.overload? with
  | some cause => .error cause
  | none => .ok (form v)

end CrudPlan.Json
