import CrudPlan.Json.Basic
import CrudPlan.Number.Numeral

/-!
# Reading JSON texts

`Json.parse?` reads a JSON text. Blanks may stand between tokens, and nothing may follow the value.
A number with a fraction or an exponent is the floating-point number that is nearest to it.

Values are read with fuel: a value takes at least one character, and reading the value and the rest
of a list or an object takes two steps, so twice the length of the text is enough.
-/

namespace CrudPlan.Json

/-- A blank between tokens. -/
def isGap (c : Char) : Bool := c == ' ' || c == '\t' || c == '\n' || c == '\r'

/-- A text without the blanks at its head. -/
def skipGaps (s : List Char) : List Char := s.dropWhile isGap

/-- The text after a word at its head. -/
def afterWord? (word : String) (s : List Char) : Option (List Char) :=
  if word.toList.isPrefixOf s then some (s.drop word.length) else none

/-! ### Texts -/

/-- The value of a hexadecimal digit. -/
def hexValue? (c : Char) : Option Nat :=
  if c.isDigit then some (c.toNat - '0'.toNat)
  else if 'a' ≤ c ∧ c ≤ 'f' then some (c.toNat - 'a'.toNat + 10)
  else if 'A' ≤ c ∧ c ≤ 'F' then some (c.toNat - 'A'.toNat + 10)
  else none

/-- The number of four hexadecimal digits. -/
def hexUnit? (a b c d : Char) : Option Nat := do
  let high := 16 * (← hexValue? a) + (← hexValue? b)
  let low := 16 * (← hexValue? c) + (← hexValue? d)
  return 256 * high + low

/-- The code point that a letter after a backslash stands for. -/
def escapedCode? : Char → Option Nat
  | '"' => some 0x22
  | '\\' => some 0x5c
  | '/' => some 0x2f
  | 'b' => some 0x08
  | 'f' => some 0x0c
  | 'n' => some 0x0a
  | 'r' => some 0x0d
  | 't' => some 0x09
  | _ => none

/-- The code points and units up to the closing quote, and the rest. -/
def quotedCodes? : List Char → Option (List Nat × List Char)
  | [] => none
  | '"' :: rest => some ([], rest)
  | '\\' :: 'u' :: a :: b :: c :: d :: rest => do
    let unit ← hexUnit? a b c d
    let (codes, after) ← quotedCodes? rest
    return (unit :: codes, after)
  | '\\' :: letter :: rest => do
    let code ← escapedCode? letter
    let (codes, after) ← quotedCodes? rest
    return (code :: codes, after)
  | c :: rest =>
    if c.toNat < 0x20 then none
    else (quotedCodes? rest).map fun (codes, after) => (c.toNat :: codes, after)

/-- The characters of code points and units; two surrogates are one character. -/
def joinUnits? : List Nat → Option (List Char)
  | [] => some []
  | [n] => if h : n.isValidChar then some [Char.ofNatAux n h] else none
  | high :: low :: rest =>
    if 0xd800 ≤ high ∧ high < 0xdc00 ∧ 0xdc00 ≤ low ∧ low < 0xe000 then
      (joinUnits? rest).map
        (Char.ofNat (0x10000 + 0x400 * (high - 0xd800) + (low - 0xdc00)) :: ·)
    else if h : high.isValidChar then (joinUnits? (low :: rest)).map (Char.ofNatAux high h :: ·)
    else none

/-- The text after an opening quote, and the rest. -/
def quotedText? (s : List Char) : Option (String × List Char) := do
  let (codes, after) ← quotedCodes? s
  let chars ← joinUnits? codes
  return (String.ofList chars, after)

/-! ### Numbers -/

/-- The exponent at the head of a text, if there is one, and the rest. -/
def exponent? : List Char → Option (Option Int × List Char)
  | c :: rest =>
    if c = 'e' ∨ c = 'E' then
      let (negative, rest) := match rest with
        | '-' :: rest => (true, rest)
        | '+' :: rest => (false, rest)
        | rest => (false, rest)
      let digits := rest.takeWhile Char.isDigit
      let n : Int := Numeral.digitsValue digits
      if digits.isEmpty then none
      else some (some (if negative then -n else n), rest.dropWhile Char.isDigit)
    else some (none, c :: rest)
  | [] => some (none, [])

/-- The digits after a point at the head of a text, and the rest. -/
def fraction? : List Char → Option (List Char × List Char)
  | '.' :: rest =>
    let digits := rest.takeWhile Char.isDigit
    if digits.isEmpty then none else some (digits, rest.dropWhile Char.isDigit)
  | s => some ([], s)

/-- A number from its digits before and after the point and its exponent. -/
def ofDigits (negative : Bool) (whole fraction : List Char) (exponent : Option Int) : Json :=
  let n := Numeral.digitsValue (whole ++ fraction)
  match fraction, exponent with
  | [], none => .int (if negative then -(n : Int) else n)
  | fraction, e => .double (.ofScaled negative n (e.getD 0 - fraction.length))

/-- The number at the head of a text without its sign, and the rest. -/
def unsigned? (negative : Bool) (s : List Char) : Option (Json × List Char) := do
  let whole := s.takeWhile Char.isDigit
  if whole.isEmpty ∨ (whole.head? = some '0' ∧ whole.length ≠ 1) then none
  else
    let (fraction, rest) ← fraction? (s.dropWhile Char.isDigit)
    let (exponent, after) ← exponent? rest
    return (ofDigits negative whole fraction exponent, after)

/-- The number at the head of a text, and the rest. -/
def number? : List Char → Option (Json × List Char)
  | '-' :: rest => unsigned? true rest
  | s => unsigned? false s

/-! ### Values -/

/-- The value of a word or a number at the head of a text, and the rest. -/
def atom? (s : List Char) : Option (Json × List Char) :=
  match afterWord? "null" s, afterWord? "true" s, afterWord? "false" s with
  | some rest, _, _ => some (.null, rest)
  | _, some rest, _ => some (.bool true, rest)
  | _, _, some rest => some (.bool false, rest)
  | none, none, none => number? s

mutual

/-- The value at the head of a text, and the rest. -/
def value? : Nat → List Char → Option (Json × List Char)
  | 0, _ => none
  | fuel + 1, s =>
    match skipGaps s with
    | '"' :: rest => (quotedText? rest).map fun (chars, after) => (.text chars, after)
    | '[' :: rest =>
      match skipGaps rest with
      | ']' :: after => some (.list [], after)
      | _ => (items? fuel rest).map fun (items, after) => (.list items, after)
    | '{' :: rest =>
      match skipGaps rest with
      | '}' :: after => some (.object [], after)
      | _ => (members? fuel rest).map fun (members, after) => (.object members, after)
    | s => atom? s

/-- The items up to the closing bracket, and the rest. -/
def items? : Nat → List Char → Option (List Json × List Char)
  | 0, _ => none
  | fuel + 1, s =>
    match value? fuel s with
    | none => none
    | some (v, rest) =>
      match skipGaps rest with
      | ']' :: after => some ([v], after)
      | ',' :: more => (items? fuel more).map fun (items, after) => (v :: items, after)
      | _ => none

/-- The members up to the closing brace, and the rest. -/
def members? : Nat → List Char → Option (List (String × Json) × List Char)
  | 0, _ => none
  | fuel + 1, s =>
    match skipGaps s with
    | '"' :: keyText =>
      match quotedText? keyText with
      | none => none
      | some (key, afterKey) =>
        match skipGaps afterKey with
        | ':' :: valueText =>
          match value? fuel valueText with
          | none => none
          | some (v, rest) =>
            match skipGaps rest with
            | '}' :: after => some ([(key, v)], after)
            | ',' :: more =>
              (members? fuel more).map fun (members, after) => ((key, v) :: members, after)
            | _ => none
        | _ => none
    | _ => none

end

/-- Reads a JSON text. -/
def parse? (text : String) : Option Json :=
  let s := text.toList
  match value? (2 * s.length + 2) s with
  | some (v, rest) => if (skipGaps rest).isEmpty then some v else none
  | none => none

end CrudPlan.Json
