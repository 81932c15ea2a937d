/-!
# Literals

The arguments of an action are literals: numbers, texts and bytes in quotes, the words `None`,
`True` and `False`, three dots, and, of these, rows in parentheses and sets and tables in braces.
A member of a set and a key of a table may not hold a set or a table.

* `Literal.tokens?` takes a text apart into tokens;
* `Literal.isLiteral` tells whether a text is a literal.
-/

namespace CrudPlan.Literal

/-! ### Tokens -/

/-- A token of a literal. -/
inductive Token where
  /-- A number without a sign, perhaps an imaginary one. -/
  | number (imaginary : Bool)
  /-- A text in quotes. -/
  | text
  /-- Bytes in quotes. -/
  | bytes
  /-- A word. -/
  | word (name : String)
  /-- A plus or minus sign. -/
  | sign
  /-- Three dots. -/
  | dots
  /-- A bracket, a comma or a colon. -/
  | mark (c : Char)
  deriving DecidableEq, Repr

/-- Whether a character may begin a word. Those beyond ASCII count as letters. -/
def beginsWord (c : Char) : Bool := c.isAlpha || c == '_' || 128 ≤ c.toNat

/-- Whether a character may stand in a word. -/
def isInWord (c : Char) : Bool := beginsWord c || c.isDigit

/-- Digits behind others, with single underscores between them, and the rest. -/
def moreDigits (isDigit : Char → Bool) : List Char → List Char × List Char
  | '_' :: c :: rest =>
    if isDigit c then let (digits, after) := moreDigits isDigit rest; (c :: digits, after)
    else ([], '_' :: c :: rest)
  | c :: rest =>
    if isDigit c then let (digits, after) := moreDigits isDigit rest; (c :: digits, after)
    else ([], c :: rest)
  | [] => ([], [])

/-- Digits at the head of a text, with single underscores between them, and the rest. -/
def digits (isDigit : Char → Bool) (s : List Char) : List Char × List Char :=
  if s.head?.any isDigit then moreDigits isDigit s else ([], s)

/-- The text behind an exponent at its head, if there is one. -/
def afterExponent (s : List Char) : List Char :=
  match s with
  | c :: rest =>
    if c = 'e' ∨ c = 'E' then
      let unsigned := match rest with
        | '+' :: more => more
        | '-' :: more => more
        | _ => rest
      match digits Char.isDigit unsigned with
      | ([], _) => s
      | (_, after) => after
    else s
  | [] => []

/-- The most digits of a whole number. -/
def maxDigits : Nat := 4300

/-- A decimal number at the head of a text, and the rest. Only a whole number may not begin with
needless zeros, and only its length is limited. -/
def decimal? (s : List Char) : Option (Bool × List Char) :=
  let (whole, afterWhole) := digits Char.isDigit s
  let (fraction, afterFraction) := match afterWhole with
    | '.' :: rest => digits Char.isDigit rest
    | _ => ([], afterWhole)
  let after := afterExponent afterFraction
  if whole.isEmpty && fraction.isEmpty then none
  else
    match after with
    | 'j' :: rest => some (true, rest)
    | 'J' :: rest => some (true, rest)
    | _ =>
      let isWhole := after.length == afterWhole.length
      let needless := whole.head? == some '0' && whole.any (· != '0')
      if isWhole && (needless || maxDigits < whole.length) then none else some (false, after)

/-- Whether a character is a digit of a number whose base a letter names. -/
def isDigitOf (base c : Char) : Bool :=
  match base.toLower with
  | 'x' => c.isDigit || ('a' ≤ c.toLower && c.toLower ≤ 'f')
  | 'o' => '0' ≤ c && c ≤ '7'
  | 'b' => c == '0' || c == '1'
  | _ => false

/-- A number at the head of a text, and the rest. No word follows it directly. -/
def number? (s : List Char) : Option (Bool × List Char) := do
  let (imaginary, after) ← match s with
    | '0' :: base :: rest =>
      if base.toLower = 'x' ∨ base.toLower = 'o' ∨ base.toLower = 'b' then
        match moreDigits (isDigitOf base) rest with
        | ([], _) => none
        | (_, after) => some (false, after)
      else decimal? s
    | _ => decimal? s
  if after.head?.any isInWord then none else some (imaginary, after)

/-- How a text in quotes is written. -/
structure Quotation where
  /-- The quote. -/
  quote : Char
  /-- Whether there are three of them at either end. -/
  triple : Bool
  /-- Whether a backslash stands for itself. -/
  raw : Bool
  /-- Whether these are bytes. -/
  bytes : Bool

/-- A hexadecimal digit. -/
def isHexDigit (c : Char) : Bool := isDigitOf 'x' c

/-- The text behind the closing quote. -/
def afterQuotation? (q : Quotation) : List Char → Option (List Char)
  | [] => none
  | '\\' :: 'x' :: a :: b :: rest =>
    if q.raw || (isHexDigit a && isHexDigit b) then afterQuotation? q (a :: b :: rest) else none
  | '\\' :: 'u' :: a :: b :: c :: d :: rest =>
    if q.raw || q.bytes || [a, b, c, d].all isHexDigit then
      afterQuotation? q (a :: b :: c :: d :: rest)
    else none
  | '\\' :: 'U' :: rest =>
    let code := rest.take 8
    let isCode := code.length == 8 && code.all isHexDigit &&
      (code.take 3 == ['0', '0', '0'] || code.take 4 == ['0', '0', '1', '0'])
    if q.raw || q.bytes || isCode then afterQuotation? q rest else none
  | '\\' :: 'N' :: rest =>
    let isNamed := rest.head? == some '{' && (rest.takeWhile (· != q.quote)).contains '}'
    if q.raw || q.bytes || isNamed then afterQuotation? q rest else none
  | '\\' :: c :: rest =>
    if (c == 'x' || c == 'u') && !q.raw && !(c == 'u' && q.bytes) then none
    else if q.bytes && 128 ≤ c.toNat then none
    else afterQuotation? q rest
  | c :: rest =>
    if c = q.quote then
      if !q.triple then some rest
      else if rest.take 2 = [q.quote, q.quote] then some (rest.drop 2)
      else afterQuotation? q rest
    else if (c = '\n' ∧ !q.triple) ∨ (q.bytes ∧ 128 ≤ c.toNat) then none
    else afterQuotation? q rest

/-- Words that may stand directly before a quote, and whether they make bytes of it and leave
backslashes as they are. -/
def quotePrefixes : List (String × Bool × Bool) := [
  ("", false, false), ("u", false, false), ("r", false, true), ("b", true, false),
  ("br", true, true), ("rb", true, true)]

/-- A text in quotes at the head of a text, behind a word, and the rest. -/
def quotation? (word : List Char) (s : List Char) : Option (Token × List Char) := do
  let (bytes, raw) ← quotePrefixes.lookup (String.ofList (word.map Char.toLower))
  let quote ← s.head?
  let triple := s.take 3 == [quote, quote, quote]
  let after ← afterQuotation? ⟨quote, triple, raw, bytes⟩ (s.drop (if triple then 3 else 1))
  return (if bytes then .bytes else .text, after)

/-- Whether a character is a quote. -/
def isQuote (c : Char) : Bool := c == '\'' || c == '"'

/-- The token at the head of a text that does not begin with a blank, and the rest. -/
def token? (s : List Char) : Option (Token × List Char) :=
  let word := s.takeWhile isInWord
  match s with
  | [] => none
  | c :: rest =>
    if beginsWord c then
      let after := s.drop word.length
      if after.head?.any isQuote then quotation? word after
      else some (.word (String.ofList word), after)
    else if isQuote c then quotation? [] s
    else if rest.take 2 = ['.', '.'] ∧ c = '.' then some (.dots, rest.drop 2)
    else if c.isDigit ∨ c = '.' then (number? s).map fun (imaginary, after) =>
      (.number imaginary, after)
    else if c = '+' ∨ c = '-' then some (.sign, rest)
    else if ['(', ')', '\x7b', '\x7d', ',', ':'].contains c then some (.mark c, rest)
    else none

/-- The most brackets that are open at once. -/
def maxDepth : Nat := 200

/-- The tokens of a text within some open brackets. A line ends outside of brackets only where
nothing but blanks and comments follows. The fuel is a length of the text or more. -/
def tokensFrom? : Nat → Nat → List Char → Option (List Token)
  | _, _, [] => some []
  | 0, _, _ => none
  | fuel + 1, depth, c :: rest =>
    if c = ' ' ∨ c = '\t' ∨ c = '\x0c' then tokensFrom? fuel depth rest
    else if c = '#' then tokensFrom? fuel depth (rest.dropWhile (· != '\n'))
    else if c = '\n' then
      (tokensFrom? fuel depth rest).bind fun more =>
        if depth = 0 ∧ more ≠ [] then none else some more
    else if c = '\\' then
      match rest with
      | '\n' :: next :: more => tokensFrom? fuel depth (next :: more)
      | _ => none
    else do
      let (token, after) ← token? (c :: rest)
      let opens := token == .mark '(' || token == .mark '\x7b'
      let closes := token == .mark ')' || token == .mark '\x7d'
      if opens && maxDepth ≤ depth then none
      else
        let within := if opens then depth + 1 else if closes then depth - 1 else depth
        return token :: (← tokensFrom? fuel within after)

/-- A text with every line break written as one newline. -/
def withNewlines : List Char → List Char
  | '\r' :: '\n' :: rest => '\n' :: withNewlines rest
  | '\r' :: rest => '\n' :: withNewlines rest
  | c :: rest => c :: withNewlines rest
  | [] => []

/-- Tokens in which no parentheses stand around the word `set` alone. -/
def withBareSet : List Token → List Token
  | [] => []
  | token :: rest =>
    match token, withBareSet rest with
    | .mark '(', .word "set" :: .mark ')' :: more => .word "set" :: more
    | token, rest => token :: rest

/-- The tokens of a text. -/
def tokens? (s : List Char) : Option (List Token) :=
  let text := withNewlines s
  if text.contains '\x00' then none
  else (tokensFrom? (text.length + 1) 0 text).map withBareSet

/-! ### Values -/

/-- What a literal is, as far as it decides where the literal may stand. -/
inductive Shape where
  /-- A number, perhaps imaginary, perhaps with a sign. -/
  | number (imaginary signed : Bool)
  /-- Anything else that does not change. -/
  | constant
  /-- A set or a table, or a row that holds one. -/
  | changeable
  deriving DecidableEq, Repr

/-- The shape of a row. -/
def Shape.ofRow (items : List Shape) : Shape :=
  if items.contains .changeable then .changeable else .constant

/-- A literal without brackets that is no number with a sign, and the tokens after it. Texts that
follow each other are one. -/
def plain? : List Token → Option (Shape × List Token)
  | .number imaginary :: rest => some (.number imaginary false, rest)
  | .text :: rest => some (.constant, rest.dropWhile (· == .text))
  | .bytes :: rest => some (.constant, rest.dropWhile (· == .bytes))
  | .dots :: rest => some (.constant, rest)
  | .word "set" :: .mark '(' :: .mark ')' :: rest => some (.changeable, rest)
  | .word name :: rest =>
    if ["None", "True", "False"].contains name then some (.constant, rest) else none
  | .mark '(' :: .mark ')' :: rest => some (.constant, rest)
  | .mark '\x7b' :: .mark '\x7d' :: rest => some (.changeable, rest)
  | _ => none

mutual

/-- A literal with at most one sign before it and without one behind it, and the tokens after it.
The fuel is twice the number of tokens or more, as in the functions below. -/
def signed? : Nat → List Token → Option (Shape × List Token)
  | 0, _ => none
  | fuel + 1, .sign :: rest =>
    match signed? fuel rest with
    | some (.number imaginary false, after) => some (.number imaginary true, after)
    | _ => none
  | fuel + 1, ts =>
    match plain? ts with
    | some found => some found
    | none =>
      match ts with
      | .mark '(' :: rest => do
        let (items, isRow, after) ← items? fuel ')' rest
        match items, isRow with
        | [item], false => return (item, after)
        | items, _ => return (Shape.ofRow items, after)
      | .mark '\x7b' :: rest => do
        let (first, after) ← value? fuel rest
        if first = .changeable then none
        else
          match after with
          | .mark ':' :: _ => return (.changeable, ← entries? fuel rest)
          | _ =>
            let (items, _, after) ← items? fuel '\x7d' rest
            if items.contains .changeable then none else return (.changeable, after)
      | _ => none

/-- A literal, and the tokens after it. A whole or broken number and an imaginary one may be added
or subtracted. -/
def value? : Nat → List Token → Option (Shape × List Token)
  | 0, _ => none
  | fuel + 1, ts => do
    let (first, after) ← signed? fuel ts
    match first, after with
    | .number false _, .sign :: rest =>
      match signed? fuel rest with
      | some (.number true false, .sign :: _) => none
      | some (.number true false, after) => return (.constant, after)
      | _ => none
    | first, after => return (first, after)

/-- Literals with commas between them up to a closing bracket, whether there is a comma, and the
tokens after the bracket. -/
def items? : Nat → Char → List Token → Option (List Shape × Bool × List Token)
  | 0, _, _ => none
  | fuel + 1, close, ts => do
    let (first, after) ← value? fuel ts
    match after with
    | .mark ',' :: .mark c :: rest =>
      if c = close then return ([first], true, rest)
      else
        let (items, _, after) ← items? fuel close (.mark c :: rest)
        return (first :: items, true, after)
    | .mark ',' :: rest => do
      let (items, _, after) ← items? fuel close rest
      return (first :: items, true, after)
    | .mark c :: rest => if c = close then return ([first], false, rest) else none
    | _ => none

/-- The tokens after the entries of a table and its closing bracket. -/
def entries? : Nat → List Token → Option (List Token)
  | 0, _ => none
  | fuel + 1, ts => do
    let (key, afterKey) ← value? fuel ts
    if key = .changeable then none
    else
      match afterKey with
      | .mark ':' :: rest => do
        let (_, after) ← value? fuel rest
        match after with
        | .mark '\x7d' :: rest => return rest
        | .mark ',' :: .mark '\x7d' :: rest => return rest
        | .mark ',' :: rest => entries? fuel rest
        | _ => none
      | _ => none

end

/-- Whether a text is a literal. Literals with commas between them are a row also without
parentheses. -/
def isLiteral (s : List Char) : Bool :=
  match tokens? s with
  | some (t :: ts) =>
    match items? (2 * ts.length + 8) ')' (t :: ts ++ [.mark ')']) with
    | some (_, _, []) => true
    | _ => false
  | _ => false

end CrudPlan.Literal
