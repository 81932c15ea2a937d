import CrudPlan.Text.Blank

/-!
# Files of variables

A file `.env` sets variables, one statement after the other: `KEY=value`, perhaps after the word
`export`. A value may stand in quotes and then run over several lines; else it ends with its line or
before a comment. Values may refer to variables as `${KEY}` or `${KEY:-default}`.

* `EnvFile.statements` reads a text; a statement that cannot be read is left out up to the end of
  its line;
* `EnvFile.values` are the values of the variables, the last statement for a key wins;
* `EnvFile.badLines` are the lines where statements that cannot be read begin.
-/

namespace CrudPlan.EnvFile

/-- A blank that does not end a line. -/
def isInlineBlank (c : Char) : Bool := Text.isBlank c && c != '\n'

/-- A text with every line break written as one newline. -/
def normalize : List Char → List Char
  | '\r' :: '\n' :: rest => '\n' :: normalize rest
  | '\r' :: rest => '\n' :: normalize rest
  | c :: rest => c :: normalize rest
  | [] => []

/-- A text without a byte order mark at its head. -/
def withoutMark : List Char → List Char
  | '\ufeff' :: rest => rest
  | s => s

/-! ### Statements -/

/-- A statement of the file. -/
inductive Statement where
  /-- Sets a variable, or names it without a value. -/
  | binding (key : String) (value : Option String)
  /-- A comment or blank lines. -/
  | comment
  /-- A text that cannot be read. -/
  | malformed
  deriving DecidableEq, Repr

/-- Skips the word `export` and the blanks after it. -/
def skipExport (s : List Char) : List Char :=
  match s with
  | 'e' :: 'x' :: 'p' :: 'o' :: 'r' :: 't' :: c :: rest =>
    if isInlineBlank c then rest.dropWhile isInlineBlank else s
  | _ => s

/-- A character of a key that stands without quotes. -/
def isKeyChar (c : Char) : Bool := c != '=' && c != '#' && !Text.isBlank c

/-- The key at the head of a text, and the rest. -/
def key? : List Char → Option (String × List Char)
  | '\'' :: rest =>
    match rest.takeWhile (· != '\''), rest.dropWhile (· != '\'') with
    | c :: key, _ :: after => some (String.ofList (c :: key), after)
    | _, _ => none
  | s =>
    match s.takeWhile isKeyChar with
    | [] => none
    | key => some (String.ofList key, s.dropWhile isKeyChar)

/-- A value up to its closing quote, and the rest. A backslash takes the next character with it, so
that a quote after it does not close the value. -/
def untilQuote (quote : Char) : List Char → Option (List Char × List Char)
  | [] => none
  | '\\' :: c :: rest =>
    (untilQuote quote rest).map fun (value, after) => ('\\' :: c :: value, after)
  | c :: rest =>
    if c = quote then some ([], rest)
    else (untilQuote quote rest).map fun (value, after) => (c :: value, after)

/-- The character that a letter after a backslash stands for, in single quotes. -/
def singleEscape? : Char → Option Char
  | '\\' => some '\\'
  | '\'' => some '\''
  | _ => none

/-- The character that a letter after a backslash stands for, in double quotes. -/
def doubleEscape? : Char → Option Char
  | '\\' => some '\\'
  | '\'' => some '\''
  | '"' => some '"'
  | 'a' => some '\x07'
  | 'b' => some '\x08'
  | 'f' => some '\x0c'
  | 'n' => some '\n'
  | 'r' => some '\r'
  | 't' => some '\t'
  | 'v' => some '\x0b'
  | _ => none

/-- A value with its escapes replaced. -/
def unescape (escape? : Char → Option Char) : List Char → List Char
  | '\\' :: c :: rest =>
    match escape? c with
    | some d => d :: unescape escape? rest
    | none => '\\' :: unescape escape? (c :: rest)
  | c :: rest => c :: unescape escape? rest
  | [] => []

/-- The text before a comment that follows a blank; `blank` says whether one stands before the
text. -/
def beforeComment (blank : Bool) : List Char → List Char
  | [] => []
  | c :: rest =>
    if blank && c == '#' then [] else c :: beforeComment (Text.isBlank c) rest

/-- The value at the head of a text, and the rest; `blank` says whether a blank stands before the
text. -/
def value? (blank : Bool) : List Char → Option (List Char × List Char)
  | '\'' :: rest => (untilQuote '\'' rest).map fun (v, after) => (unescape singleEscape? v, after)
  | '"' :: rest => (untilQuote '"' rest).map fun (v, after) => (unescape doubleEscape? v, after)
  | s =>
    some (Text.trimEnd Text.isBlank (beforeComment blank (s.takeWhile (· != '\n'))),
      s.dropWhile (· != '\n'))

/-- The text after a newline, or after the whole text. -/
def nextLine (s : List Char) : List Char := (s.dropWhile (· != '\n')).drop 1

/-- The text after the blanks, the comment and the newline that end a statement; `none` if
something else follows. -/
def endOfLine? (s : List Char) : Option (List Char) :=
  match s.dropWhile isInlineBlank with
  | '#' :: rest => some (nextLine rest)
  | '\n' :: rest => some rest
  | [] => some []
  | _ => none

/-- The value of the key whose text is followed by `s`, and the rest; a text that cannot be read
is given back from where reading it stopped. -/
def valueAfterKey (s : List Char) : Except (List Char) (Option String × List Char) :=
  match s.dropWhile isInlineBlank with
  | '=' :: rest =>
    let text := rest.dropWhile isInlineBlank
    match value? (rest.head?.any isInlineBlank) text with
    | some (v, after) => .ok (some (String.ofList v), after)
    | none => .error text
  | rest => .ok (none, rest)

/-- The statement at the head of a text, and the rest. -/
def statement (s : List Char) : Statement × List Char :=
  match s.dropWhile Text.isBlank with
  | [] => (.comment, [])
  | start =>
    match skipExport start with
    | '#' :: rest => (.comment, nextLine rest)
    | text =>
      match key? text with
      | none => (.malformed, nextLine text)
      | some (key, afterKey) =>
        match valueAfterKey afterKey with
        | .error rest => (.malformed, nextLine rest)
        | .ok (value, afterValue) =>
          match endOfLine? afterValue with
          | some rest => (.binding key value, rest)
          | none => (.malformed, nextLine afterValue)

/-- The statements of a text that starts on the given line, each with the line it starts on. -/
def statementsFrom (line : Nat) (s : List Char) : List (Nat × Statement) :=
  if s.isEmpty then []
  else
    let (found, rest) := statement s
    if rest.length < s.length then
      let taken := s.take (s.length - rest.length)
      (line, found) :: statementsFrom (line + taken.count '\n') rest
    else [(line, found)]
termination_by s.length

/-- The statements of a file, each with the line it starts on. The text may have a byte order mark
besides that of its encoding. -/
def statements (text : String) : List (Nat × Statement) :=
  statementsFrom 1 (normalize (withoutMark (withoutMark text.toList)))

/-- The lines on which statements that cannot be read begin. -/
def badLines (text : String) : List Nat :=
  (statements text).filterMap fun (line, s) => if s = .malformed then some line else none

/-! ### References -/

/-- A reference at the head of a text: its key, its default and the text after it. -/
def reference? : List Char → Option (String × String × List Char)
  | '$' :: '{' :: rest =>
    let key := rest.takeWhile fun c => c != '}' && c != ':'
    match rest.dropWhile fun c => c != '}' && c != ':' with
    | '}' :: after => some (String.ofList key, "", after)
    | ':' :: '-' :: more =>
      match more.dropWhile (· != '}') with
      | _ :: after =>
        some (String.ofList key, String.ofList (more.takeWhile (· != '}')), after)
      | [] => none
    | _ => none
  | _ => none

/-- A value with its references replaced by what `find` knows of them. -/
def interpolate (find : String → Option (Option String)) (s : List Char) : List Char :=
  match s with
  | [] => []
  | c :: tail =>
    match reference? (c :: tail) with
    | some (key, default, after) =>
      let replaced := ((find key).getD (some default)).getD ""
      if _h : after.length < (c :: tail).length then replaced.toList ++ interpolate find after
      else replaced.toList
    | none => c :: interpolate find tail
termination_by s.length
decreasing_by
  · exact _h
  · simp

/-- What an environment and the statements before, the latest first, know of a key. -/
def known (environment : List (String × String)) (before : List (String × Option String))
    (key : String) : Option (Option String) :=
  before.lookup key <|> (environment.lookup key).map some

/-- The values of the variables, the latest first. -/
def values (environment : List (String × String)) (text : String) :
    List (String × Option String) :=
  (statements text).foldl (fun before (_, s) =>
    match s with
    | .binding key value =>
      (key, value.map fun v =>
        String.ofList (interpolate (known environment before) v.toList)) :: before
    | _ => before) []

end CrudPlan.EnvFile
