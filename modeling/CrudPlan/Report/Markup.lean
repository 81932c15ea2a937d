import CrudPlan.Report.Literal
import CrudPlan.Report.StyleDefinition
import CrudPlan.Report.StyledText
import CrudPlan.Text.Emoji
import CrudPlan.Text.WordCharacter

/-!
# Markup

The cells of a table may hold tags, which style the text behind them: `[bold]` opens a style,
`[/bold]` or `[/]` closes one, and `[/red bold]` closes `[bold red]`. A tag such as `[@click=f(1)]`
lets the text call an action. A backslash before a tag makes a text of it.

* `Markup.pieces` takes a text apart;
* `Markup.styled?` is the text that is shown; there is none if a tag closes what is not open, if
  the numbers of its colours cannot be read, or if its action cannot be read when it is closed.
-/

namespace CrudPlan.Markup

/-- A part of a text in markup. -/
inductive Piece where
  /-- Characters that are shown. -/
  | text (chars : List Char)
  /-- What stands between the brackets of a tag. -/
  | tag (inner : List Char)
  deriving DecidableEq, Repr

/-! ### Pieces -/

/-- A character that a tag may start with. -/
def startsTag (c : Char) : Bool :=
  ('a' ≤ c && c ≤ 'z') || c == '#' || c == '/' || c == '@'

/-- What stands between the brackets of the tag at the head of a text, and the rest. No bracket
opens within a tag. -/
def tag? : List Char → Option (List Char × List Char)
  | '[' :: c :: rest =>
    let inner := rest.takeWhile fun d => d != ']' && d != '['
    match rest.drop inner.length with
    | ']' :: after => if startsTag c then some (c :: inner, after) else none
    | _ => none
  | _ => none

/-- The length of the rest is less than that of the text. -/
theorem length_of_tag? {s inner after : List Char} (h : tag? s = some (inner, after)) :
    after.length < s.length := by
  unfold tag? at h
  split at h
  · next c rest =>
    simp only at h
    split at h
    · next tail heq =>
      split at h
      · simp only [Option.some.injEq, Prod.mk.injEq] at h
        have := congrArg List.length heq
        simp only [List.length_drop, List.length_cons] at this ⊢
        rw [← h.2]
        omega
      · simp at h
    · simp at h
  · simp at h

/-- A text in which a backslash before a bracket is left out. -/
def withoutEscapes : List Char → List Char
  | '\\' :: '[' :: rest => '[' :: withoutEscapes rest
  | c :: rest => c :: withoutEscapes rest
  | [] => []

/-- The pieces that a tag behind some backslashes makes: every two of them are one that is shown,
and one more makes a text of the tag. -/
def tagPieces (backslashes : Nat) (inner : List Char) : List Piece :=
  (if 2 ≤ backslashes then [.text (List.replicate (backslashes / 2) '\\')] else []) ++
    [if backslashes % 2 = 1 then .text ('[' :: inner ++ [']']) else .tag inner]

/-- The pieces of a text that follows some characters, the last one first. -/
def piecesAfter (before s : List Char) : List Piece :=
  let backslashes := before.takeWhile (· == '\\')
  let text := (before.drop backslashes.length).reverse
  match _h : tag? s with
  | some (inner, after) =>
    (if text.isEmpty then [] else [.text (withoutEscapes text)]) ++
      tagPieces backslashes.length inner ++ piecesAfter [] after
  | none =>
    match s with
    | [] => if before.isEmpty then [] else [.text (withoutEscapes before.reverse)]
    | c :: rest => piecesAfter (c :: before) rest
termination_by s.length
decreasing_by
  · exact length_of_tag? _h
  · simp

/-- The pieces of a text. -/
def pieces (s : List Char) : List Piece := piecesAfter [] s

/-! ### Tags -/

/-- A tag that is open. -/
structure OpenTag where
  /-- Its name, in the normal form of a style. -/
  name : String
  /-- What follows an equals sign. -/
  parameters : List Char
  /-- How many tags stand before it. -/
  number : Nat
  deriving DecidableEq, Repr

/-- The tag of a text between brackets; `none` if the numbers of a colour in its name cannot be
read. -/
def OpenTag.ofInner? (number : Nat) (inner : List Char) : Option OpenTag :=
  let written := inner.takeWhile (· != '=')
  match StyleDefinition.nameOf written with
  | .ok name => some ⟨name, inner.drop (written.length + 1), number⟩
  | .error _ => none

/-- Whether the numbers of its colours can be read. -/
def OpenTag.isReadable (t : OpenTag) : Bool :=
  StyleDefinition.isReadable (t.name.toList ++ ' ' :: t.parameters)

/-- Whether a text names an action, perhaps with arguments in parentheses on one line, or is a
literal. -/
def isAction (s : List Char) : Bool :=
  let call := Text.trim Text.isBlank s
  let arguments := call.dropWhile fun c => Text.isWordChar c || c == '.'
  let isOneLine := arguments.head? == some '(' && arguments.getLast? == some ')' &&
    !arguments.contains '\n'
  arguments.isEmpty || Literal.isLiteral (if isOneLine then arguments else call)

/-- Whether a tag may be closed. -/
def OpenTag.isClosable (t : OpenTag) : Bool :=
  t.name.toList.head? != some '@' || isAction t.parameters

/-- The tag that a text behind a slash closes: the innermost one of its name, or the innermost one
if the text is blank. -/
def closed? (tags : List OpenTag) (written : List Char) : Option OpenTag :=
  if written.all Text.isBlank then tags.head?
  else
    match StyleDefinition.nameOf written with
    | .ok name => tags.find? (·.name == name)
    | .error _ => none

/-- The tags that are open after a tag of the given number, the innermost first. -/
def afterTag? (tags : List OpenTag) (number : Nat) (inner : List Char) : Option (List OpenTag) :=
  match inner with
  | '/' :: rest =>
    (closed? tags (rest.takeWhile (· != '='))).bind fun tag =>
      if tag.isClosable then some (tags.erase tag) else none
  | inner => (OpenTag.ofInner? number inner).map (· :: tags)

/-! ### Shown text -/

/-- A control character that is left out. -/
def isDropped (c : Char) : Bool :=
  c == '\x07' || c == '\x08' || c == '\x0b' || c == '\x0c' || c == '\r'

/-- The characters that are shown for characters outside tags. -/
def shown (s : List Char) : List Char := (Text.withEmoji s).filter fun c => !isDropped c

/-- The text that pieces show, where some tags are open and `number` tags stand before. -/
def styledFrom? (tags : List OpenTag) (number : Nat) : List Piece → Option StyledText
  | [] => some ⟨[], number⟩
  | .text chars :: rest =>
    (styledFrom? tags number rest).map fun t =>
      { t with glyphs := (shown chars).map (⟨·, tags.map (·.number), number⟩) ++ t.glyphs }
  | .tag inner :: rest =>
    (afterTag? tags number inner).bind fun later => styledFrom? later (number + 1) rest

/-- The tags among pieces that open something, where `number` tags stand before. -/
def openTags (number : Nat) : List Piece → List OpenTag
  | [] => []
  | .text _ :: rest => openTags number rest
  | .tag inner :: rest =>
    (if inner.head? = some '/' then none else OpenTag.ofInner? number inner).toList ++
      openTags (number + 1) rest

/-- Whether a text is drawn in the style of a given number. A text of one line without tabs is drawn
in all its styles, any other in those of its characters. -/
def isDrawnIn (t : StyledText) (number : Nat) : Bool :=
  t.glyphs.any (fun g => g.char != '\n' && g.styles.contains number) ||
    t.glyphs.all fun g => g.char != '\n' && g.char != '\t'

/-- The text that is shown for a text in markup. -/
def styled? (s : String) : Option StyledText := do
  let parts := pieces s.toList
  let text ← styledFrom? [] 0 parts
  if (openTags 0 parts).all fun tag => tag.isReadable || !isDrawnIn text tag.number then text
  else none

end CrudPlan.Markup
