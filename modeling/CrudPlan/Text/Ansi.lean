/-!
# Terminal styles

Colours and weights are written as escape sequences around a text: `ESC [`, arguments, a letter.

* `Ansi.Style.paint` puts the sequences of a style before a text and a reset after it;
* `Ansi.painter` paints or leaves a text alone, as a report is coloured or not;
* `Ansi.strip` takes the sequences out again.
-/

namespace CrudPlan.Ansi

/-- The colours of the reports. -/
inductive Colour where
  | red
  | green
  | yellow
  | brightBlack
  deriving DecidableEq, Repr

/-- The argument that selects a colour. -/
def Colour.code : Colour → String
  | .red => "31"
  | .green => "32"
  | .yellow => "33"
  | .brightBlack => "90"

/-- The look of a piece of text. -/
structure Style where
  /-- Its colour, or none to keep the terminal's. -/
  colour : Option Colour := none
  /-- Whether it is bold. -/
  bold : Bool := false
  deriving DecidableEq, Repr

/-- The sequence with the given argument. -/
def sequence (argument : String) : String := "\x1b[" ++ argument ++ "m"

/-- The sequences that start a style. -/
def Style.start (style : Style) : String :=
  (match style.colour with
    | some colour => sequence colour.code
    | none => "") ++
  (if style.bold then sequence "1" else "")

/-- A text in a style; the reset is written even if the style starts nothing. -/
def Style.paint (style : Style) (text : String) : String :=
  style.start ++ text ++ sequence "0"

/-- Paints a text in a report with colour, and leaves it alone in one without. -/
def painter (coloured : Bool) (style : Style) (text : String) : String :=
  if coloured then style.paint text else text

/-! ### Taking sequences out -/

/-- The text after the escape sequence at the head of a text. -/
def afterSequence? (isArgument isFinal : Char → Bool) : List Char → Option (List Char)
  | '\x1b' :: '[' :: rest =>
    match rest.dropWhile isArgument with
    | c :: after => if isFinal c then some after else none
    | [] => none
  | _ => none

theorem length_of_afterSequence? {isArgument isFinal : Char → Bool} {s after : List Char}
    (h : afterSequence? isArgument isFinal s = some after) : after.length < s.length := by
  unfold afterSequence? at h
  split at h
  · next rest =>
    have hle : (rest.dropWhile isArgument).length ≤ rest.length :=
      (List.dropWhile_suffix isArgument).length_le
    split at h
    · next c tail heq =>
      split at h
      · simp only [Option.some.injEq] at h
        subst h
        rw [heq] at hle
        simp only [List.length_cons] at hle ⊢
        omega
      · simp at h
    · simp at h
  · simp at h

/-- A text without the escape sequences whose arguments and last character are of given classes. -/
def stripWith (isArgument isFinal : Char → Bool) (s : List Char) : List Char :=
  match _h : afterSequence? isArgument isFinal s with
  | some after => stripWith isArgument isFinal after
  | none =>
    match s with
    | [] => []
    | c :: rest => c :: stripWith isArgument isFinal rest
termination_by s.length
decreasing_by
  · exact length_of_afterSequence? _h
  · simp

/-- A character that may stand between the bracket and the letter of a sequence. -/
def isArgument (c : Char) : Bool := c.isDigit || c == ';' || c == '?'

/-- A text as it reaches an output that is no terminal: without escape sequences. -/
def strip (text : String) : String :=
  String.ofList (stripWith isArgument Char.isAlpha text.toList)

end CrudPlan.Ansi
