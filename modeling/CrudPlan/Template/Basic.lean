import CrudPlan.Names

/-!
# Templates

A template is path text in which `{{field}}` stands for a value. A token written `{{%field}}` is
*greedy*: on import its value may run over several path parts.

* `Segment` is one part of a template: literal text, a plain token or a greedy token;
* `Template.compile` splits a text into segments. It looks for the leftmost `{{`, takes the
  shortest text up to `}}` on the same line as the token, and goes on after it; the text left
  between tokens is literal and may hold neither `{{` nor `}}`;
* `Template.tokens` lists the fields a template needs, `unknownTokens` those nobody declared, and
  `joinTokens` writes the template that lists given fields.
-/

namespace CrudPlan

/-- One part of a template. -/
inductive Segment where
  /-- Text that stands for itself. -/
  | literal (text : String)
  /-- A field whose value is a single path part. -/
  | token (name : String)
  /-- A field whose value may run over several path parts. -/
  | greedy (name : String)
  deriving DecidableEq, Repr, Inhabited

/-- Why a text is not a template, or a template no import format. -/
inductive TemplateError where
  /-- Literal text of `source` holds a doubled brace. -/
  | unbalancedBraces (source : String)
  /-- The braces in `source` enclose `raw`, which is no field name. -/
  | invalidToken (raw source : String)
  /-- An import format names the same field twice. -/
  | repeatedToken (name source : String)
  deriving DecidableEq, Repr

/-- The report of a template error. -/
def TemplateError.message : TemplateError → String
  | .unbalancedBraces source => s!"unbalanced braces in '{source}'"
  | .invalidToken raw source =>
    "invalid token '\x7b\x7b" ++ raw ++ "\x7d\x7d' in '" ++ source ++ "'"
  | .repeatedToken name source => s!"token '{name}' repeated in '{source}'"

namespace Segment

/-- The field that a token stands for. -/
def tokenName? : Segment → Option String
  | .literal _ => none
  | .token name => some name
  | .greedy name => some name

/-- The text that writes a segment. -/
def text : Segment → String
  | .literal text => text
  | .token name => "\x7b\x7b" ++ name ++ "\x7d\x7d"
  | .greedy name => "\x7b\x7b%" ++ name ++ "\x7d\x7d"

end Segment

/-- A template: its text and the segments of that text. -/
structure Template where
  /-- The text as written. -/
  source : String
  /-- Its parts, in order. -/
  segments : List Segment
  deriving DecidableEq, Repr, Inhabited

namespace Template

/-! ### Splitting a text -/

/-- The text before the first `}}` and the text after it, if they stand on one line. -/
def untilClose : List Char → Option (List Char × List Char)
  | [] => none
  | '}' :: '}' :: rest => some ([], rest)
  | c :: rest =>
    if c = '\n' then none
    else (untilClose rest).map fun (raw, after) => (c :: raw, after)

/-- What the braces at the head of a text enclose, and the text after them. -/
def bracedAt? : List Char → Option (List Char × List Char)
  | '{' :: '{' :: rest => untilClose rest
  | _ => none

/-- The first braces of a text: the text before them, what they enclose and the text after. -/
def firstBraced? : List Char → Option (List Char × List Char × List Char)
  | [] => none
  | c :: rest =>
    match bracedAt? (c :: rest) with
    | some (raw, after) => some ([], raw, after)
    | none => (firstBraced? rest).map fun (before, raw, after) => (c :: before, raw, after)

theorem length_of_untilClose {s raw after : List Char}
    (h : untilClose s = some (raw, after)) : after.length < s.length := by
  fun_induction untilClose s generalizing raw with
  | case1 => simp at h
  | case2 rest =>
    simp only [Option.some.injEq, Prod.mk.injEq] at h
    obtain ⟨-, rfl⟩ := h
    simp only [List.length_cons]
    omega
  | case3 => simp at h
  | case4 c rest _ _ ih =>
    obtain ⟨⟨raw', after'⟩, h', he⟩ := Option.map_eq_some_iff.1 h
    simp only [Prod.mk.injEq] at he
    obtain ⟨-, rfl⟩ := he
    have := ih h'
    simp only [List.length_cons]
    omega

theorem length_of_bracedAt? {s raw after : List Char}
    (h : bracedAt? s = some (raw, after)) : after.length < s.length := by
  unfold bracedAt? at h
  split at h
  · have := length_of_untilClose h
    simp only [List.length_cons]
    omega
  · simp at h

theorem length_of_firstBraced? {s before raw after : List Char}
    (h : firstBraced? s = some (before, raw, after)) : after.length < s.length := by
  induction s generalizing before with
  | nil => simp [firstBraced?] at h
  | cons c rest ih =>
    rw [firstBraced?] at h
    split at h
    · next heq =>
      simp only [Option.some.injEq, Prod.mk.injEq] at h
      obtain ⟨-, -, rfl⟩ := h
      exact length_of_bracedAt? heq
    · obtain ⟨⟨before', raw', after'⟩, h', he⟩ := Option.map_eq_some_iff.1 h
      simp only [Prod.mk.injEq] at he
      obtain ⟨-, rfl, rfl⟩ := he
      have := ih h'
      simp only [List.length_cons]
      omega

/-- A stretch of a text: outside braces, or enclosed by them. -/
inductive Piece where
  /-- Text outside braces. -/
  | plain (text : List Char)
  /-- Text that a pair of doubled braces encloses. -/
  | braced (raw : List Char)
  deriving DecidableEq, Repr

/-- A plain piece, unless it is empty. -/
def plainPiece : List Char → List Piece
  | [] => []
  | s => [.plain s]

/-- The pieces of a text, from left to right. -/
def pieces (s : List Char) : List Piece :=
  match _h : firstBraced? s with
  | none => plainPiece s
  | some (before, raw, after) => plainPiece before ++ .braced raw :: pieces after
termination_by s.length
decreasing_by exact length_of_firstBraced? _h

/-! ### Segments -/

/-- Two `c` side by side. -/
def doubled (c : Char) : List Char → Bool
  | a :: b :: rest => (a == c && b == c) || doubled c (b :: rest)
  | _ => false

/-- A letter or an underscore, of ASCII. -/
def isNameStart (c : Char) : Bool := c.isAlpha || c == '_'

/-- A character that a field name may go on with. -/
def isNameChar (c : Char) : Bool := c.isAlphanum || c == '_'

/-- A field name: a letter or an underscore, then letters, digits and underscores. -/
def isName : List Char → Bool
  | [] => false
  | c :: rest => isNameStart c && rest.all isNameChar

/-- The segment that a piece of `source` stands for. -/
def Piece.segment (source : String) : Piece → Except TemplateError Segment
  | .plain text =>
    if doubled '{' text || doubled '}' text then .error (.unbalancedBraces source)
    else .ok (.literal (String.ofList text))
  | .braced ('%' :: name) =>
    if isName name then .ok (.greedy (String.ofList name))
    else .error (.invalidToken (String.ofList ('%' :: name)) source)
  | .braced raw =>
    if isName raw then .ok (.token (String.ofList raw))
    else .error (.invalidToken (String.ofList raw) source)

/-- Reads a template; of several faults the leftmost is reported. -/
def compile (source : String) : Except TemplateError Template := do
  let segments ← (pieces source.toList).mapM (Piece.segment source)
  return ⟨source, segments⟩

/-- The fields that a template needs, in order and with repetitions. -/
def tokens (t : Template) : List String := t.segments.filterMap Segment.tokenName?

/-- The text that writes a list of segments. -/
def render (segments : List Segment) : String := String.join (segments.map Segment.text)

/-! ### Fields -/

/-- The fields a template needs that are not among `known`, each once and in order. -/
def unknownTokens (t : Template) (known : List String) : List String :=
  firstOccurrences (t.tokens.filter (!known.contains ·))

/-- The template that lists fields, a slash between each two. -/
def joinTokens (fields : List String) : String :=
  "/".intercalate (fields.map fun name => (Segment.token name).text)

end Template

end CrudPlan
