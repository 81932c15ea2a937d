import CrudPlan.Template.Basic

/-!
# Import formats

An import format is a template that names no field twice. It reads the field values back from an
id that a user gives on import.

* `ImportFormat.compile` reads an import format;
* `ImportFormat.values?` matches an id: literals stand for themselves, a plain token takes
  characters other than a slash and a newline, a greedy token any but a newline, and each takes at
  least one. Of all ways to divide the id, the one that gives the first token the longest value
  wins, then the second, and so on;
* `ImportFormat.pattern` writes the same format as the text of a regular expression with a named
  group for each token.
-/

namespace CrudPlan

/-- A template that names no field twice. -/
structure ImportFormat where
  /-- The template that ids are matched with. -/
  template : Template
  deriving DecidableEq, Repr, Inhabited

/-! ### Regular expressions -/

/-- The characters that a regular expression reads as operators or may skip as blank. -/
def patternSpecials : List Char :=
  "()[]\x7b\x7d?*+-|^$\\.&~# \t\n\r\x0b\x0c".toList

/-- A literal in a regular expression: a backslash before each special character. -/
def escapePattern (text : List Char) : List Char :=
  text.flatMap fun c => if patternSpecials.contains c then ['\\', c] else [c]

namespace Segment

/-- The regular expression of a segment. -/
def pattern : Segment → List Char
  | .literal text => escapePattern text.toList
  | .token name => "(?P<".toList ++ name.toList ++ ">[^/\\n]+)".toList
  | .greedy name => "(?P<".toList ++ name.toList ++ ">.+)".toList

/-- A character that a plain token may take. -/
def isPartChar (c : Char) : Bool := c != '/' && c != '\n'

/-- A character that a greedy token may take. -/
def isLineChar (c : Char) : Bool := c != '\n'

end Segment

/-! ### Matching -/

/-- What is left of a text after the given beginning. -/
def afterLiteral? : List Char → List Char → Option (List Char)
  | [], s => some s
  | _ :: _, [] => none
  | l :: ls, c :: s => if l = c then afterLiteral? ls s else none

theorem afterLiteral?_eq_some_iff {literal s after : List Char} :
    afterLiteral? literal s = some after ↔ s = literal ++ after := by
  induction literal generalizing s with
  | nil => simp [afterLiteral?]
  | cons l ls ih =>
    cases s with
    | nil => simp [afterLiteral?]
    | cons c s =>
      rw [afterLiteral?]
      split
      · next h => subst h; simp [ih]
      · next h => simp [Ne.symm h]

/-- The first success among `attempt n`, `attempt (n - 1)`, …, `attempt 1`. -/
def longestFirst {β : Type} (attempt : Nat → Option β) : Nat → Option β
  | 0 => none
  | n + 1 =>
    match attempt (n + 1) with
    | some b => some b
    | none => longestFirst attempt n

theorem longestFirst_eq_none_iff {β : Type} {attempt : Nat → Option β} {n : Nat} :
    longestFirst attempt n = none ↔ ∀ k, 1 ≤ k → k ≤ n → attempt k = none := by
  induction n with
  | zero => simp [longestFirst]; omega
  | succ n ih =>
    rw [longestFirst]
    cases h : attempt (n + 1) with
    | some b =>
      simp only [reduceCtorEq, false_iff]
      exact fun hall => by simpa [h] using hall (n + 1) (by omega) (by omega)
    | none =>
      simp only [ih]
      refine ⟨fun hall k h1 hk => ?_, fun hall k h1 hk => hall k h1 (by omega)⟩
      rcases Nat.lt_or_ge n k with hlt | hge
      · rwa [show k = n + 1 by omega]
      · exact hall k h1 hge

theorem longestFirst_eq_some_iff {β : Type} {attempt : Nat → Option β} {n : Nat} {b : β} :
    longestFirst attempt n = some b ↔
      ∃ k, 1 ≤ k ∧ k ≤ n ∧ attempt k = some b ∧ ∀ j, k < j → j ≤ n → attempt j = none := by
  induction n with
  | zero =>
    simp only [longestFirst, reduceCtorEq, false_iff]
    rintro ⟨k, h1, hk, -⟩
    omega
  | succ n ih =>
    rw [longestFirst]
    cases h : attempt (n + 1) with
    | some c =>
      constructor
      · intro hc
        exact ⟨n + 1, by omega, by omega, h.trans hc, fun j h1 h2 => by omega⟩
      · rintro ⟨k, h1, hk, hb, hmax⟩
        rcases Nat.lt_or_ge n k with hlt | hge
        · rw [show k = n + 1 by omega, h] at hb
          exact hb
        · have := hmax (n + 1) (by omega) (by omega)
          simp [h] at this
    | none =>
      simp only [ih]
      constructor
      · rintro ⟨k, h1, hk, hb, hmax⟩
        refine ⟨k, h1, by omega, hb, fun j hj hn => ?_⟩
        rcases Nat.lt_or_ge n j with hlt | hge
        · rwa [show j = n + 1 by omega]
        · exact hmax j hj hge
      · rintro ⟨k, h1, hk, hb, hmax⟩
        rcases Nat.lt_or_ge n k with hlt | hge
        · rw [show k = n + 1 by omega, h] at hb
          simp at hb
        · exact ⟨k, h1, hge, hb, fun j hj hn => hmax j hj (by omega)⟩

/-- The values of later tokens, with the first `n` characters of a text as that of `name`. -/
def withValue (name : String) (n : Nat) (s : List Char)
    (values : Option (List (String × String))) : Option (List (String × String)) :=
  values.map ((name, String.ofList (s.take n)) :: ·)

/-- The values that the tokens of a segment list take in a text, longest first. -/
def matchSegments : List Segment → List Char → Option (List (String × String))
  | [], s => if s.isEmpty then some [] else none
  | .literal text :: rest, s => (afterLiteral? text.toList s).bind (matchSegments rest)
  | .token name :: rest, s =>
    longestFirst (fun n => withValue name n s (matchSegments rest (s.drop n)))
      (s.takeWhile Segment.isPartChar).length
  | .greedy name :: rest, s =>
    longestFirst (fun n => withValue name n s (matchSegments rest (s.drop n)))
      (s.takeWhile Segment.isLineChar).length

namespace ImportFormat

/-- Reads an import format. -/
def compile (source : String) : Except TemplateError ImportFormat := do
  let template ← Template.compile source
  match firstRepeated? [] template.tokens with
  | some name => throw (.repeatedToken name source)
  | none => return ⟨template⟩

variable (f : ImportFormat)

/-- The regular expression that matches the same ids, anchored at both ends. -/
def pattern : String :=
  String.ofList ("\\A".toList ++ f.template.segments.flatMap Segment.pattern ++ "\\Z".toList)

/-- The value of each token in an id, in the order of the tokens. -/
def values? (id : String) : Option (List (String × String)) :=
  matchSegments f.template.segments id.toList

end ImportFormat

end CrudPlan
