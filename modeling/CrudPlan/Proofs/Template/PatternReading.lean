import CrudPlan.Proofs.Template.Matching

/-!
# Patterns can be read back

An import format writes its segments as one regular expression, literal text escaped and tokens as
named groups. This file reads such a pattern as a regular expression is read, and shows that nothing
of the format is lost.

* `PatternItem` is what a pattern is made of, and `readItems?` reads it from left to right: a
  backslash takes the next character with it, a bracket opens a group, any other character stands
  for itself;
* `PatternItem.IsInert` says that no character is read as an operator;
* `readItems?_flatMap_pattern`: the items of a pattern are those of its segments, one after the
  other;
* `PatternItem.segments_flatMap_items`: well-formed segments are found again in their items;
* `ImportFormat.pattern_readBack` draws the conclusion for import formats, which are therefore told
  apart by their patterns.
-/

namespace CrudPlan

/-- A part of a pattern that is read at once. -/
inductive PatternItem where
  /-- A character behind a backslash. -/
  | escaped (c : Char)
  /-- A character without one. -/
  | bare (c : Char)
  /-- A group for the value of a token. -/
  | group (token : Segment)
  deriving DecidableEq, Repr

/-! ### Reading -/

/-- What a group with the given name stands for, by the text behind the name. -/
def groupEnd? (name : String) (s : List Char) : Option (Segment × List Char) :=
  match afterLiteral? ">[^/\\n]+)".toList s with
  | some after => some (.token name, after)
  | none => (afterLiteral? ">.+)".toList s).map fun after => (.greedy name, after)

/-- The group whose opening bracket was just read, and the text after it. -/
def readGroup? (s : List Char) : Option (Segment × List Char) :=
  (afterLiteral? "?P<".toList s).bind fun named =>
    groupEnd? (String.ofList (named.takeWhile (· != '>'))) (named.dropWhile (· != '>'))

theorem groupEnd?_eq_some_iff {name : String} {s after : List Char} {token : Segment} :
    groupEnd? name s = some (token, after) ↔
      token = .token name ∧ s = ">[^/\\n]+)".toList ++ after ∨
        token = .greedy name ∧ s = ">.+)".toList ++ after := by
  rw [groupEnd?]
  cases hpart : afterLiteral? ">[^/\\n]+)".toList s with
  | some found =>
    obtain rfl := afterLiteral?_eq_some_iff.1 hpart
    constructor
    · rintro ⟨⟩
      exact .inl ⟨rfl, rfl⟩
    · rintro (⟨rfl, he⟩ | ⟨-, he⟩)
      · rw [List.append_cancel_left he]
      · cases he
  | none =>
    have hno : s ≠ ">[^/\\n]+)".toList ++ after := fun he => by
      rw [afterLiteral?_eq_some_iff.2 he] at hpart
      cases hpart
    simp only [Option.map_eq_some_iff, afterLiteral?_eq_some_iff, Prod.mk.injEq, hno, and_false,
      false_or]
    constructor
    · rintro ⟨_, hs, rfl, rfl⟩
      exact ⟨rfl, hs⟩
    · rintro ⟨rfl, hs⟩
      exact ⟨after, hs, rfl, rfl⟩

/-- A group that is read is the pattern of a token. -/
theorem eq_of_readGroup? {s after : List Char} {token : Segment}
    (h : readGroup? s = some (token, after)) :
    token.tokenName?.isSome ∧ '(' :: s = token.pattern ++ after := by
  obtain ⟨named, hnamed, hend⟩ := Option.bind_eq_some_iff.1 h
  have hcut := named.takeWhile_append_dropWhile (p := (· != '>'))
  rw [afterLiteral?_eq_some_iff.1 hnamed, ← hcut]
  generalize named.takeWhile (· != '>') = name at hend
  generalize named.dropWhile (· != '>') = body at hend
  rcases groupEnd?_eq_some_iff.1 hend with ⟨rfl, rfl⟩ | ⟨rfl, rfl⟩
  · simp [Segment.tokenName?, Segment.pattern]
  · simp [Segment.tokenName?, Segment.pattern]

/-- The name of a group ends at the first angle. -/
theorem readGroup?_append {name : String} {body after : List Char} {token : Segment}
    (hname : '>' ∉ name.toList) (hend : groupEnd? name ('>' :: body) = some (token, after)) :
    readGroup? ("?P<".toList ++ (name.toList ++ '>' :: body)) = some (token, after) := by
  have hbefore : ∀ c ∈ name.toList, (c != '>') = true := fun c hc => by
    rw [bne_iff_ne]
    rintro rfl
    exact hname hc
  rw [readGroup?, afterLiteral?_eq_some_iff.2 rfl, Option.bind_some,
    List.takeWhile_append_of_pos hbefore, List.dropWhile_append_of_pos hbefore]
  simpa using hend

theorem length_of_readGroup? {s after : List Char} {token : Segment}
    (h : readGroup? s = some (token, after)) : after.length < s.length := by
  obtain ⟨htoken, he⟩ := eq_of_readGroup? h
  have hlength := congrArg List.length he
  cases token with
  | literal text => cases htoken
  | token name => simp [Segment.pattern] at hlength; omega
  | greedy name => simp [Segment.pattern] at hlength; omega

/-- Reads a pattern without its anchors. -/
def readItems? (s : List Char) : Option (List PatternItem) :=
  match s with
  | [] => some []
  | '\\' :: c :: rest => (readItems? rest).map (.escaped c :: ·)
  | '\\' :: [] => none
  | '(' :: rest =>
    match _h : readGroup? rest with
    | some (token, after) => (readItems? after).map (.group token :: ·)
    | none => none
  | c :: rest => (readItems? rest).map (.bare c :: ·)
termination_by s.length
decreasing_by
  · simp only [List.length_cons]
    omega
  · have := length_of_readGroup? _h
    simp only [List.length_cons]
    omega
  · simp

/-- A pattern without the anchors at its ends. -/
def withoutAnchors? (s : List Char) : Option (List Char) := do
  let after ← afterLiteral? "\\A".toList s
  let before ← afterLiteral? "\\Z".toList.reverse after.reverse
  return before.reverse

theorem withoutAnchors?_append (s : List Char) :
    withoutAnchors? ("\\A".toList ++ s ++ "\\Z".toList) = some s := by
  have hstart : afterLiteral? "\\A".toList ("\\A".toList ++ s ++ "\\Z".toList) =
      some (s ++ "\\Z".toList) := afterLiteral?_eq_some_iff.2 (List.append_assoc ..)
  have hend : afterLiteral? "\\Z".toList.reverse (s ++ "\\Z".toList).reverse = some s.reverse :=
    afterLiteral?_eq_some_iff.2 List.reverse_append
  simp only [withoutAnchors?, hstart, hend, Option.bind_eq_bind, Option.bind_some,
    List.reverse_reverse]
  rfl

namespace PatternItem

/-- One more character of literal text in front of segments. -/
def prependChar (c : Char) : List Segment → List Segment
  | .literal text :: rest => .literal (String.ofList (c :: text.toList)) :: rest
  | rest => .literal (String.ofList [c]) :: rest

/-- The segments that items make up; characters side by side are one literal. -/
def segments : List PatternItem → List Segment
  | [] => []
  | .group token :: rest => token :: segments rest
  | .escaped c :: rest => prependChar c (segments rest)
  | .bare c :: rest => prependChar c (segments rest)

/-- The characters that a regular expression reads as operators. -/
def operators : List Char := "\\^$.|?*+()[]\x7b\x7d".toList

/-- A character that is no operator where it stands. Behind a backslash a letter or a digit would
be one. -/
def IsInert : PatternItem → Prop
  | .escaped c => c.isAlphanum = false
  | .bare c => c ∉ operators
  | .group _ => True

instance : DecidablePred IsInert
  | .escaped c => inferInstanceAs (Decidable (c.isAlphanum = false))
  | .bare c => inferInstanceAs (Decidable (c ∉ operators))
  | .group _ => .isTrue trivial

end PatternItem

/-! ### The items of segments -/

/-- The item that a character of literal text is written as. -/
def PatternItem.ofChar (c : Char) : PatternItem :=
  if patternSpecials.contains c then .escaped c else .bare c

/-- The items that a segment is written as. -/
def Segment.items : Segment → List PatternItem
  | .literal text => text.toList.map .ofChar
  | .token name => [.group (.token name)]
  | .greedy name => [.group (.greedy name)]

/-- Operators are special, and no letter or digit is. -/
theorem PatternItem.isInert_ofChar (c : Char) : (ofChar c).IsInert := by
  have hoperators : operators ⊆ patternSpecials := by decide
  have halphanum : patternSpecials.all (fun c => !c.isAlphanum) = true := by decide
  rw [ofChar]
  split
  · next h =>
    have hc := List.all_eq_true.1 halphanum c (List.contains_iff_mem.1 h)
    rwa [Bool.not_eq_true'] at hc
  · next h => exact fun hc => h (List.contains_iff_mem.2 (hoperators hc))

theorem Segment.isInert_of_mem_items {s : Segment} {item : PatternItem} (h : item ∈ s.items) :
    item.IsInert := by
  cases s with
  | literal text =>
    obtain ⟨c, -, rfl⟩ := List.mem_map.1 h
    exact PatternItem.isInert_ofChar c
  | token name => obtain rfl := List.mem_singleton.1 h; trivial
  | greedy name => obtain rfl := List.mem_singleton.1 h; trivial

theorem readItems?_escapePattern_append (text rest : List Char) :
    readItems? (escapePattern text ++ rest) =
      (readItems? rest).map (text.map PatternItem.ofChar ++ ·) := by
  induction text with
  | nil => simp [escapePattern]
  | cons c text ih =>
    have hcons : escapePattern (c :: text) =
        (if patternSpecials.contains c then ['\\', c] else [c]) ++ escapePattern text := rfl
    rw [hcons, List.append_assoc, List.map_cons, PatternItem.ofChar]
    split
    · rw [List.cons_append, List.cons_append, List.nil_append, readItems?, ih, Option.map_map]
      rfl
    · next h =>
      -- backslash and bracket are special, so neither is read here
      have hbackslash : c ≠ '\\' := by rintro rfl; exact h (by decide)
      have hbracket : c ≠ '(' := by rintro rfl; exact h (by decide)
      rw [List.cons_append, List.nil_append, readItems?, ih, Option.map_map]
      · rfl
      · exact fun _ _ he _ => hbackslash he
      · exact fun he _ => hbackslash he
      · exact hbracket

theorem readItems?_group {s after : List Char} {token : Segment}
    (h : readGroup? s = some (token, after)) :
    readItems? ('(' :: s) = (readItems? after).map (.group token :: ·) := by
  rw [readItems?]
  split
  · next heq => rw [h] at heq; cases heq; rfl
  · next heq => rw [h] at heq; cases heq

theorem readItems?_pattern_append {s : Segment} (h : s.Lawful) (rest : List Char) :
    readItems? (s.pattern ++ rest) = (readItems? rest).map (s.items ++ ·) := by
  have hangle : ∀ {name : String}, Segment.IsIdentifier name → '>' ∉ name.toList :=
    fun hname => Segment.notMem_of_isIdentifier hname (by decide) (by decide)
  cases s with
  | literal text => exact readItems?_escapePattern_append text.toList rest
  | token name =>
    have hpattern : (Segment.token name).pattern ++ rest =
        '(' :: ("?P<".toList ++ (name.toList ++ '>' :: ("[^/\\n]+)".toList ++ rest))) := by
      simp [Segment.pattern]
    have hend : groupEnd? name ('>' :: ("[^/\\n]+)".toList ++ rest)) = some (.token name, rest) :=
      groupEnd?_eq_some_iff.2 (.inl ⟨rfl, by simp⟩)
    rw [hpattern, readItems?_group (readGroup?_append (hangle h) hend)]
    rfl
  | greedy name =>
    have hpattern : (Segment.greedy name).pattern ++ rest =
        '(' :: ("?P<".toList ++ (name.toList ++ '>' :: (".+)".toList ++ rest))) := by
      simp [Segment.pattern]
    have hend : groupEnd? name ('>' :: (".+)".toList ++ rest)) = some (.greedy name, rest) :=
      groupEnd?_eq_some_iff.2 (.inr ⟨rfl, by simp⟩)
    rw [hpattern, readItems?_group (readGroup?_append (hangle h) hend)]
    rfl

/-- **The items of a pattern are those of its segments.** -/
theorem readItems?_flatMap_pattern {segments : List Segment} (h : ∀ s ∈ segments, s.Lawful) :
    readItems? (segments.flatMap Segment.pattern) = some (segments.flatMap Segment.items) := by
  induction segments with
  | nil => rw [List.flatMap_nil, readItems?, List.flatMap_nil]
  | cons s rest ih =>
    obtain ⟨hs, hrest⟩ := List.forall_mem_cons.1 h
    rw [List.flatMap_cons, readItems?_pattern_append hs, ih hrest, Option.map_some,
      List.flatMap_cons]

/-! ### From items to segments -/

namespace PatternItem

theorem segments_ofChar_cons (c : Char) (items : List PatternItem) :
    segments (ofChar c :: items) = prependChar c (segments items) := by
  rw [ofChar]
  split <;> rfl

/-- Characters are one literal, which the next segment does not join. -/
theorem segments_map_ofChar_append {text : List Char} {items : List PatternItem} (hne : text ≠ [])
    (h : ∀ t rest, segments items ≠ .literal t :: rest) :
    segments (text.map ofChar ++ items) = .literal (String.ofList text) :: segments items := by
  induction text with
  | nil => exact absurd rfl hne
  | cons c text ih =>
    rw [List.map_cons, List.cons_append, segments_ofChar_cons]
    cases text with
    | nil =>
      rw [List.map_nil, List.nil_append]
      -- nothing is joined, for what follows is no literal
      cases hitems : segments items with
      | nil => rfl
      | cons s rest =>
        cases s with
        | literal t => exact absurd hitems (h t rest)
        | token name => rfl
        | greedy name => rfl
    | cons d text =>
      rw [ih (List.cons_ne_nil d text), prependChar, String.toList_ofList]

/-- **Well-formed segments are found again in their items.** -/
theorem segments_flatMap_items {found : List Segment} (h : Template.WellFormed found) :
    segments (found.flatMap Segment.items) = found := by
  induction found with
  | nil => rfl
  | cons s rest ih =>
    have hrest := ih h.tail
    rw [List.flatMap_cons]
    cases s with
    | token name => exact congrArg (Segment.token name :: ·) hrest
    | greedy name => exact congrArg (Segment.greedy name :: ·) hrest
    | literal text =>
      have hne : text.toList ≠ [] := fun he =>
        h.nonempty (String.toList_eq_nil_iff.1 he ▸ List.mem_cons_self)
      rw [Segment.items, segments_map_ofChar_append hne, hrest, String.ofList_toList]
      -- no two literals stand side by side
      rintro t more he
      rw [hrest] at he
      subst he
      exact (List.isChain_cons_cons.1 h.chain).1

end PatternItem

/-! ### Import formats -/

/-- The items of a pattern. -/
def patternItems? (pattern : String) : Option (List PatternItem) :=
  (withoutAnchors? pattern.toList).bind readItems?

namespace ImportFormat

theorem patternItems?_pattern {f : ImportFormat}
    (h : ∀ s ∈ f.template.segments, s.Lawful) :
    patternItems? f.pattern = some (f.template.segments.flatMap Segment.items) := by
  rw [patternItems?, pattern, String.toList_ofList, withoutAnchors?_append, Option.bind_some,
    readItems?_flatMap_pattern h]

/-- **The pattern of an import format loses nothing.** Read from left to right it gives the segments
of the format, and no character of literal text is read as an operator. So no two formats have one
pattern. -/
theorem pattern_readBack {source : String} {f : ImportFormat} (h : compile source = .ok f) :
    (∃ items, patternItems? f.pattern = some items ∧
      PatternItem.segments items = f.template.segments ∧ ∀ item ∈ items, item.IsInert) ∧
    ∀ source' g, compile source' = .ok g → g.pattern = f.pattern → source' = source ∧ g = f := by
  obtain ⟨hsource, hwf, hrender⟩ := Template.compile_eq_ok_iff.1 (compile_eq_ok_iff.1 h).1
  have hread := patternItems?_pattern hwf.lawful
  refine ⟨⟨_, hread, PatternItem.segments_flatMap_items hwf, fun item hitem => ?_⟩, ?_⟩
  · obtain ⟨s, -, hs⟩ := List.mem_flatMap.1 hitem
    exact Segment.isInert_of_mem_items hs
  · intro source' g h' hpattern
    obtain ⟨hsource', hwf', hrender'⟩ := Template.compile_eq_ok_iff.1 (compile_eq_ok_iff.1 h').1
    have hread' := patternItems?_pattern hwf'.lawful
    -- equal patterns have equal items, hence equal segments, which write equal texts
    rw [hpattern, hread, Option.some.injEq] at hread'
    have hsegments : g.template.segments = f.template.segments := by
      rw [← PatternItem.segments_flatMap_items hwf', ← hread',
        PatternItem.segments_flatMap_items hwf]
    have hsame : source' = source := by rw [← hrender', hsegments, hrender]
    subst hsame
    rw [h'] at h
    exact ⟨rfl, Except.ok.inj h⟩

/-- A format whose literal text looks like an anchor, a group and an escape. -/
def lookalike : ImportFormat :=
  ⟨⟨"\\A(?P<a>.+)\n\x7b\x7b%b\x7d\x7d\\\x7b\x7ba\x7d\x7d\\Z\\",
    [.literal "\\A(?P<a>.+)\n", .greedy "b", .literal "\\", .token "a", .literal "\\Z\\"]⟩⟩

theorem compile_lookalike : compile lookalike.template.source = .ok lookalike :=
  compile_eq_ok_iff.2 ⟨Template.compile_eq_ok_iff.2 ⟨rfl, by decide, by decide⟩, by decide⟩

/-- Its literal text is found again as such. -/
theorem pattern_readBack_lookalike :
    compile lookalike.template.source = .ok lookalike ∧
    (∃ items, patternItems? lookalike.pattern = some items ∧
      PatternItem.segments items = [.literal "\\A(?P<a>.+)\n", .greedy "b", .literal "\\",
        .token "a", .literal "\\Z\\"] ∧ ∀ item ∈ items, item.IsInert) ∧
    ∀ source g, compile source = .ok g → g.pattern = lookalike.pattern →
      source = lookalike.template.source ∧ g = lookalike :=
  ⟨compile_lookalike, pattern_readBack compile_lookalike⟩

end ImportFormat

end CrudPlan
