import CrudPlan.Proofs.Template.Pieces
import Mathlib.Data.List.Infix
import Mathlib.Data.Set.Function

/-!
# The grammar of templates

Reading a template and writing its segments are inverse to each other, in both directions.

* `Template.WellFormed` says which lists of segments a template has, without reference to how a
  text is read;
* `Template.pieces_flatMap_chars`: the text of well-formed segments is cut where it was put
  together;
* `Template.compile_eq_ok_iff`: a text is read as the well-formed segments that it writes;
* `Template.compile_inverts_render` draws the conclusion for all texts and all segment lists. A
  text that no well-formed segments write is no template, and no text has two readings.
-/

namespace CrudPlan

namespace Segment

/-- ASCII letters, digits and underscores, and the first is no digit. -/
def IsIdentifier (name : String) : Prop :=
  name ≠ "" ∧ (∀ c ∈ name.toList, c.isAlphanum ∨ c = '_') ∧
    ∀ c ∈ name.toList.head?, ¬ c.isDigit

/-- Literal text holds no doubled brace, and tokens have identifiers for names. -/
def Lawful : Segment → Prop
  | .literal text => ¬ ['{', '{'] <:+: text.toList ∧ ¬ ['}', '}'] <:+: text.toList
  | .token name => IsIdentifier name
  | .greedy name => IsIdentifier name

/-- Which segments may follow each other: two literals would be read as one, and an opening brace
in front of a token as a part of it. -/
def MayPrecede : Segment → Segment → Prop
  | .literal _, .literal _ => False
  | .literal text, _ => text.toList.getLast? ≠ some '{'
  | _, _ => True

-- (instance search may choose to go through all characters instead)
instance : DecidablePred IsIdentifier := fun _ =>
  @instDecidableAnd _ _ inferInstance
    (@instDecidableAnd _ _ (List.decidableBAll _ _) (Option.decidableForallMem _))

instance : DecidablePred Lawful
  | .literal text => inferInstanceAs (Decidable
      (¬ ['{', '{'] <:+: text.toList ∧ ¬ ['}', '}'] <:+: text.toList))
  | .token name => inferInstanceAs (Decidable (IsIdentifier name))
  | .greedy name => inferInstanceAs (Decidable (IsIdentifier name))

instance : DecidableRel MayPrecede
  | .literal _, .literal _ => .isFalse id
  | .literal text, .token _ => inferInstanceAs (Decidable (text.toList.getLast? ≠ some '{'))
  | .literal text, .greedy _ => inferInstanceAs (Decidable (text.toList.getLast? ≠ some '{'))
  | .token _, _ => .isTrue trivial
  | .greedy _, _ => .isTrue trivial

end Segment

namespace Template

/-- The lists of segments that templates have. -/
structure WellFormed (segments : List Segment) : Prop where
  lawful : ∀ s ∈ segments, s.Lawful
  nonempty : .literal "" ∉ segments
  chain : segments.IsChain Segment.MayPrecede

instance (segments : List Segment) : Decidable (WellFormed segments) :=
  decidable_of_iff ((∀ s ∈ segments, s.Lawful) ∧ .literal "" ∉ segments ∧
    segments.IsChain Segment.MayPrecede)
    ⟨fun h => ⟨h.1, h.2.1, h.2.2⟩, fun h => ⟨h.lawful, h.nonempty, h.chain⟩⟩

theorem WellFormed.tail {s : Segment} {rest : List Segment} (h : WellFormed (s :: rest)) :
    WellFormed rest :=
  ⟨(List.forall_mem_cons.1 h.lawful).2, fun hmem => h.nonempty (List.mem_cons_of_mem _ hmem),
    h.chain.tail⟩

/-! ### Names -/

theorem not_isDigit_of_isNameStart {c : Char} (h : isNameStart c = true) : ¬ c.isDigit := by
  have halpha : c.isAlpha =
      (decide (c.val ≥ 65 ∧ c.val ≤ 90) || (c.val ≥ 97 && c.val ≤ 122)) := rfl
  have hdigit : c.isDigit = (c.val ≥ 48 && c.val ≤ 57) := rfl
  rw [isNameStart, halpha] at h
  rw [hdigit]
  intro hd
  simp only [Bool.or_eq_true, Bool.and_eq_true, decide_eq_true_eq, beq_iff_eq,
    UInt32.le_iff_toNat_le, ge_iff_le] at h hd
  have h57 : UInt32.toNat 57 = 57 := rfl
  have h65 : UInt32.toNat 65 = 65 := rfl
  have h97 : UInt32.toNat 97 = 97 := rfl
  rcases h with h | rfl
  · omega
  · revert hd; decide

theorem isNameStart_iff {c : Char} : isNameStart c = true ↔ isNameChar c = true ∧ ¬ c.isDigit := by
  constructor
  · intro h
    refine ⟨?_, not_isDigit_of_isNameStart h⟩
    simp only [isNameStart, isNameChar, Char.isAlphanum, Bool.or_eq_true] at h ⊢
    exact h.imp_left .inl
  · rintro ⟨h, hd⟩
    simp only [isNameStart, isNameChar, Char.isAlphanum, Bool.or_eq_true] at h ⊢
    exact h.imp_left fun h => h.resolve_right hd

theorem isName_iff {name : String} : isName name.toList = true ↔ Segment.IsIdentifier name := by
  rw [Segment.IsIdentifier, ne_eq, ← String.toList_eq_nil_iff]
  cases name.toList with
  | nil => simp [isName]
  | cons c rest =>
    simp only [isName, Bool.and_eq_true, isNameStart_iff, List.all_eq_true]
    simp [isNameChar, and_assoc, and_comm]

end Template

namespace Segment

open Template (Piece)

theorem notMem_of_isIdentifier {name : String} (h : IsIdentifier name) {c : Char}
    (hc : c.isAlphanum = false) (hu : c ≠ '_') : c ∉ name.toList := by
  intro hmem
  rcases h.2.1 c hmem with h | h
  · rw [hc] at h; cases h
  · exact hu h

theorem clear_of_isIdentifier {name : String} (h : IsIdentifier name) :
    ∀ c ∈ name.toList, c ≠ '}' ∧ c ≠ '\n' := by
  intro c hc
  constructor
  · rintro rfl; exact notMem_of_isIdentifier h (by decide) (by decide) hc
  · rintro rfl; exact notMem_of_isIdentifier h (by decide) (by decide) hc

/-! ### Segments as pieces -/

/-- The piece that a segment is read from. -/
def piece : Segment → Piece
  | .literal text => .plain text.toList
  | .token name => .braced name.toList
  | .greedy name => .braced ('%' :: name.toList)

theorem toList_text (s : Segment) : s.text.toList = s.piece.chars := by
  cases s <;> simp [text, piece, Piece.chars]

theorem mayPrecede_piece {a b : Segment} :
    Piece.MayPrecede a.piece b.piece ↔ MayPrecede a b := by
  cases a <;> cases b <;> simp [piece, Piece.MayPrecede, MayPrecede]

theorem exists_piece_eq_braced {s : Segment} (h : s.Lawful) (htoken : s.tokenName?.isSome) :
    ∃ raw, s.piece = .braced raw ∧ ∀ c ∈ raw, c ≠ '}' ∧ c ≠ '\n' := by
  cases s with
  | literal text => cases htoken
  | token name => exact ⟨name.toList, rfl, clear_of_isIdentifier h⟩
  | greedy name =>
    refine ⟨'%' :: name.toList, rfl, fun c hc => ?_⟩
    rcases List.mem_cons.1 hc with rfl | hc
    · decide
    · exact clear_of_isIdentifier h c hc

end Segment

namespace Template

theorem Piece.segment_eq_ok_iff {source : String} {p : Piece} {s : Segment} :
    p.segment source = .ok s ↔ p = s.piece ∧ s.Lawful := by
  constructor
  · intro h
    unfold Piece.segment at h
    split at h <;> split_ifs at h with hif
    · cases h
      simp only [Bool.or_eq_true, doubled_eq_true_iff, not_or] at hif
      simpa [Segment.piece, Segment.Lawful] using hif
    · cases h
      exact ⟨by simp [Segment.piece], isName_iff.1 (by rwa [String.toList_ofList])⟩
    · cases h
      exact ⟨by simp [Segment.piece], isName_iff.1 (by rwa [String.toList_ofList])⟩
  · rintro ⟨rfl, h⟩
    cases s with
    | literal text =>
      have hno : ¬ (doubled '{' text.toList || doubled '}' text.toList) = true := by
        rw [Bool.or_eq_true, doubled_eq_true_iff, doubled_eq_true_iff, not_or]
        exact h
      rw [Segment.piece, Piece.segment, if_neg hno, String.ofList_toList]
    | greedy name =>
      rw [Segment.piece, Piece.segment, if_pos (isName_iff.2 h), String.ofList_toList]
    | token name =>
      rw [Segment.piece, Piece.segment, if_pos (isName_iff.2 h), String.ofList_toList]
      -- an identifier does not begin with the mark of a greedy token
      intro rest he
      exact Segment.notMem_of_isIdentifier h (c := '%') (by decide) (by decide) (by simp [he])

theorem mapM_segment_eq_ok_iff {source : String} {ps : List Piece} {segments : List Segment} :
    ps.mapM (Piece.segment source) = .ok segments ↔
      ps = segments.map Segment.piece ∧ ∀ s ∈ segments, s.Lawful := by
  induction ps generalizing segments with
  | nil => cases segments <;> simp [pure, Except.pure]
  | cons p ps ih =>
    rw [List.mapM_cons]
    constructor
    · intro h
      cases hp : p.segment source with
      | error e => rw [hp] at h; cases h
      | ok s =>
        cases hps : ps.mapM (Piece.segment source) with
        | error e => rw [hp, hps] at h; cases h
        | ok rest =>
          rw [hp, hps] at h
          cases h
          obtain ⟨rfl, hs⟩ := Piece.segment_eq_ok_iff.1 hp
          obtain ⟨rfl, hrest⟩ := ih.1 hps
          exact ⟨rfl, List.forall_mem_cons.2 ⟨hs, hrest⟩⟩
    · rintro ⟨he, hlawful⟩
      cases segments with
      | nil => cases he
      | cons s rest =>
        obtain ⟨rfl, rfl⟩ := List.cons.inj he
        obtain ⟨hs, hrest⟩ := List.forall_mem_cons.1 hlawful
        rw [Piece.segment_eq_ok_iff.2 ⟨rfl, hs⟩, ih.2 ⟨rfl, hrest⟩]
        rfl

/-! ### Reading what was written -/

theorem toList_render (segments : List Segment) :
    (render segments).toList = segments.flatMap fun s => s.piece.chars := by
  rw [render, String.toList_join, List.flatMap_map]
  simp only [Segment.toList_text]

theorem WellFormed.pieces_literal {text : String} {rest : List Segment}
    (h : WellFormed (.literal text :: rest)) :
    pieces (text.toList ++ rest.flatMap fun s => s.piece.chars) =
      .plain text.toList :: pieces (rest.flatMap fun s => s.piece.chars) := by
  have hne : text.toList ≠ [] := fun he =>
    h.nonempty (String.toList_eq_nil_iff.1 he ▸ List.mem_cons_self)
  obtain ⟨htext, hrest⟩ := List.forall_mem_cons.1 h.lawful
  cases rest with
  | nil => rw [List.flatMap_nil, List.append_nil, pieces_plain hne htext.1, pieces_nil]
  | cons b rest =>
    have hnext : (Segment.literal text).MayPrecede b := (List.isChain_cons_cons.1 h.chain).1
    have htoken : b.tokenName?.isSome ∧ text.toList.getLast? ≠ some '{' := by
      cases b with
      | literal text' => exact hnext.elim
      | token name => exact ⟨rfl, hnext⟩
      | greedy name => exact ⟨rfl, hnext⟩
    obtain ⟨raw, hraw, hclear⟩ :=
      Segment.exists_piece_eq_braced (hrest b List.mem_cons_self) htoken.1
    rw [List.flatMap_cons, hraw, pieces_plain_append hne htext.1 htoken.2 hclear,
      pieces_braced_append hclear]

theorem pieces_flatMap_chars {segments : List Segment} (h : WellFormed segments) :
    pieces (segments.flatMap fun s => s.piece.chars) = segments.map Segment.piece := by
  induction segments with
  | nil => exact pieces_nil
  | cons s rest ih =>
    -- a token ends with its own braces, a literal where the token after it begins
    have htoken : s.tokenName?.isSome → pieces ((s :: rest).flatMap fun s => s.piece.chars) =
        (s :: rest).map Segment.piece := by
      intro htoken
      obtain ⟨raw, hraw, hclear⟩ :=
        Segment.exists_piece_eq_braced (h.lawful s List.mem_cons_self) htoken
      rw [List.flatMap_cons, hraw, pieces_braced_append hclear, ih h.tail, List.map_cons, hraw]
    cases s with
    | literal text => exact h.pieces_literal.trans (congrArg _ (ih h.tail))
    | token name => exact htoken rfl
    | greedy name => exact htoken rfl

/-! ### Both directions -/

theorem compile_eq_ok_iff_pieces {source : String} {t : Template} :
    compile source = .ok t ↔ t.source = source ∧
      pieces source.toList = t.segments.map Segment.piece ∧ ∀ s ∈ t.segments, s.Lawful := by
  rw [← @mapM_segment_eq_ok_iff source]
  obtain ⟨source', segments⟩ := t
  unfold compile
  cases (pieces source.toList).mapM (Piece.segment source) with
  | error e => simp [bind, Except.bind]
  | ok found => simp [bind, Except.bind, pure, Except.pure, eq_comm]

/-- A text is read as the well-formed segments that it writes. -/
theorem compile_eq_ok_iff {source : String} {t : Template} :
    compile source = .ok t ↔
      t.source = source ∧ WellFormed t.segments ∧ render t.segments = source := by
  rw [compile_eq_ok_iff_pieces]
  refine and_congr_right fun _ => ⟨?_, ?_⟩
  · -- what holds of the pieces of every text carries over to the segments read from them
    rintro ⟨hp, hlawful⟩
    refine ⟨⟨hlawful, fun hmem => ?_, ?_⟩, ?_⟩
    · have := List.mem_map_of_mem (f := Segment.piece) hmem
      rw [← hp] at this
      exact plain_nil_notMem_pieces _ this
    · have := isChain_pieces source.toList
      rw [hp, List.isChain_map] at this
      exact this.imp fun _ _ => Segment.mayPrecede_piece.1
    · rw [← String.toList_inj, toList_render, ← flatMap_chars_pieces source.toList, hp,
        List.flatMap_map]
  · rintro ⟨hwf, rfl⟩
    rw [toList_render, pieces_flatMap_chars hwf]
    exact ⟨rfl, hwf.lawful⟩

theorem compile_render {segments : List Segment} (h : WellFormed segments) :
    compile (render segments) = .ok ⟨render segments, segments⟩ :=
  compile_eq_ok_iff.2 ⟨rfl, h, rfl⟩

theorem render_injOn : Set.InjOn render {segments | WellFormed segments} := by
  intro segments h segments' h' he
  have hread := compile_render h
  rw [he, compile_render h'] at hread
  cases hread
  rfl

/-- **Reading and writing templates are inverse to each other.** A text is a template exactly if
well-formed segments write it, and those are the segments it is read as. -/
theorem compile_inverts_render :
    (∀ source t, compile source = .ok t ↔
      t.source = source ∧ WellFormed t.segments ∧ render t.segments = source) ∧
    (∀ source, (∃ e, compile source = .error e) ↔
      ¬ ∃ segments, WellFormed segments ∧ render segments = source) ∧
    Set.InjOn render {segments | WellFormed segments} := by
  refine ⟨fun _ _ => compile_eq_ok_iff, fun source => ?_, render_injOn⟩
  constructor
  · rintro ⟨e, he⟩ ⟨segments, hwf, rfl⟩
    rw [compile_render hwf] at he
    cases he
  · intro hnone
    cases hread : compile source with
    | error e => exact ⟨e, rfl⟩
    | ok t => exact absurd ⟨t.segments, (compile_eq_ok_iff.1 hread).2⟩ hnone

/-- A brace of literal text may come directly after a token. -/
theorem compile_inverts_render_braces :
    compile "\x7ba\x7d/\x7b\x7bb\x7d\x7d\x7d\x7b\x7b%c\x7d\x7d\x7b" = .ok
      ⟨"\x7ba\x7d/\x7b\x7bb\x7d\x7d\x7d\x7b\x7b%c\x7d\x7d\x7b",
        [.literal "\x7ba\x7d/", .token "b", .literal "\x7d", .greedy "c", .literal "\x7b"]⟩ :=
  (compile_inverts_render.1 _ _).2 ⟨rfl, by decide, by decide⟩

end Template

end CrudPlan
