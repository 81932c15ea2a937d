import CrudPlan.Template.Basic
import Mathlib.Data.List.Chain

/-!
# The pieces of a text

`Template.pieces` cuts a text at the doubled braces that enclose something. This file says what it
does to every text, whether or not the text is a template.

* `Template.flatMap_chars_pieces`: cutting loses nothing, the pieces written one after another are
  the text;
* `Template.isChain_pieces`, `Template.plain_nil_notMem_pieces`: plain pieces are not empty, do not
  touch, and do not end in a brace that would open the piece after them;
* `Template.pieces_braced_append`, `Template.pieces_plain_append`: text that is put together from
  pieces is cut in the same places, if no name has a brace in it.
-/

namespace CrudPlan

namespace Template

/-! ### Doubled characters -/

theorem doubled_eq_true_iff {c : Char} {s : List Char} :
    doubled c s = true ↔ [c, c] <:+: s := by
  fun_induction doubled c s with
  | case1 a b rest ih =>
    have hhead : [c, c] <+: a :: b :: rest ↔ a = c ∧ b = c := by
      simp [List.cons_prefix_cons, eq_comm]
    rw [List.infix_cons_iff, hhead, ← ih, Bool.or_eq_true, Bool.and_eq_true, beq_iff_eq,
      beq_iff_eq]
  | case2 s h =>
    -- there are not even two characters
    simp only [Bool.false_eq_true, false_iff]
    rintro ⟨before, after, rfl⟩
    cases before with
    | nil => exact h c c after rfl
    | cons a before =>
      cases before with
      | nil => exact h a c _ rfl
      | cons b before => exact h a b _ rfl

/-! ### The first braces of a text -/

theorem eq_of_untilClose {s raw after : List Char} (h : untilClose s = some (raw, after)) :
    s = raw ++ '}' :: '}' :: after := by
  fun_induction untilClose s generalizing raw with
  | case1 => cases h
  | case2 rest =>
    simp only [Option.some.injEq, Prod.mk.injEq] at h
    obtain ⟨rfl, rfl⟩ := h
    rfl
  | case3 => cases h
  | case4 c rest _ _ ih =>
    obtain ⟨⟨raw', after'⟩, h', he⟩ := Option.map_eq_some_iff.1 h
    simp only [Prod.mk.injEq] at he
    obtain ⟨rfl, rfl⟩ := he
    rw [ih h', List.cons_append]

theorem untilClose_append {raw : List Char} (h : ∀ c ∈ raw, c ≠ '}' ∧ c ≠ '\n')
    (after : List Char) : untilClose (raw ++ '}' :: '}' :: after) = some (raw, after) := by
  induction raw with
  | nil => rfl
  | cons c raw ih =>
    obtain ⟨hc, hraw⟩ := List.forall_mem_cons.1 h
    rw [List.cons_append, untilClose, if_neg hc.2, ih hraw]
    · rfl
    · exact fun _ he _ => hc.1 he

theorem eq_of_bracedAt? {s raw after : List Char} (h : bracedAt? s = some (raw, after)) :
    s = '{' :: '{' :: (raw ++ '}' :: '}' :: after) := by
  unfold bracedAt? at h
  split at h
  · rw [eq_of_untilClose h]
  · cases h

theorem bracedAt?_eq_none {s : List Char} (h : ¬ ['{', '{'] <+: s) : bracedAt? s = none := by
  unfold bracedAt?
  split
  · next rest => exact absurd ⟨rest, rfl⟩ h
  · rfl

/-- One more opening brace in front becomes a part of what is enclosed. -/
theorem bracedAt?_cons {s raw after : List Char} (h : bracedAt? s = some (raw, after)) :
    bracedAt? ('{' :: s) = some ('{' :: raw, after) := by
  unfold bracedAt? at h
  split at h
  · rw [bracedAt?, untilClose, if_neg (by decide), h]
    · rfl
    · exact fun _ he _ => absurd he (by decide)
  · cases h

theorem bracedAt?_of_firstBraced? {s raw after : List Char}
    (h : firstBraced? s = some ([], raw, after)) : bracedAt? s = some (raw, after) := by
  cases s with
  | nil => cases h
  | cons c rest =>
    rw [firstBraced?] at h
    split at h
    · next heq =>
      simp only [Option.some.injEq, Prod.mk.injEq, true_and] at h
      rw [heq, h.1, h.2]
    · simp at h

theorem eq_of_firstBraced? {s before raw after : List Char}
    (h : firstBraced? s = some (before, raw, after)) :
    s = before ++ '{' :: '{' :: (raw ++ '}' :: '}' :: after) := by
  induction s generalizing before with
  | nil => cases h
  | cons c rest ih =>
    rw [firstBraced?] at h
    split at h
    · next heq =>
      simp only [Option.some.injEq, Prod.mk.injEq] at h
      obtain ⟨rfl, rfl, rfl⟩ := h
      exact eq_of_bracedAt? heq
    · obtain ⟨⟨before', raw', after'⟩, h', he⟩ := Option.map_eq_some_iff.1 h
      simp only [Prod.mk.injEq] at he
      obtain ⟨rfl, rfl, rfl⟩ := he
      rw [ih h', List.cons_append]

/-- Of overlapping braces the leftmost count, so no brace is left in front of them. -/
theorem getLast?_of_firstBraced? {s before raw after : List Char}
    (h : firstBraced? s = some (before, raw, after)) : before.getLast? ≠ some '{' := by
  induction s generalizing before with
  | nil => cases h
  | cons c rest ih =>
    rw [firstBraced?] at h
    split at h
    · simp only [Option.some.injEq, Prod.mk.injEq] at h
      obtain ⟨rfl, -⟩ := h
      simp
    · next hnone =>
      obtain ⟨⟨before', raw', after'⟩, h', he⟩ := Option.map_eq_some_iff.1 h
      simp only [Prod.mk.injEq] at he
      obtain ⟨rfl, rfl, rfl⟩ := he
      cases before' with
      | cons b before' =>
        rw [List.getLast?_cons_cons]
        exact ih h'
      | nil =>
        -- the rest opens with the braces found, so with a brace for `c` they would begin here
        intro hc
        obtain rfl : c = '{' := by simpa using hc
        rw [bracedAt?_cons (bracedAt?_of_firstBraced? h')] at hnone
        cases hnone

theorem firstBraced?_eq_none {s : List Char} (h : ¬ ['{', '{'] <:+: s) :
    firstBraced? s = none := by
  induction s with
  | nil => rfl
  | cons c rest ih =>
    rw [List.infix_cons_iff, not_or] at h
    rw [firstBraced?, bracedAt?_eq_none h.1, ih h.2]
    rfl

theorem firstBraced?_append {before s raw after : List Char} (hbefore : ¬ ['{', '{'] <:+: before)
    (hlast : before.getLast? ≠ some '{') (h : firstBraced? s = some ([], raw, after)) :
    firstBraced? (before ++ s) = some (before, raw, after) := by
  induction before with
  | nil => exact h
  | cons c before ih =>
    rw [List.infix_cons_iff, not_or] at hbefore
    have hc : bracedAt? (c :: (before ++ s)) = none := by
      -- braces that begin here are doubled in `before`, or `before` ends in one
      refine bracedAt?_eq_none fun hopen => ?_
      cases before with
      | nil =>
        rw [List.cons_prefix_cons] at hopen
        exact hlast (by simp [← hopen.1])
      | cons d before =>
        simp only [List.cons_append, List.cons_prefix_cons] at hopen
        obtain ⟨rfl, rfl, -⟩ := hopen
        exact hbefore.1 ⟨before, rfl⟩
    have hlast' : before.getLast? ≠ some '{' := by
      cases before with
      | nil => simp
      | cons d before => rwa [List.getLast?_cons_cons] at hlast
    rw [List.cons_append, firstBraced?, hc, ih hbefore.2 hlast']
    rfl

/-! ### Pieces -/

namespace Piece

/-- The text of a piece. -/
def chars : Piece → List Char
  | .plain text => text
  | .braced raw => '{' :: '{' :: (raw ++ ['}', '}'])

/-- Which pieces may follow each other. -/
def MayPrecede : Piece → Piece → Prop
  | .plain _, .plain _ => False
  | .plain text, .braced _ => text.getLast? ≠ some '{'
  | .braced _, _ => True

end Piece

theorem pieces_eq_plainPiece {s : List Char} (h : firstBraced? s = none) :
    pieces s = plainPiece s := by
  rw [pieces]
  split
  · rfl
  · next heq => rw [h] at heq; cases heq

theorem pieces_eq_append {s before raw after : List Char}
    (h : firstBraced? s = some (before, raw, after)) :
    pieces s = plainPiece before ++ .braced raw :: pieces after := by
  rw [pieces]
  split
  · next heq => rw [h] at heq; cases heq
  · next heq =>
    rw [h] at heq
    simp only [Option.some.injEq, Prod.mk.injEq] at heq
    obtain ⟨rfl, rfl, rfl⟩ := heq
    rfl

theorem pieces_nil : pieces [] = [] := pieces_eq_plainPiece rfl

theorem plainPiece_eq_singleton {s : List Char} (h : s ≠ []) : plainPiece s = [.plain s] := by
  cases s with
  | nil => exact absurd rfl h
  | cons c s => rfl

theorem flatMap_chars_plainPiece (s : List Char) : (plainPiece s).flatMap Piece.chars = s := by
  cases s <;> simp [plainPiece, Piece.chars]

/-- **Cutting a text into pieces loses nothing of it.** -/
theorem flatMap_chars_pieces (s : List Char) : (pieces s).flatMap Piece.chars = s := by
  induction s using pieces.induct with
  | case1 s h => rw [pieces_eq_plainPiece h, flatMap_chars_plainPiece]
  | case2 s before raw after h ih =>
    rw [pieces_eq_append h, List.flatMap_append, List.flatMap_cons, flatMap_chars_plainPiece, ih,
      eq_of_firstBraced? h, Piece.chars]
    simp

theorem plain_nil_notMem_pieces (s : List Char) : .plain [] ∉ pieces s := by
  have hplain : ∀ t, .plain [] ∉ plainPiece t := fun t => by cases t <;> simp [plainPiece]
  induction s using pieces.induct with
  | case1 s h => rw [pieces_eq_plainPiece h]; exact hplain s
  | case2 s before raw after h ih =>
    rw [pieces_eq_append h]
    simp [hplain before, ih]

theorem isChain_pieces (s : List Char) : (pieces s).IsChain Piece.MayPrecede := by
  induction s using pieces.induct with
  | case1 s h =>
    rw [pieces_eq_plainPiece h]
    cases s <;> simp [plainPiece]
  | case2 s before raw after h ih =>
    rw [pieces_eq_append h]
    -- anything may follow braces; what stands before them does not end in one
    have hbraced : (Piece.braced raw :: pieces after).IsChain Piece.MayPrecede :=
      ih.cons fun _ _ => trivial
    cases before with
    | nil => exact hbraced
    | cons c before => exact hbraced.cons_cons (getLast?_of_firstBraced? h)

/-! ### Text that is put together from pieces -/

theorem firstBraced?_braced_append {raw : List Char} (h : ∀ c ∈ raw, c ≠ '}' ∧ c ≠ '\n')
    (after : List Char) :
    firstBraced? ((Piece.braced raw).chars ++ after) = some ([], raw, after) := by
  have hclose : bracedAt? ((Piece.braced raw).chars ++ after) = some (raw, after) := by
    rw [← untilClose_append h after]
    simp [Piece.chars, bracedAt?]
  have hcons : (Piece.braced raw).chars ++ after =
      '{' :: ('{' :: (raw ++ ['}', '}']) ++ after) := rfl
  rw [hcons] at hclose ⊢
  rw [firstBraced?, hclose]

theorem pieces_braced_append {raw : List Char} (h : ∀ c ∈ raw, c ≠ '}' ∧ c ≠ '\n')
    (after : List Char) :
    pieces ((Piece.braced raw).chars ++ after) = .braced raw :: pieces after :=
  pieces_eq_append (firstBraced?_braced_append h after)

theorem pieces_plain {text : List Char} (hne : text ≠ []) (hbrace : ¬ ['{', '{'] <:+: text) :
    pieces text = [.plain text] := by
  rw [pieces_eq_plainPiece (firstBraced?_eq_none hbrace), plainPiece_eq_singleton hne]

theorem pieces_plain_append {text raw : List Char} (hne : text ≠ [])
    (hbrace : ¬ ['{', '{'] <:+: text) (hlast : text.getLast? ≠ some '{')
    (h : ∀ c ∈ raw, c ≠ '}' ∧ c ≠ '\n') (after : List Char) :
    pieces (text ++ ((Piece.braced raw).chars ++ after)) =
      .plain text :: .braced raw :: pieces after := by
  rw [pieces_eq_append (firstBraced?_append hbrace hlast (firstBraced?_braced_append h after)),
    plainPiece_eq_singleton hne]
  rfl

end Template

end CrudPlan
