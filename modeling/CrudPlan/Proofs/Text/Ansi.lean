import CrudPlan.Text.Ansi
import Mathlib.Data.List.TakeWhile

/-!
# Taking escape sequences out

Escape sequences are taken out one after the other, from left to right. This file says what is left
of a text, and what is left of a text that is put together from parts.

* `Ansi.Stripped` says what is left, sequence by sequence; `Ansi.stripWith_eq_iff`: that is what is
  computed;
* `Ansi.stripWith_append_of_clear`: a part without escape characters stays as it is;
* `Ansi.stripWith_append_cons`: what comes before a barrier and what comes from it on lose their
  sequences each by itself, also if one is cut off at the barrier;
* `Ansi.TakesStyles.stripWith_painter`: a text loses its paint with its sequences;
* `Ansi.strip_painter`: a text without escape characters comes out of its paint as it was.
-/

namespace CrudPlan.Ansi

variable {isArgument isFinal : Char → Bool} {s t u after rest : List Char} {c : Char}

/-- The character that begins every escape sequence. -/
def escape : Char := '\x1b'

/-! ### Sequences -/

/-- A text begins with an escape sequence, after which another text follows. -/
def BeginsWithSequence (isArgument isFinal : Char → Bool) (s after : List Char) : Prop :=
  ∃ arguments final, s = escape :: '[' :: (arguments ++ final :: after) ∧
    (∀ a ∈ arguments, isArgument a = true) ∧ isArgument final = false ∧ isFinal final = true

theorem BeginsWithSequence.append (h : BeginsWithSequence isArgument isFinal s after)
    (rest : List Char) : BeginsWithSequence isArgument isFinal (s ++ rest) (after ++ rest) := by
  obtain ⟨arguments, final, rfl, hclasses⟩ := h
  exact ⟨arguments, final, by simp, hclasses⟩

theorem afterSequence?_eq_some_iff :
    afterSequence? isArgument isFinal s = some after ↔
      BeginsWithSequence isArgument isFinal s after := by
  constructor
  · intro h
    unfold afterSequence? at h
    split at h
    · next rest =>
      split at h
      · next final tail heq =>
        split at h
        · next hfinal =>
          cases h
          refine ⟨rest.takeWhile isArgument, final, ?_, ?_, ?_, hfinal⟩
          · rw [← heq, List.takeWhile_append_dropWhile]
            rfl
          · intro a ha
            exact List.mem_takeWhile_imp ha
          · have hhead := List.head?_dropWhile_not isArgument rest
            rw [heq] at hhead
            simpa using hhead
        · cases h
      · cases h
    · cases h
  · rintro ⟨arguments, final, rfl, harguments, hnot, hfinal⟩
    have hdrop : (arguments ++ final :: after).dropWhile isArgument = final :: after := by
      rw [List.dropWhile_append_of_pos harguments]
      simp [hnot]
    simp only [escape, afterSequence?, hdrop, hfinal, if_true]

theorem afterSequence?_eq_none_iff :
    afterSequence? isArgument isFinal s = none ↔
      ∀ after, ¬ BeginsWithSequence isArgument isFinal s after := by
  rw [Option.eq_none_iff_forall_ne_some]
  simp only [ne_eq, afterSequence?_eq_some_iff]

/-! ### What is left -/

/-- What is left of a text: a sequence goes where one begins, and any other character stays. -/
inductive Stripped (isArgument isFinal : Char → Bool) : List Char → List Char → Prop
  | nil : Stripped isArgument isFinal [] []
  | sequence {s after t : List Char} : BeginsWithSequence isArgument isFinal s after →
      Stripped isArgument isFinal after t → Stripped isArgument isFinal s t
  | keep {c : Char} {s t : List Char} :
      (∀ after, ¬ BeginsWithSequence isArgument isFinal (c :: s) after) →
      Stripped isArgument isFinal s t → Stripped isArgument isFinal (c :: s) (c :: t)

theorem stripWith_nil : stripWith isArgument isFinal [] = [] := by
  rw [stripWith]
  rfl

theorem stripWith_of_afterSequence? (h : afterSequence? isArgument isFinal s = some after) :
    stripWith isArgument isFinal s = stripWith isArgument isFinal after := by
  rw [stripWith]
  split
  · next heq => rw [h] at heq; cases heq; rfl
  · next heq => rw [h] at heq; cases heq

theorem stripWith_cons_of_none (h : afterSequence? isArgument isFinal (c :: rest) = none) :
    stripWith isArgument isFinal (c :: rest) = c :: stripWith isArgument isFinal rest := by
  rw [stripWith]
  split
  · next heq => rw [h] at heq; cases heq
  · rfl

theorem stripped_stripWith (s : List Char) :
    Stripped isArgument isFinal s (stripWith isArgument isFinal s) := by
  induction s using stripWith.induct isArgument isFinal with
  | case1 s after h ih =>
    rw [stripWith_of_afterSequence? h]
    exact .sequence (afterSequence?_eq_some_iff.1 h) ih
  | case2 h =>
    rw [stripWith_nil]
    exact .nil
  | case3 c rest h ih =>
    rw [stripWith_cons_of_none h]
    exact .keep (afterSequence?_eq_none_iff.1 h) ih

/-- What is left of a text is what is computed. -/
theorem stripWith_eq_iff :
    stripWith isArgument isFinal s = t ↔ Stripped isArgument isFinal s t := by
  constructor
  · rintro rfl
    exact stripped_stripWith s
  · intro h
    induction h with
    | nil => exact stripWith_nil
    | sequence hbegins _ ih =>
      rw [stripWith_of_afterSequence? (afterSequence?_eq_some_iff.2 hbegins), ih]
    | keep hnone _ ih => rw [stripWith_cons_of_none (afterSequence?_eq_none_iff.2 hnone), ih]

/-! ### Parts without sequences -/

theorem stripWith_cons (h : c ≠ escape) (rest : List Char) :
    stripWith isArgument isFinal (c :: rest) = c :: stripWith isArgument isFinal rest := by
  refine stripWith_cons_of_none (afterSequence?_eq_none_iff.2 ?_)
  rintro after ⟨arguments, final, hs, -⟩
  exact h (List.cons.inj hs).1

/-- A part without escape characters stays as it is. -/
theorem stripWith_append_of_clear (h : escape ∉ s) (rest : List Char) :
    stripWith isArgument isFinal (s ++ rest) = s ++ stripWith isArgument isFinal rest := by
  induction s with
  | nil => rfl
  | cons c s ih =>
    rw [List.mem_cons, not_or] at h
    rw [List.cons_append, stripWith_cons (Ne.symm h.1), ih h.2, List.cons_append]

theorem stripWith_of_clear (h : escape ∉ s) : stripWith isArgument isFinal s = s := by
  have := @stripWith_append_of_clear isArgument isFinal s h []
  rwa [List.append_nil, stripWith_nil, List.append_nil] at this

/-! ### Parts with sequences -/

/-- A character that no sequence holds, except perhaps at its beginning. -/
structure IsBarrier (isArgument isFinal : Char → Bool) (c : Char) : Prop where
  /-- It is not the bracket. -/
  bracket : c ≠ '['
  /-- It is no argument. -/
  argument : isArgument c = false
  /-- It ends no sequence. -/
  final : isFinal c = false

/-- A sequence that begins before a barrier ends before it. -/
theorem IsBarrier.beginsWithSequence {d : Char} (hc : IsBarrier isArgument isFinal c)
    (h : BeginsWithSequence isArgument isFinal (d :: s ++ c :: rest) after) :
    ∃ after, BeginsWithSequence isArgument isFinal (d :: s) after := by
  obtain ⟨arguments, final, htext, harguments, hnot, hfinal⟩ := h
  rw [List.cons_append, List.cons.injEq] at htext
  obtain ⟨rfl, htext⟩ := htext
  cases s with
  | nil =>
    -- the barrier would be the bracket
    exact absurd (List.cons.inj htext).1 hc.bracket
  | cons bracket s =>
    rw [List.cons_append, List.cons.injEq] at htext
    obtain ⟨rfl, htext⟩ := htext
    have hne : c ≠ final := by
      rintro rfl
      rw [hc.final] at hfinal
      cases hfinal
    obtain ⟨more, hleft, hright⟩ | ⟨more, hleft, hright⟩ := List.append_eq_append_iff.1 htext
    · cases more with
      | nil => exact absurd (List.cons.inj hright).1 hne
      | cons x more =>
        -- the barrier would be an argument
        obtain ⟨rfl, -⟩ := List.cons.inj hright
        have hargument := harguments c (by rw [hleft]; simp)
        rw [hc.argument] at hargument
        cases hargument
    · cases more with
      | nil => exact absurd (List.cons.inj hright).1.symm hne
      | cons x more =>
        obtain ⟨rfl, -⟩ := List.cons.inj hright
        exact ⟨more, arguments, final, by rw [hleft], harguments, hnot, hfinal⟩

/-- What is left of a text is made up of what is left of its parts before and after a barrier. -/
theorem Stripped.append (hc : IsBarrier isArgument isFinal c) (hs : Stripped isArgument isFinal s t)
    (hrest : Stripped isArgument isFinal (c :: rest) u) :
    Stripped isArgument isFinal (s ++ c :: rest) (t ++ u) := by
  induction hs with
  | nil => exact hrest
  | sequence hbegins _ ih => exact .sequence (hbegins.append _) ih
  | keep hnone _ ih =>
    refine .keep (fun after h => ?_) ih
    obtain ⟨before, hbefore⟩ := hc.beginsWithSequence h
    exact hnone before hbefore

theorem stripWith_append_cons (hc : IsBarrier isArgument isFinal c) (s rest : List Char) :
    stripWith isArgument isFinal (s ++ c :: rest) =
      stripWith isArgument isFinal s ++ stripWith isArgument isFinal (c :: rest) :=
  stripWith_eq_iff.2 (.append hc (stripped_stripWith s) (stripped_stripWith _))

/-! ### Paint -/

/-- The sequences of the styles are among those that are taken out, and hold no other. -/
structure TakesStyles (isArgument isFinal : Char → Bool) : Prop where
  /-- Digits are arguments. -/
  digit : ∀ c, c.isDigit = true → isArgument c = true
  /-- The letter of the styles is none. -/
  letter : isArgument 'm' = false
  /-- It ends a sequence. -/
  final : isFinal 'm' = true
  /-- No sequence begins inside another. -/
  escape : IsBarrier isArgument isFinal escape

theorem takesStyles_strip : TakesStyles Ansi.isArgument Char.isAlpha where
  digit c h := by simp [Ansi.isArgument, h]
  letter := by decide
  final := by decide
  escape := ⟨by decide, by decide, by decide⟩

theorem toList_sequence (argument : String) :
    (sequence argument).toList = escape :: '[' :: (argument.toList ++ ['m']) := by
  simp [sequence, escape]

/-- A sequence with a number at the head of a text goes. -/
theorem TakesStyles.stripWith_sequence_append (h : TakesStyles isArgument isFinal)
    (argument : String) (hargument : argument.toList.all Char.isDigit = true) (rest : List Char) :
    stripWith isArgument isFinal ((sequence argument).toList ++ rest) =
      stripWith isArgument isFinal rest := by
  refine stripWith_of_afterSequence? (afterSequence?_eq_some_iff.2 ?_)
  refine ⟨argument.toList, 'm', ?_, ?_, h.letter, h.final⟩
  · simp [toList_sequence]
  · intro a ha
    exact h.digit a (List.all_eq_true.1 hargument a ha)

/-- What a style starts with goes, also if it is nothing. -/
theorem TakesStyles.stripWith_start_append (h : TakesStyles isArgument isFinal) (style : Style)
    (rest : List Char) :
    stripWith isArgument isFinal (style.start.toList ++ rest) =
      stripWith isArgument isFinal rest := by
  have hcolour : ∀ (colour : Colour) (rest : List Char),
      stripWith isArgument isFinal ((sequence colour.code).toList ++ rest) =
        stripWith isArgument isFinal rest :=
    fun colour rest => h.stripWith_sequence_append colour.code (by cases colour <;> decide) rest
  have hbold := h.stripWith_sequence_append "1" (by decide) rest
  obtain ⟨colour, bold⟩ := style
  cases colour <;> cases bold <;> simp [Style.start, hcolour, hbold]

/-- A text loses its paint with its sequences. -/
theorem TakesStyles.stripWith_painter (h : TakesStyles isArgument isFinal) (coloured : Bool)
    (style : Style) (text : String) :
    stripWith isArgument isFinal (painter coloured style text).toList =
      stripWith isArgument isFinal text.toList := by
  cases coloured with
  | false => rfl
  | true =>
    have hreset : stripWith isArgument isFinal (sequence "0").toList = [] := by
      have := h.stripWith_sequence_append "0" (by decide) []
      rwa [List.append_nil, stripWith_nil] at this
    rw [painter, if_pos rfl, Style.paint, String.toList_append, String.toList_append,
      List.append_assoc, h.stripWith_start_append]
    -- the reset begins with a barrier, so it completes nothing that the text leaves open
    rw [toList_sequence] at hreset ⊢
    rw [stripWith_append_cons h.escape, hreset, List.append_nil]

theorem strip_of_clear {text : String} (h : escape ∉ text.toList) : strip text = text := by
  rw [strip, stripWith_of_clear h, String.ofList_toList]

/-- A text without escape characters comes out of its paint as it was. -/
theorem strip_painter {text : String} (h : escape ∉ text.toList) (coloured : Bool) (style : Style) :
    strip (painter coloured style text) = text := by
  rw [strip, takesStyles_strip.stripWith_painter, stripWith_of_clear h, String.ofList_toList]

end CrudPlan.Ansi
