import CrudPlan.Proofs.Text.Ansi
import CrudPlan.Report.Block

/-!
# Colour as decoration

A report with colour says what the report without says: both leave the same text once the sequences
that set a style are taken out. The names, templates and messages in a report may hold such
sequences themselves, whole or cut off, right beside the paint. They go or stay in both reports
alike, since neither the paint nor what stands between two pieces of a report completes them.

* `Ansi.unstyled` takes the sequences that set a style out of a text;
* `Ansi.unstyled_painter`: paint leaves nothing behind;
* `Ansi.Separates.unstyled_intercalate`: pieces with a separator between them lose their sequences
  each by itself;
* `Report.unstyled_plan`, `Report.unstyled_failure`, `Report.unstyled_batch` and
  `Report.unstyled_counts` follow the reports piece by piece, and `Report.unstyled_coloured` puts
  them together.
-/

namespace CrudPlan

namespace Ansi

/-! ### Sequences that set a style -/

/-- A character that may stand before the letter of a sequence that sets a style. -/
def isStyleArgument (c : Char) : Bool := c.isDigit || c == ';'

/-- The letter at the end of a sequence that sets a style. -/
def isStyleLetter (c : Char) : Bool := c == 'm'

/-- A text without the sequences that set a style. -/
def unstyled (text : String) : String :=
  String.ofList (stripWith isStyleArgument isStyleLetter text.toList)

theorem takesStyles_unstyled : TakesStyles isStyleArgument isStyleLetter where
  digit c h := by simp [isStyleArgument, h]
  letter := by decide
  final := by decide
  escape := ⟨by decide, by decide, by decide⟩

theorem toList_unstyled (text : String) :
    (unstyled text).toList = stripWith isStyleArgument isStyleLetter text.toList := by
  rw [unstyled, String.toList_ofList]

/-- Paint leaves nothing behind. -/
theorem unstyled_painter (coloured : Bool) (style : Style) (text : String) :
    unstyled (painter coloured style text) = unstyled text := by
  rw [unstyled, unstyled, takesStyles_unstyled.stripWith_painter]

/-- The reset after a text does not complete a sequence that the text leaves open. -/
example : unstyled (painter true { bold := true } "a\x1b[3") = "a\x1b[3" := by cbv

/-! ### Pieces of a text -/

theorem unstyled_empty : unstyled "" = "" := by
  rw [unstyled, String.toList_empty, stripWith_nil, String.ofList_nil]

theorem unstyled_append_of_clear {s : String} (h : escape ∉ s.toList) (t : String) :
    unstyled (s ++ t) = s ++ unstyled t := by
  rw [← String.toList_inj, toList_unstyled, String.toList_append, stripWith_append_of_clear h,
    String.toList_append, toList_unstyled]

/-- A text between two pieces that completes no sequence of the first and begins none of its own. -/
structure Separates (separator : String) : Prop where
  /-- It begins with a barrier. -/
  barrier : ∃ c rest, separator.toList = c :: rest ∧ IsBarrier isStyleArgument isStyleLetter c
  /-- It has no escape characters. -/
  clear : escape ∉ separator.toList

/-- The pieces before and after a separator lose their sequences each by itself. -/
theorem Separates.unstyled_append {separator : String} (h : Separates separator) (s t : String) :
    unstyled (s ++ separator ++ t) = unstyled s ++ separator ++ unstyled t := by
  obtain ⟨c, rest, hseparator, hc⟩ := h.barrier
  have hcut : stripWith isStyleArgument isStyleLetter
      (s.toList ++ (separator.toList ++ t.toList)) =
        stripWith isStyleArgument isStyleLetter s.toList ++
          stripWith isStyleArgument isStyleLetter (separator.toList ++ t.toList) := by
    rw [hseparator, List.cons_append, stripWith_append_cons hc]
  rw [← String.toList_inj, toList_unstyled]
  simp only [String.toList_append, List.append_assoc]
  rw [hcut, stripWith_append_of_clear h.clear, toList_unstyled, toList_unstyled]

theorem Separates.unstyled_append_self {separator : String} (h : Separates separator) (s : String) :
    unstyled (s ++ separator) = unstyled s ++ separator := by
  have := h.unstyled_append s ""
  rwa [unstyled_empty, String.append_empty, String.append_empty] at this

/-- Pieces with a separator between each two lose their sequences each by itself. -/
theorem Separates.unstyled_intercalate {separator : String} (h : Separates separator)
    (pieces : List String) :
    unstyled (separator.intercalate pieces) = separator.intercalate (pieces.map unstyled) := by
  induction pieces with
  | nil => rw [List.map_nil, String.intercalate_nil, unstyled_empty]
  | cons piece rest ih =>
    cases rest with
    | nil => rw [List.map_singleton, String.intercalate_singleton, String.intercalate_singleton]
    | cons next rest =>
      rw [List.map_cons, List.map_cons] at *
      rw [String.intercalate_cons_cons, String.intercalate_cons_cons, h.unstyled_append, ih]

theorem separates_lineBreak : Separates "\n" where
  barrier := ⟨'\n', [], by decide, by decide, by decide, by decide⟩
  clear := by decide

theorem separates_blankLine : Separates "\n\n" where
  barrier := ⟨'\n', ['\n'], by decide, by decide, by decide, by decide⟩
  clear := by decide

theorem separates_comma : Separates ", " where
  barrier := ⟨',', [' '], by decide, by decide, by decide, by decide⟩
  clear := by decide

theorem separates_stop : Separates "." where
  barrier := ⟨'.', [], by decide, by decide, by decide, by decide⟩
  clear := by decide

end Ansi

namespace Report

open Ansi

/-! ### Reports -/

theorem unstyled_lines (xs : List String) : unstyled (lines xs) = lines (xs.map unstyled) :=
  separates_lineBreak.unstyled_intercalate xs

theorem unstyled_plan (coloured : Bool) (p : Plan) :
    unstyled (plan coloured p) = unstyled (plan false p) := by
  simp only [plan, unstyled_lines, List.map_append, List.map_cons, List.map_nil, List.map_map,
    Function.comp_def, unstyled_painter]

theorem unstyled_failure (coloured : Bool) (f : Failure) :
    unstyled (failure coloured f) = unstyled (failure false f) := by
  simp only [failure, unstyled_lines, List.map_cons, List.map_map, Function.comp_def,
    unstyled_painter]

theorem unstyled_skipped (coloured : Bool) (name : String) :
    unstyled (skipped coloured name) = unstyled (skipped false name) := by
  rw [skipped, skipped, unstyled_painter, unstyled_painter]

theorem map_unstyled_blocks (coloured : Bool) (r : BatchResult) :
    (blocks coloured r).map unstyled = (blocks false r).map unstyled := by
  simp only [blocks, List.map_append, List.map_map, Function.comp_def]
  simp only [unstyled_plan coloured, unstyled_failure coloured, unstyled_skipped coloured]

/-- A batch with colour has as many blocks as one without, with the same text in each. -/
theorem unstyled_batch (coloured : Bool) (r : BatchResult) :
    unstyled (batch coloured r) = unstyled (batch false r) := by
  have hblocks := map_unstyled_blocks coloured r
  unfold batch
  cases hcoloured : blocks coloured r with
  | nil =>
    rw [hcoloured, List.map_nil, eq_comm, List.map_eq_nil_iff] at hblocks
    rw [hblocks]
  | cons block rest =>
    rw [hcoloured] at hblocks
    cases hplain : blocks false r with
    | nil => rw [hplain] at hblocks; cases hblocks
    | cons plain others =>
      rw [hplain] at hblocks
      change unstyled ("\n\n".intercalate (block :: rest)) =
        unstyled ("\n\n".intercalate (plain :: others))
      rw [separates_blankLine.unstyled_intercalate, separates_blankLine.unstyled_intercalate,
        hblocks]

theorem unstyled_count (coloured : Bool) (style : Style) (n : Int) (what : String) :
    unstyled (count coloured style n what) = unstyled (toString n ++ " " ++ what) :=
  unstyled_painter _ _ _

theorem unstyled_counts (coloured : Bool) (resolved failed skipped : Int) :
    unstyled (counts coloured resolved failed skipped) =
      unstyled (counts false resolved failed skipped) := by
  have hopening : escape ∉ "Resolve: ".toList := by decide
  simp only [counts, separates_stop.unstyled_append_self, separates_comma.unstyled_append,
    unstyled_append_of_clear hopening, unstyled_count]

/-- **Colour is decoration only.** Every report with colour leaves the text that the report without
leaves, once the sequences that set a style are taken out of both: the block of a plan or of a
failure, the report of a batch, and the line of numbers, whatever they hold. -/
theorem unstyled_coloured :
    (∀ p : Plan, unstyled (plan true p) = unstyled (plan false p)) ∧
    (∀ f : Failure, unstyled (failure true f) = unstyled (failure false f)) ∧
    (∀ r : BatchResult, unstyled (batch true r) = unstyled (batch false r)) ∧
    ∀ resolved failed skipped : Int,
      unstyled (counts true resolved failed skipped) =
        unstyled (counts false resolved failed skipped) :=
  ⟨unstyled_plan true, unstyled_failure true, unstyled_batch true, unstyled_counts true⟩

end Report

end CrudPlan
