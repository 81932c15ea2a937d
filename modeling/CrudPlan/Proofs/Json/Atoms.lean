import CrudPlan.Json.Parser
import CrudPlan.Json.Printer
import Mathlib.Data.List.Basic

/-!
# Texts and integers in JSON

What is written for a text or an integer is read as that text or integer, whatever follows it in the
document, as long as an integer is not followed by something that would continue it.

* `Json.Ends`: what follows begins with a comma or a closing bracket or brace, or is nothing;
* `Json.number?_intText`: an integer is read back. The parts of a numeral are its digits
  (`Json.takeWhile_isDigit`), no fraction and no exponent;
* `Json.unitsOf`: the sixteen-bit units that stand for a character. An escaped character is read as
  its units (`Json.quotedCodes?_escapeAscii`), and units are joined to the character
  (`Json.joinUnits?_unitsOf`), so that `Json.quotedText?_escapeAscii` reads a text back.
-/

namespace CrudPlan.Json

/-! ### Integers -/

/-- What may follow a value: nothing, a comma, or the end of a list or an object. -/
def Ends (rest : List Char) : Prop := ∀ c ∈ rest.head?, c = ',' ∨ c = ']' ∨ c = '\x7d'

theorem ends_nil : Ends [] := nofun

theorem ends_comma (rest : List Char) : Ends (',' :: rest) := by simp [Ends]

theorem ends_bracket (rest : List Char) : Ends (']' :: rest) := by simp [Ends]

theorem ends_brace (rest : List Char) : Ends ('\x7d' :: rest) := by simp [Ends]

/-- The decimal digits of a number. -/
def digits (n : Nat) : List Char := Nat.toDigits 10 n

theorem isDigit_of_mem_digits {n : Nat} {c : Char} (h : c ∈ digits n) : c.isDigit = true :=
  Nat.isDigit_of_mem_toDigits (by decide) (by decide) h

theorem digits_ne_nil (n : Nat) : digits n ≠ [] := Nat.toDigits_ne_nil

theorem digitsValue_digits (n : Nat) : Numeral.digitsValue (digits n) = n := by
  rw [Numeral.digitsValue, ← Nat.ofDigitChars_eq_foldl]
  exact Nat.ofDigitChars_ten_toDigits

/-- There are no needless zeros at the head of a number. -/
theorem head?_digits {n : Nat} (h : (digits n).head? = some '0') : n = 0 := by
  induction n using Nat.strongRecOn with
  | ind n ih =>
    rcases Nat.lt_or_ge n 10 with hlt | hge
    · rw [digits, Nat.toDigits_of_lt_base hlt] at h
      simpa using h
    · -- the head is that of the number without its last digit
      rw [digits, Nat.toDigits_of_base_le (by decide) hge,
        List.head?_append_of_ne_nil _ Nat.toDigits_ne_nil] at h
      have := ih (n / 10) (by omega) h
      omega

theorem intText_ofNat (n : Nat) : intText n = digits n := by
  rw [intText, Int.toString_eq_repr]
  exact Nat.toList_repr

theorem intText_neg (n : Nat) : intText (-(n + 1 : Nat)) = '-' :: digits (n + 1) := by
  rw [intText, Int.toString_eq_repr]
  change ("-" ++ Nat.repr (n + 1)).toList = _
  rw [String.toList_append, Nat.toList_repr]
  rfl

theorem not_isDigit_of_ends {c : Char} {rest : List Char} (h : Ends (c :: rest)) :
    c.isDigit = false := by
  rcases h c rfl with rfl | rfl | rfl <;> decide

theorem takeWhile_isDigit {n : Nat} {rest : List Char} (h : Ends rest) :
    (digits n ++ rest).takeWhile Char.isDigit = digits n := by
  rw [List.takeWhile_append_of_pos fun c => isDigit_of_mem_digits]
  cases rest with
  | nil => simp
  | cons c rest => simp [not_isDigit_of_ends h]

theorem dropWhile_isDigit {n : Nat} {rest : List Char} (h : Ends rest) :
    (digits n ++ rest).dropWhile Char.isDigit = rest := by
  rw [List.dropWhile_append_of_pos fun c => isDigit_of_mem_digits]
  cases rest with
  | nil => simp
  | cons c rest => simp [not_isDigit_of_ends h]

theorem fraction?_of_ends {rest : List Char} (h : Ends rest) :
    fraction? rest = some ([], rest) := by
  cases rest with
  | nil => rfl
  | cons c rest => rcases h c rfl with rfl | rfl | rfl <;> rfl

theorem exponent?_of_ends {rest : List Char} (h : Ends rest) :
    exponent? rest = some (none, rest) := by
  cases rest with
  | nil => rfl
  | cons c rest => rcases h c rfl with rfl | rfl | rfl <;> rfl

theorem unsigned?_digits (negative : Bool) (n : Nat) {rest : List Char} (h : Ends rest) :
    unsigned? negative (digits n ++ rest) =
      some (.int (if negative then -(n : Int) else n), rest) := by
  have hzero : ¬ ((digits n).isEmpty ∨ ((digits n).head? = some '0' ∧ (digits n).length ≠ 1)) := by
    rw [List.isEmpty_iff, not_or]
    refine ⟨digits_ne_nil n, ?_⟩
    rintro ⟨hhead, hlength⟩
    obtain rfl := head?_digits hhead
    exact hlength rfl
  simp only [unsigned?, takeWhile_isDigit h, dropWhile_isDigit h, if_neg hzero,
    fraction?_of_ends h, exponent?_of_ends h, Option.bind_eq_bind, Option.bind_some, ofDigits,
    List.append_nil, digitsValue_digits]
  rfl

/-- **An integer is read back**, if what follows does not continue it. -/
theorem number?_intText (n : Int) {rest : List Char} (h : Ends rest) :
    number? (intText n ++ rest) = some (.int n, rest) := by
  cases n with
  | ofNat n =>
    rw [Int.ofNat_eq_natCast, intText_ofNat, number?, unsigned?_digits false n h]
    · rfl
    · -- the first character is a digit, not a sign
      rintro digits' hdigits
      have hmem : '-' ∈ digits n := by
        cases hn : digits n with
        | nil => exact absurd hn (digits_ne_nil n)
        | cons c cs =>
          rw [hn, List.cons_append, List.cons.injEq] at hdigits
          simp [hdigits.1]
      exact absurd (isDigit_of_mem_digits hmem) (by decide)
  | negSucc n =>
    rw [Int.negSucc_eq, ← Int.natCast_succ, intText_neg, List.cons_append, number?,
      unsigned?_digits true (n + 1) h]
    rfl

/-! ### Texts -/

theorem hexValue?_hexDigit (n : Nat) : hexValue? (Text.hexDigit n) = some (n % 16) := by
  have hdigit : ∀ d < 16, hexValue? (Nat.digitChar d) = some d := by decide
  exact hdigit _ (Nat.mod_lt _ (by decide))

/-- Four digits stand for a unit. -/
theorem exists_hexDigits (n : Nat) (h : n < 0x10000) :
    ∃ a b c d, Text.hexDigits 4 n = [a, b, c, d] ∧ hexUnit? a b c d = some n := by
  refine ⟨_, _, _, _, rfl, ?_⟩
  simp only [hexUnit?, hexValue?_hexDigit, Option.bind_eq_bind, Option.bind_some]
  exact congrArg some (by omega)

theorem quotedCodes?_unitEscape {n : Nat} (h : n < 0x10000) (s : List Char) :
    quotedCodes? (unitEscape n ++ s) =
      (quotedCodes? s).map fun (codes, after) => (n :: codes, after) := by
  obtain ⟨a, b, c, d, hdigits, hunit⟩ := exists_hexDigits n h
  rw [unitEscape, hdigits]
  simp only [List.cons_append, List.nil_append, quotedCodes?, hunit, Option.bind_eq_bind,
    Option.bind_some]
  cases quotedCodes? s <;> rfl

theorem quotedCodes?_shortEscape {c letter : Char} (h : shortEscape? c = some letter)
    (s : List Char) :
    quotedCodes? ('\\' :: letter :: s) =
      (quotedCodes? s).map fun (codes, after) => (c.toNat :: codes, after) := by
  have hcode : escapedCode? letter = some c.toNat ∧ letter ≠ 'u' := by
    rw [shortEscape?] at h
    split_ifs at h <;> cases h <;> subst c <;> exact ⟨rfl, by decide⟩
  rw [quotedCodes?]
  · simp only [hcode.1, Option.bind_eq_bind, Option.bind_some]
    cases quotedCodes? s <;> rfl
  · rintro a b c d rest ⟨⟩
    exact absurd rfl hcode.2

/-- The code point of a character is no surrogate. -/
theorem toNat_scalar (c : Char) :
    c.toNat < 0xd800 ∨ (0xdfff < c.toNat ∧ c.toNat < 0x110000) :=
  c.valid

/-- The sixteen-bit units that stand for a character: itself, or two surrogates. -/
def unitsOf (c : Char) : List Nat :=
  let n := c.toNat
  if n < 0x10000 then [n]
  else [0xd800 + (n - 0x10000) / 0x400, 0xdc00 + (n - 0x10000) % 0x400]

/-- **An escaped character is read as its units.** -/
theorem quotedCodes?_escapeAscii (c : Char) (s : List Char) :
    quotedCodes? (escapeAscii c ++ s) =
      (quotedCodes? s).map fun (codes, after) => (unitsOf c ++ codes, after) := by
  have hscalar := toNat_scalar c
  rw [escapeAscii, unitsOf]
  cases hshort : shortEscape? c with
  | some letter =>
    have hsmall : c.toNat < 0x10000 := by
      rw [shortEscape?] at hshort
      split_ifs at hshort <;> subst c <;> decide
    rw [if_pos hsmall]
    exact quotedCodes?_shortEscape hshort s
  | none =>
    simp only
    split_ifs with hprintable hsmall hsmall
    · -- a character that stands for itself is no quote, no backslash and no control
      have hquote : c ≠ '"' := by
        rintro rfl
        cases hshort
      have hbackslash : c ≠ '\\' := by
        rintro rfl
        cases hshort
      rw [List.singleton_append, quotedCodes?]
      · rw [if_neg (by omega)]
        rfl
      · exact fun h => hquote h
      · intro a b c' d rest h
        exact absurd h hbackslash
      · intro letter rest h
        exact absurd h hbackslash
    · omega
    · exact quotedCodes?_unitEscape hsmall s
    · rw [List.append_assoc, quotedCodes?_unitEscape (by omega), quotedCodes?_unitEscape (by omega),
        Option.map_map]
      rfl

theorem quotedCodes?_flatMap_escapeAscii (cs rest : List Char) :
    quotedCodes? (cs.flatMap escapeAscii ++ '"' :: rest) = some (cs.flatMap unitsOf, rest) := by
  induction cs with
  | nil => rfl
  | cons c cs ih =>
    rw [List.flatMap_cons, List.append_assoc, quotedCodes?_escapeAscii, ih]
    rfl

theorem joinUnits?_singleton {n : Nat} (h : n.isValidChar) :
    joinUnits? [n] = some [Char.ofNatAux n h] :=
  dif_pos h

/-- Two units are joined if they are surrogates. -/
theorem joinUnits?_cons_cons (high low : Nat) (rest : List Nat) :
    joinUnits? (high :: low :: rest) =
      if 0xd800 ≤ high ∧ high < 0xdc00 ∧ 0xdc00 ≤ low ∧ low < 0xe000 then
        (joinUnits? rest).map
          (Char.ofNat (0x10000 + 0x400 * (high - 0xd800) + (low - 0xdc00)) :: ·)
      else if h : high.isValidChar then (joinUnits? (low :: rest)).map (Char.ofNatAux high h :: ·)
      else none :=
  rfl

/-- **The units of a character are joined to it.** -/
theorem joinUnits?_unitsOf (c : Char) (codes : List Nat) :
    joinUnits? (unitsOf c ++ codes) = (joinUnits? codes).map (c :: ·) := by
  have hscalar := toNat_scalar c
  have hvalid : c.toNat.isValidChar := c.valid
  rw [unitsOf]
  split
  · -- a single unit is the code point of the character itself
    have hnone : ¬ (0xd800 ≤ c.toNat ∧ c.toNat < 0xdc00) := by omega
    cases codes with
    | nil => exact joinUnits?_singleton hvalid
    | cons low rest =>
      rw [List.singleton_append, joinUnits?_cons_cons, if_neg fun h => hnone ⟨h.1, h.2.1⟩,
        dif_pos hvalid]
      rfl
  · have hjoined : 0x10000 + 0x400 * (0xd800 + (c.toNat - 0x10000) / 0x400 - 0xd800) +
        (0xdc00 + (c.toNat - 0x10000) % 0x400 - 0xdc00) = c.toNat := by
      omega
    rw [List.cons_append, List.singleton_append, joinUnits?_cons_cons, if_pos (by omega), hjoined,
      Char.ofNat_toNat]

theorem joinUnits?_flatMap_unitsOf (cs : List Char) :
    joinUnits? (cs.flatMap unitsOf) = some cs := by
  induction cs with
  | nil => rfl
  | cons c cs ih =>
    rw [List.flatMap_cons, joinUnits?_unitsOf, ih]
    rfl

/-- **A text is read back**, up to the quote that ends it. -/
theorem quotedText?_escapeAscii (s : String) (rest : List Char) :
    quotedText? (s.toList.flatMap escapeAscii ++ '"' :: rest) = some (s, rest) := by
  simp only [quotedText?, quotedCodes?_flatMap_escapeAscii, joinUnits?_flatMap_unitsOf,
    Option.bind_eq_bind, Option.bind_some, String.ofList_toList]
  rfl

end CrudPlan.Json
