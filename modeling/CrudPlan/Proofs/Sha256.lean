import CrudPlan.Sha256
import CrudPlan.Text.Quoted
import Mathlib.Algebra.Group.Nat.Defs

/-!
# Digests and the texts they are of

* `Sha256.hexWord_eq_hexDigits`: a word is written in eight digits of base sixteen;
* `Sha256.hexDigest_inj`: writing a hash out loses nothing of it;
* `Sha256.Collide`: two messages with one hash. Texts that differ share a digest only if their bytes
  are such messages (`Sha256.hexDigest_eq_iff`), since a text can be told from its bytes.
-/

namespace CrudPlan

/-! ### Digits of base sixteen -/

namespace Text

theorem length_hexDigits (width n : Nat) : (hexDigits width n).length = width := by
  induction width generalizing n with
  | zero => rfl
  | succ width ih => rw [hexDigits, List.length_append, ih, List.length_singleton]

theorem mod_eq_of_hexDigit_eq {m n : Nat} (h : hexDigit m = hexDigit n) : m % 16 = n % 16 := by
  have hdigits : ∀ i < 16, ∀ j < 16, Nat.digitChar i = Nat.digitChar j → i = j := by decide
  exact hdigits _ (Nat.mod_lt m (by decide)) _ (Nat.mod_lt n (by decide)) h

/-- Numbers that fit the width are told apart by their digits. -/
theorem eq_of_hexDigits_eq {width m n : Nat} (hm : m < 16 ^ width) (hn : n < 16 ^ width)
    (h : hexDigits width m = hexDigits width n) : m = n := by
  induction width generalizing m n with
  | zero => omega
  | succ width ih =>
    obtain ⟨hinit, hlast⟩ := List.append_inj h (by rw [length_hexDigits, length_hexDigits])
    have hquot : m / 16 = n / 16 := ih (by omega) (by omega) hinit
    have hrem : m % 16 = n % 16 := mod_eq_of_hexDigit_eq (List.cons.inj hlast).1
    omega

end Text

namespace Sha256

/-! ### Words and hashes in digits -/

/-- Zeros in front fill the digits of a number up to the width. -/
theorem replicate_append_toDigits (width n : Nat) (h : n < 16 ^ (width + 1)) :
    List.replicate (width + 1 - (Nat.toDigits 16 n).length) '0' ++ Nat.toDigits 16 n =
      Text.hexDigits (width + 1) n := by
  induction width generalizing n with
  | zero =>
    have hn : n < 16 := by omega
    simp [Nat.toDigits_of_lt_base hn, Text.hexDigits, Text.hexDigit, Nat.mod_eq_of_lt hn]
  | succ width ih =>
    rw [Text.hexDigits, ← ih (n / 16) (by omega)]
    rcases Nat.lt_or_ge n 16 with hn | hn
    · rw [Nat.toDigits_of_lt_base hn, Nat.div_eq_of_lt hn, Text.hexDigit, Nat.mod_eq_of_lt hn]
      simp [List.replicate_succ']
    · rw [Nat.toDigits_of_base_le (by decide) hn, List.length_append, List.length_singleton,
        Nat.add_sub_add_right, Text.hexDigit, List.append_assoc]

/-- **A word is written in eight digits.** -/
theorem hexWord_eq_hexDigits (w : UInt32) : hexWord w = Text.hexDigits 8 w.toNat :=
  replicate_append_toDigits 7 w.toNat w.toNat_lt

theorem hexWord_injective : Function.Injective hexWord := by
  intro v w h
  rw [hexWord_eq_hexDigits, hexWord_eq_hexDigits] at h
  exact UInt32.toNat_inj.1 (Text.eq_of_hexDigits_eq v.toNat_lt w.toNat_lt h)

theorem eq_of_flatMap_hexWord_eq {vs ws : List UInt32} (hlength : vs.length = ws.length)
    (h : vs.flatMap hexWord = ws.flatMap hexWord) : vs = ws := by
  induction vs generalizing ws with
  | nil => exact (List.length_eq_zero_iff.1 hlength.symm).symm
  | cons v vs ih =>
    cases ws with
    | nil => cases hlength
    | cons w ws =>
      have hwidth : (hexWord v).length = (hexWord w).length := by
        rw [hexWord_eq_hexDigits, hexWord_eq_hexDigits, Text.length_hexDigits,
          Text.length_hexDigits]
      obtain ⟨hword, hrest⟩ := List.append_inj h hwidth
      rw [hexWord_injective hword, ih (Nat.succ.inj hlength) hrest]

theorem State.words_injective : Function.Injective State.words := by
  rintro ⟨⟩ ⟨⟩ h
  simpa [words] using h

/-- **The digits of a hash tell the hash.** -/
theorem hexDigest_inj {a b : List UInt8} : hexDigest a = hexDigest b ↔ hash a = hash b := by
  constructor
  · intro h
    exact State.words_injective (eq_of_flatMap_hexWord_eq rfl (String.ofList_inj.1 h))
  · intro h
    rw [hexDigest, hexDigest, h]

/-! ### Bytes of texts -/

theorem toList_loop (bytes : ByteArray) (i : Nat) (seen : List UInt8) :
    ByteArray.toList.loop bytes i seen = seen.reverse ++ bytes.data.toList.drop i := by
  induction i, seen using ByteArray.toList.loop.induct bytes with
  | case1 i seen hlt ih =>
    have hi : i < bytes.data.toList.length := hlt
    have hget : bytes.get! i = bytes.data.toList[i] := getElem!_pos bytes.data i hlt
    rw [ByteArray.toList.loop, if_pos hlt, ih, List.drop_eq_getElem_cons hi, hget,
      List.reverse_cons, List.append_assoc, List.singleton_append]
  | case2 i seen hge =>
    have hi : bytes.data.toList.length ≤ i := Nat.not_lt.1 hge
    rw [ByteArray.toList.loop, if_neg hge, List.drop_eq_nil_of_le hi, List.append_nil]

theorem toList_eq (bytes : ByteArray) : bytes.toList = bytes.data.toList := by
  rw [ByteArray.toList, toList_loop, List.reverse_nil, List.nil_append, List.drop_zero]

theorem toList_toUTF8_inj {s t : String} : s.toUTF8.toList = t.toUTF8.toList ↔ s = t := by
  rw [toList_eq, toList_eq, Array.toList_inj, ← ByteArray.ext_iff, String.toUTF8_eq_toByteArray,
    String.toUTF8_eq_toByteArray, String.toByteArray_inj]

/-! ### Collisions -/

/-- Two messages with one hash. -/
def Collide (a b : List UInt8) : Prop := a ≠ b ∧ hash a = hash b

/-- **Texts share a digest if they are equal or their bytes collide**, and only then. -/
theorem hexDigest_eq_iff {s t : String} :
    hexDigest s.toUTF8.toList = hexDigest t.toUTF8.toList ↔
      s = t ∨ Collide s.toUTF8.toList t.toUTF8.toList := by
  rw [hexDigest_inj]
  constructor
  · intro h
    by_cases hst : s = t
    · exact .inl hst
    · exact .inr ⟨mt toList_toUTF8_inj.1 hst, h⟩
  · rintro (rfl | hcollide)
    · rfl
    · exact hcollide.2

end Sha256

end CrudPlan
