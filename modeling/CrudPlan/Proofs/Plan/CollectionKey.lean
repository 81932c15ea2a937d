import Mathlib.Tactic.SplitIfs
import CrudPlan.Descriptor.Document
import CrudPlan.Plan.CollectionKey

/-!
# Resources that share a collection key

Nothing keeps two resources from having one key for their collections. The plural hides little of a
name, though: the names of two such resources differ at their ends, in one of two ways.

* `IsPlural` is the plural of a word, rule by rule; `plural_eq_iff`: it is what is computed;
* `IsPlural.sharesPlural`: two words with one plural are equal, or differ in an `e` after a sibilant
  or in `y` and `ie` after a consonant (`SharesPlural`);
* `KeyClash` says the same of names, which begin with a capital letter where their keys do not;
* `collectionKey_eq_iff` puts these together, and says what every key looks like.
-/

namespace CrudPlan

variable {word u v w key : List Char} {c : Char} {a b : String}

/-! ### Endings of words -/

/-- The endings after which `es` is appended. -/
def sibilants : List String := ["s", "x", "z", "ch", "sh"]

/-- The word has one of the endings after which `es` is appended. -/
def EndsInSibilant (word : List Char) : Prop := ∃ s ∈ sibilants, s.toList <:+ word

/-- The word has a last character, which is no small vowel. -/
def EndsInConsonant (word : List Char) : Prop := ∃ c, word.getLast? = some c ∧ isVowel c = false

theorem EndsInConsonant.ne_nil (h : EndsInConsonant word) : word ≠ [] := by
  rintro rfl
  obtain ⟨c, hc, -⟩ := h
  cases hc

theorem endsInSibilant_iff_reverse :
    EndsInSibilant word ↔ ['s'] <+: word.reverse ∨ ['x'] <+: word.reverse ∨
      ['z'] <+: word.reverse ∨ ['h', 'c'] <+: word.reverse ∨ ['h', 's'] <+: word.reverse := by
  simp [EndsInSibilant, sibilants, ← List.reverse_prefix]

/-- The last letter of a sibilant is one of four. -/
theorem not_endsInSibilant_append (h : c ∉ ['s', 'x', 'z', 'h']) (word : List Char) :
    ¬ EndsInSibilant (word ++ [c]) := by
  simp only [List.mem_cons, List.not_mem_nil, or_false, not_or] at h
  obtain ⟨hs, hx, hz, hh⟩ := h
  rw [endsInSibilant_iff_reverse, List.reverse_append, List.reverse_singleton,
    List.singleton_append]
  simp only [List.cons_prefix_cons, Ne.symm hs, Ne.symm hx, Ne.symm hz, Ne.symm hh, false_and,
    or_self, not_false_iff]

theorem ending_of_clear (h : '\n' ∉ word) : ending word = word.reverse := by
  unfold ending
  split
  · next rest heq =>
    have hmem : '\n' ∈ word.reverse := by rw [heq]; exact List.mem_cons_self
    exact absurd (List.mem_reverse.1 hmem) h
  · rfl

theorem endsInSibilant_iff (h : '\n' ∉ word) :
    endsInSibilant word = true ↔ EndsInSibilant word := by
  rw [endsInSibilant_iff_reverse, endsInSibilant, ending_of_clear h]
  generalize word.reverse = r
  constructor
  · intro hr
    split at hr <;> simp at hr ⊢
  · rintro (⟨rest, rfl⟩ | ⟨rest, rfl⟩ | ⟨rest, rfl⟩ | ⟨rest, rfl⟩ | ⟨rest, rfl⟩) <;> rfl

theorem endsInConsonantY_iff (h : '\n' ∉ word) :
    endsInConsonantY word = true ↔ ∃ w, EndsInConsonant w ∧ word = w ++ ['y'] := by
  rw [endsInConsonantY, ending_of_clear h]
  constructor
  · intro hy
    split at hy
    · next c rest heq =>
      have hword : word = rest.reverse ++ [c] ++ ['y'] := by
        rw [← List.reverse_reverse word, heq]
        simp
      refine ⟨rest.reverse ++ [c], ⟨c, by simp, ?_⟩, hword⟩
      rwa [Bool.not_eq_true'] at hy
    · cases hy
  · rintro ⟨w, ⟨c, hlast, hc⟩, rfl⟩
    obtain ⟨front, rfl⟩ := List.getLast?_eq_some_iff.1 hlast
    simp [hc]

/-! ### Plurals -/

/-- A word and its plural, rule by rule. -/
inductive IsPlural : List Char → List Char → Prop
  /-- A `y` after a consonant becomes `ies`. -/
  | ies {w : List Char} : EndsInConsonant w → IsPlural (w ++ ['y']) (w ++ ['i', 'e', 's'])
  /-- A sibilant takes `es`. -/
  | es {word : List Char} : EndsInSibilant word → IsPlural word (word ++ ['e', 's'])
  /-- Any other word takes `s`. -/
  | s {word : List Char} : (∀ w, EndsInConsonant w → word ≠ w ++ ['y']) →
      ¬ EndsInSibilant word → IsPlural word (word ++ ['s'])

/-- A word without line breaks has one plural, the one that is computed. -/
theorem plural_eq_iff (h : '\n' ∉ word) : plural word = key ↔ IsPlural word key := by
  constructor
  · rintro rfl
    unfold plural
    split_ifs with hy hs
    · obtain ⟨w, hw, rfl⟩ := (endsInConsonantY_iff h).1 hy
      rw [List.dropLast_concat]
      exact .ies hw
    · exact .es ((endsInSibilant_iff h).1 hs)
    · rw [endsInConsonantY_iff h] at hy
      rw [endsInSibilant_iff h] at hs
      exact .s (fun w hw heq => hy ⟨w, hw, heq⟩) hs
  · intro hplural
    cases hplural with
    | ies hw =>
      rw [plural, if_pos ((endsInConsonantY_iff h).2 ⟨_, hw, rfl⟩), List.dropLast_concat]
    | es hs =>
      -- no sibilant ends in y, so the first rule does not come before
      have hy : ¬ endsInConsonantY word = true := by
        rw [endsInConsonantY_iff h]
        rintro ⟨w, -, rfl⟩
        exact not_endsInSibilant_append (by decide) w hs
      rw [plural, if_neg hy, if_pos ((endsInSibilant_iff h).2 hs)]
    | s hy hs =>
      rw [← endsInSibilant_iff h] at hs
      have hy' : ¬ endsInConsonantY word = true := by
        rw [endsInConsonantY_iff h]
        rintro ⟨w, hw, heq⟩
        exact hy w hw heq
      rw [plural, if_neg hy', if_neg hs]

theorem IsPlural.s_append_e (word : List Char) : IsPlural (word ++ ['e']) (word ++ ['e', 's']) := by
  have hplural : IsPlural (word ++ ['e']) (word ++ ['e'] ++ ['s']) := by
    refine .s (fun w _ heq => ?_) (not_endsInSibilant_append (by decide) word)
    have hlast := congrArg List.getLast? heq
    simp at hlast
  rwa [List.append_assoc] at hplural

/-- Two different words with one plural: the second has an `e` more after a sibilant, or `ie` for
the `y` after a consonant. -/
inductive SharesPlural : List Char → List Char → Prop
  | sibilant {word : List Char} : EndsInSibilant word → SharesPlural word (word ++ ['e'])
  | consonant {w : List Char} : EndsInConsonant w → SharesPlural (w ++ ['y']) (w ++ ['i', 'e'])

/-- Words that share a plural have one. -/
theorem SharesPlural.exists_isPlural (h : SharesPlural u v) :
    ∃ key, IsPlural u key ∧ IsPlural v key := by
  cases h with
  | sibilant hs => exact ⟨_, .es hs, .s_append_e u⟩
  | @consonant w hw =>
    refine ⟨w ++ ['i', 'e', 's'], .ies hw, ?_⟩
    have hplural := IsPlural.s_append_e (w ++ ['i'])
    rwa [List.append_assoc, List.append_assoc] at hplural

/-- A plural in `ies` is that of a word in `y` or of one in `ie`. -/
theorem IsPlural.eq_or_eq_of_ies (h : IsPlural v (w ++ ['i', 'e', 's'])) :
    v = w ++ ['y'] ∨ v = w ++ ['i', 'e'] := by
  generalize hkey : w ++ ['i', 'e', 's'] = key at h
  cases h with
  | ies _ =>
    left
    rw [(List.append_left_inj ['i', 'e', 's']).1 hkey]
  | es hs =>
    -- what comes before es ends in i, which is no sibilant
    have heq : w ++ ['i'] = v := (List.append_left_inj ['e', 's']).1 (by simpa using hkey)
    rw [← heq] at hs
    exact absurd hs (not_endsInSibilant_append (by decide) w)
  | s _ _ =>
    right
    exact ((List.append_left_inj ['s']).1 (by simpa using hkey)).symm

/-- A plural in `es` after a sibilant is that of a word without the `e` or of one with it. -/
theorem IsPlural.eq_or_eq_of_es (hs : EndsInSibilant u) (h : IsPlural v (u ++ ['e', 's'])) :
    v = u ∨ v = u ++ ['e'] := by
  generalize hkey : u ++ ['e', 's'] = key at h
  cases h with
  | @ies w _ =>
    have heq : u = w ++ ['i'] := (List.append_left_inj ['e', 's']).1 (by simpa using hkey)
    rw [heq] at hs
    exact absurd hs (not_endsInSibilant_append (by decide) w)
  | es _ =>
    left
    exact ((List.append_left_inj ['e', 's']).1 hkey).symm
  | s _ _ =>
    right
    exact ((List.append_left_inj ['s']).1 (by simpa using hkey)).symm

/-- Two words with one plural are equal, or share it in one of two ways. -/
theorem IsPlural.sharesPlural (hu : IsPlural u key) (hv : IsPlural v key) :
    u = v ∨ SharesPlural u v ∨ SharesPlural v u := by
  cases hu with
  | ies hw =>
    obtain rfl | rfl := hv.eq_or_eq_of_ies
    · exact .inl rfl
    · exact .inr (.inl (.consonant hw))
  | es hs =>
    obtain rfl | rfl := hv.eq_or_eq_of_es hs
    · exact .inl rfl
    · exact .inr (.inl (.sibilant hs))
  | s hy hs =>
    have hplural := IsPlural.s hy hs
    generalize hkey : u ++ ['s'] = key at hv hplural
    cases hv with
    | ies hw =>
      obtain rfl | rfl := hplural.eq_or_eq_of_ies
      · exact .inl rfl
      · exact .inr (.inr (.consonant hw))
    | es hs' =>
      obtain rfl | rfl := hplural.eq_or_eq_of_es hs'
      · exact .inl rfl
      · exact .inr (.inr (.sibilant hs'))
    | s _ _ => exact .inl ((List.append_left_inj ['s']).1 hkey)

/-! ### Names and words -/

/-- The capital letters are those from A to Z. -/
theorem exists_eq_ofNat_of_isUpper (h : c.isUpper = true) :
    ∃ i : Fin 26, c = Char.ofNat (65 + i) := by
  have hletter : 'A'.val ≤ c.val ∧ c.val ≤ 'Z'.val := of_decide_eq_true h
  have hrange : 65 ≤ c.toNat ∧ c.toNat ≤ 90 :=
    ⟨UInt32.le_iff_toNat_le.1 hletter.1, UInt32.le_iff_toNat_le.1 hletter.2⟩
  refine ⟨⟨c.toNat - 65, by omega⟩, ?_⟩
  rw [Nat.add_sub_cancel' hrange.1, Char.ofNat_toNat]

/-- The table of small letters maps a capital letter to its small form. -/
theorem lowerChar_of_isUpper (h : c.isUpper = true) : Text.lowerChar c = [c.toLower] := by
  have hletters : ∀ i : Fin 26,
      Text.lowerChar (Char.ofNat (65 + i)) = [(Char.ofNat (65 + i)).toLower] := by decide
  obtain ⟨i, rfl⟩ := exists_eq_ofNat_of_isUpper h
  exact hletters i

theorem classes_toLower_of_isUpper (h : c.isUpper = true) :
    c.toLower.isLower = true ∧ c.toLower.isAlphanum = true := by
  have hletters : ∀ i : Fin 26, (Char.ofNat (65 + i)).toLower.isLower = true ∧
      (Char.ofNat (65 + i)).toLower.isAlphanum = true := by decide
  obtain ⟨i, rfl⟩ := exists_eq_ofNat_of_isUpper h
  exact hletters i

theorem toLower_inj {d : Char} (hc : c.isUpper = true) (hd : d.isUpper = true)
    (h : c.toLower = d.toLower) : c = d := by
  have hletters : ∀ i : Fin 26, (Char.ofNat (65 + i)).toLower = Char.ofNat (97 + i) := by decide
  have hdistinct : ∀ i j : Fin 26, Char.ofNat (97 + i) = Char.ofNat (97 + j) → i = j := by decide
  obtain ⟨i, rfl⟩ := exists_eq_ofNat_of_isUpper hc
  obtain ⟨j, rfl⟩ := exists_eq_ofNat_of_isUpper hd
  rw [hletters, hletters] at h
  rw [hdistinct i j h]

theorem uncapitalize_cons (h : c.isUpper = true) (rest : List Char) :
    uncapitalize (c :: rest) = c.toLower :: rest := by
  rw [uncapitalize, lowerChar_of_isUpper h, List.singleton_append]

/-- The text begins with a capital letter. -/
def IsCapitalized (s : List Char) : Prop := ∃ c rest, s = c :: rest ∧ c.isUpper = true

theorem uncapitalize_append (hu : u ≠ []) (v : List Char) :
    uncapitalize (u ++ v) = uncapitalize u ++ v := by
  cases u with
  | nil => exact absurd rfl hu
  | cons c rest => simp [uncapitalize]

theorem uncapitalize_inj (hu : IsCapitalized u) (hv : IsCapitalized v)
    (h : uncapitalize u = uncapitalize v) : u = v := by
  obtain ⟨c, rest, rfl, hc⟩ := hu
  obtain ⟨d, others, rfl, hd⟩ := hv
  rw [uncapitalize_cons hc, uncapitalize_cons hd, List.cons.injEq] at h
  rw [toLower_inj hc hd h.1, h.2]

/-- A name is made of the parts that it is made of with a small first letter. -/
theorem exists_eq_append_of_uncapitalize (hu : IsCapitalized u) (hw : w ≠ [])
    (h : uncapitalize u = w ++ v) :
    ∃ front, IsCapitalized front ∧ uncapitalize front = w ∧ u = front ++ v := by
  obtain ⟨c, rest, rfl, hc⟩ := hu
  cases w with
  | nil => exact absurd rfl hw
  | cons d w =>
    rw [uncapitalize_cons hc, List.cons_append, List.cons.injEq] at h
    obtain ⟨rfl, rfl⟩ := h
    exact ⟨c :: w, ⟨c, w, rfl, hc⟩, uncapitalize_cons hc w, rfl⟩

theorem isResourceName_iff :
    isResourceName a = true ↔
      ∃ c rest, a.toList = c :: rest ∧ c.isUpper = true ∧ ∀ x ∈ rest, x.isAlphanum = true := by
  unfold isResourceName
  split
  · next h => simp [h]
  · next c rest h =>
    rw [h, Bool.and_eq_true, List.all_eq_true]
    constructor
    · intro hclasses
      exact ⟨c, rest, rfl, hclasses⟩
    · rintro ⟨d, others, heq, hclasses⟩
      cases heq
      exact hclasses

theorem isCapitalized_of_isResourceName (h : isResourceName a = true) :
    IsCapitalized a.toList := by
  obtain ⟨c, rest, hname, hc, -⟩ := isResourceName_iff.1 h
  exact ⟨c, rest, hname, hc⟩

/-- A small letter, then letters and digits. -/
structure IsWord (word : List Char) : Prop where
  /-- It begins with a small letter. -/
  small : ∃ c, word.head? = some c ∧ c.isLower = true
  /-- It has letters and digits only. -/
  plain : ∀ c ∈ word, c.isAlphanum = true

theorem IsWord.lineBreak_notMem (h : IsWord word) : '\n' ∉ word := by
  intro hmem
  exact absurd (h.plain _ hmem) (by decide)

theorem isWord_uncapitalize (h : isResourceName a = true) : IsWord (uncapitalize a.toList) := by
  obtain ⟨c, rest, hname, hc, hrest⟩ := isResourceName_iff.1 h
  obtain ⟨hlower, hplain⟩ := classes_toLower_of_isUpper hc
  rw [hname, uncapitalize_cons hc]
  refine ⟨⟨c.toLower, rfl, hlower⟩, fun x hx => ?_⟩
  obtain rfl | hx := List.mem_cons.1 hx
  · exact hplain
  · exact hrest x hx

/-! ### Keys -/

/-- What a key is made of. -/
structure IsPlainKey (key : String) : Prop where
  /-- It is not empty. -/
  ne_empty : key ≠ ""
  /-- It begins with a small letter. -/
  small : ∃ c, key.toList.head? = some c ∧ c.isLower = true
  /-- It ends in `s`. -/
  plural : key.toList.getLast? = some 's'
  /-- It has letters and digits only. -/
  plain : ∀ c ∈ key.toList, c.isAlphanum = true

/-- A word whose end is replaced by another. -/
theorem IsWord.isPlainKey_append (h : IsWord (w ++ u)) (hw : w ≠ [])
    (hlast : v.getLast? = some 's') (hv : v.all Char.isAlphanum = true) :
    IsPlainKey (String.ofList (w ++ v)) := by
  obtain ⟨c, hc, hlower⟩ := h.small
  have hhead : (w ++ v).head? = some c := by
    cases w with
    | nil => exact absurd rfl hw
    | cons x w => exact hc
  refine ⟨?_, ?_, ?_, ?_⟩
  · intro hempty
    rw [String.ofList_eq_empty_iff] at hempty
    rw [hempty] at hhead
    cases hhead
  · rw [String.toList_ofList]
    exact ⟨c, hhead, hlower⟩
  · rw [String.toList_ofList, List.getLast?_append, hlast]
    rfl
  · intro x hx
    rw [String.toList_ofList] at hx
    obtain hx | hx := List.mem_append.1 hx
    · exact h.plain x (List.mem_append_left _ hx)
    · exact List.all_eq_true.1 hv x hx

theorem IsPlural.isPlainKey (h : IsPlural word key) (hword : IsWord word) :
    IsPlainKey (String.ofList key) := by
  have hne : word ≠ [] := by
    rintro rfl
    obtain ⟨c, hc, -⟩ := hword.small
    cases hc
  have hself : IsWord (word ++ []) := by rwa [List.append_nil]
  cases h with
  | ies hw => exact hword.isPlainKey_append hw.ne_nil rfl (by decide)
  | es _ => exact hself.isPlainKey_append hne rfl (by decide)
  | s _ _ => exact hself.isPlainKey_append hne rfl (by decide)

/-- Two names that differ at their ends only, in one of the ways that a plural hides. -/
inductive KeyClash (a b : String) : Prop
  /-- The second is the first with an `e` after a sibilant. -/
  | sibilant : EndsInSibilant (uncapitalize a.toList) → b = a ++ "e" → KeyClash a b
  /-- The first ends in a consonant and `y`, the second in that consonant and `ie`. -/
  | consonant (w : String) : EndsInConsonant (uncapitalize w.toList) →
      a = w ++ "y" → b = w ++ "ie" → KeyClash a b

theorem KeyClash.sharesPlural (ha : a ≠ "") (h : KeyClash a b) :
    SharesPlural (uncapitalize a.toList) (uncapitalize b.toList) := by
  cases h with
  | sibilant hs hb =>
    have hne : a.toList ≠ [] := by simpa using ha
    rw [hb, String.toList_append, uncapitalize_append hne]
    exact .sibilant hs
  | consonant w hw ha hb =>
    have hne : w.toList ≠ [] := by
      intro hempty
      rw [hempty] at hw
      exact hw.ne_nil rfl
    rw [ha, hb, String.toList_append, String.toList_append, uncapitalize_append hne,
      uncapitalize_append hne]
    exact .consonant hw

theorem SharesPlural.keyClash (ha : isResourceName a = true) (hb : isResourceName b = true)
    (h : SharesPlural (uncapitalize a.toList) (uncapitalize b.toList)) : KeyClash a b := by
  have hcapital := isCapitalized_of_isResourceName ha
  have hcapital' := isCapitalized_of_isResourceName hb
  generalize hu : uncapitalize a.toList = u at h
  generalize hv : uncapitalize b.toList = v at h
  cases h with
  | sibilant hs =>
    have hne : u ≠ [] := by
      rintro rfl
      exact absurd hs (by simp [EndsInSibilant, sibilants])
    obtain ⟨front, hfront, heq, hb⟩ := exists_eq_append_of_uncapitalize hcapital' hne hv
    have hsame := uncapitalize_inj hfront hcapital (heq.trans hu.symm)
    refine .sibilant (hu ▸ hs) ?_
    rw [← String.toList_inj, String.toList_append, hb, hsame]
    rfl
  | @consonant w hw =>
    obtain ⟨front, hfront, heq, ha⟩ := exists_eq_append_of_uncapitalize hcapital hw.ne_nil hu
    obtain ⟨front', hfront', heq', hb⟩ := exists_eq_append_of_uncapitalize hcapital' hw.ne_nil hv
    have hsame := uncapitalize_inj hfront' hfront (heq'.trans heq.symm)
    refine .consonant (String.ofList front) ?_ ?_ ?_
    · rwa [String.toList_ofList, heq]
    · rw [← String.toList_inj, String.toList_append, String.toList_ofList, ha]
      rfl
    · rw [← String.toList_inj, String.toList_append, String.toList_ofList, hb, hsame]
      rfl

theorem collectionKey_inj :
    collectionKey a = collectionKey b ↔
      plural (uncapitalize a.toList) = plural (uncapitalize b.toList) := by
  rw [collectionKey, collectionKey, String.ofList_inj]

theorem isPlural_of_isResourceName (h : isResourceName a = true) :
    IsPlural (uncapitalize a.toList) (plural (uncapitalize a.toList)) :=
  (plural_eq_iff (isWord_uncapitalize h).lineBreak_notMem).1 rfl

theorem KeyClash.collectionKey_eq (ha : isResourceName a = true) (hb : isResourceName b = true)
    (h : KeyClash a b) : collectionKey a = collectionKey b := by
  have hne : a ≠ "" := by
    rintro rfl
    exact absurd ha (by decide)
  obtain ⟨key, hu, hv⟩ := (h.sharesPlural hne).exists_isPlural
  rw [collectionKey_inj, (plural_eq_iff (isWord_uncapitalize ha).lineBreak_notMem).2 hu,
    (plural_eq_iff (isWord_uncapitalize hb).lineBreak_notMem).2 hv]

/-- **Collection keys clash in two ways only.** Two different names of resources have one key if and
only if one of them is the other with an `e` after a sibilant, or one ends in a consonant and `y`
and the other in the same consonant and `ie`. And every key is plain: a small letter, then letters
and digits, with an `s` at its end. -/
theorem collectionKey_eq_iff :
    (∀ a b : String, isResourceName a = true → isResourceName b = true → a ≠ b →
      (collectionKey a = collectionKey b ↔ KeyClash a b ∨ KeyClash b a)) ∧
    ∀ a : String, isResourceName a = true → IsPlainKey (collectionKey a) := by
  refine ⟨fun a b ha hb hne => ⟨fun h => ?_, ?_⟩, fun a ha => ?_⟩
  · have hu := isPlural_of_isResourceName ha
    have hv := isPlural_of_isResourceName hb
    rw [collectionKey_inj] at h
    rw [h] at hu
    obtain hsame | hshares | hshares := hu.sharesPlural hv
    · have heq := uncapitalize_inj (isCapitalized_of_isResourceName ha)
        (isCapitalized_of_isResourceName hb) hsame
      exact absurd (String.toList_inj.1 heq) hne
    · exact .inl (hshares.keyClash ha hb)
    · exact .inr (hshares.keyClash hb ha)
  · rintro (hclash | hclash)
    · exact hclash.collectionKey_eq ha hb
    · exact (hclash.collectionKey_eq hb ha).symm
  · exact (isPlural_of_isResourceName ha).isPlainKey (isWord_uncapitalize ha)

/-- Policies are listed under one key with the resource whose name already ends in `ie`. -/
theorem collectionKey_eq_iff_policies :
    isResourceName "Policy" = true ∧ isResourceName "Policie" = true ∧
    collectionKey "Policy" = collectionKey "Policie" ∧ IsPlainKey (collectionKey "Policy") := by
  have hpolicy : isResourceName "Policy" = true := by decide
  have hpolicie : isResourceName "Policie" = true := by decide
  obtain ⟨hclash, hplain⟩ := collectionKey_eq_iff
  refine ⟨hpolicy, hpolicie, ?_, hplain "Policy" hpolicy⟩
  rw [hclash "Policy" "Policie" hpolicy hpolicie (by decide)]
  exact .inl (.consonant "Polic" ⟨'c', by decide, by decide⟩ (by decide) (by decide))

end CrudPlan
