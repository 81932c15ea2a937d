import Mathlib.Data.List.Basic
import CrudPlan.Proofs.Template.Matching
import CrudPlan.Template.Tokens

/-!
# What is reported of a template

A descriptor holds templates in several fields, and not the same is asked of all. This file says
which issues a template has by what its text is read as.

* `Outsiders` are the names of a list that are not allowed, each once and in order;
  `Template.outsiders_unknownTokens` says that these are the tokens complained of;
* `TemplateUse` is a template text in its field, with what is asked of it, and
  `TemplateUse.Reported` are the issues with it: one if it cannot be read, one if it names a field twice and must not, else
  one for each field that it must not name;
* `TemplateUse.reported_checked` and `TemplateUse.reported_checkedFormat`: checking a template gives
  these issues.
-/

namespace CrudPlan

/-! ### Names in order -/

/-- The first name that is not new: nothing before it occurs twice, but it does. -/
theorem firstRepeated?_eq_some {seen xs : List String} {name : String}
    (h : firstRepeated? seen xs = some name) :
    ∃ before after, xs = before ++ name :: after ∧ before.Nodup ∧ (∀ x ∈ before, x ∉ seen) ∧
      (name ∈ before ∨ name ∈ seen) := by
  induction xs generalizing seen with
  | nil => cases h
  | cons x rest ih =>
    rw [firstRepeated?] at h
    split at h
    · next hseen =>
      cases h
      exact ⟨[], rest, rfl, .nil, List.forall_mem_nil _, .inr (List.contains_iff_mem.1 hseen)⟩
    · next hseen =>
      obtain ⟨before, after, rfl, hnodup, hfresh, hname⟩ := ih h
      -- the names before the repeated one avoid `x :: seen`, so `x` may join them
      have hnew : x ∉ before := fun hmem => hfresh x hmem List.mem_cons_self
      refine ⟨x :: before, after, rfl, List.nodup_cons.2 ⟨hnew, hnodup⟩, ?_, ?_⟩
      · intro y hy
        rcases List.mem_cons.1 hy with rfl | hy
        · exact fun hmem => hseen (List.contains_iff_mem.2 hmem)
        · exact fun hmem => hfresh y hy (List.mem_cons_of_mem _ hmem)
      · rcases hname with hname | hname
        · exact .inl (List.mem_cons_of_mem _ hname)
        · rcases List.mem_cons.1 hname with rfl | hname
          · exact .inl List.mem_cons_self
          · exact .inr hname

theorem firstOccurrences_filter (p : String → Bool) (xs : List String) :
    firstOccurrences (xs.filter p) = (firstOccurrences xs).filter p := by
  induction xs with
  | nil => rfl
  | cons x rest ih =>
    rw [firstOccurrences]
    cases hx : p x with
    | true =>
      rw [List.filter_cons_of_pos hx, List.filter_cons_of_pos hx, firstOccurrences, ih,
        List.filter_comm]
    | false =>
      -- what passes the test differs from `x` anyway
      have hne : ∀ y ∈ firstOccurrences rest, p y = (p y && y != x) := by
        intro y _
        by_cases hy : y = x
        · rw [hy, hx, Bool.false_and]
        · simp [hy]
      rw [List.filter_cons_of_neg (by simp [hx]), List.filter_cons_of_neg (by simp [hx]), ih,
        List.filter_filter]
      exact List.filter_congr hne

/-- First occurrences come in their order. -/
theorem pairwise_idxOf_firstOccurrences (xs : List String) :
    (firstOccurrences xs).Pairwise fun a b => xs.idxOf a < xs.idxOf b := by
  induction xs with
  | nil => exact .nil
  | cons x rest ih =>
    have hlater : ∀ {y}, y ∈ (firstOccurrences rest).filter (· != x) →
        (x :: rest).idxOf y = rest.idxOf y + 1 := by
      intro y hy
      have hne : y ≠ x := by simpa using (List.mem_filter.1 hy).2
      exact List.idxOf_cons_ne rest hne.symm
    rw [firstOccurrences, List.pairwise_cons]
    constructor
    · intro y hy
      rw [List.idxOf_cons_self, hlater hy]
      exact Nat.succ_pos _
    · refine (ih.filter _).imp_of_mem fun ha hb hlt => ?_
      rw [hlater ha, hlater hb]
      exact Nat.succ_lt_succ hlt

/-- The names of a list that are not allowed, each once and in the order in which they first
occur. -/
structure Outsiders (allowed : String → Prop) (xs names : List String) : Prop where
  mem_iff : ∀ name, name ∈ names ↔ name ∈ xs ∧ ¬ allowed name
  inOrder : names.Pairwise fun a b => xs.idxOf a < xs.idxOf b

/-- There are none where everything is allowed. -/
theorem Outsiders.nil {allowed : String → Prop} {xs : List String} (h : ∀ x ∈ xs, allowed x) :
    Outsiders allowed xs [] where
  mem_iff name := by
    simp only [List.not_mem_nil, false_iff, not_and, not_not]
    exact h name
  inOrder := .nil

theorem Template.outsiders_unknownTokens (t : Template) (known : List String) :
    Outsiders (· ∈ known) t.tokens (t.unknownTokens known) where
  mem_iff name := by
    rw [unknownTokens, mem_firstOccurrences]
    simp
  inOrder := by
    rw [unknownTokens, firstOccurrences_filter]
    exact (pairwise_idxOf_firstOccurrences t.tokens).filter _

/-! ### Uses -/

/-- A template text in its field, with what is asked of it. -/
structure TemplateUse where
  /-- The part of the resolution that asks. -/
  resolver : String
  /-- The field that holds the text. -/
  field : String
  /-- The text. -/
  source : String
  /-- The fields that it may name, if not all. -/
  known : Option (List String) := none
  /-- Whether it may name a field only once. -/
  once : Bool := false

namespace TemplateUse

variable (u : TemplateUse)

/-- The template may name the field. -/
def Allows (name : String) : Prop := ∀ known ∈ u.known, name ∈ known

/-- The issue with a text that is not what it should be. -/
def malformed (e : TemplateError) : Issue := ⟨.malformedTemplate, u.resolver, u.field, e.message⟩

/-- The issue with a field that is named but must not be. -/
def unknownToken (name : String) : Issue :=
  ⟨.unknownIdentityToken, u.resolver, u.field,
    "token '" ++ name ++ "' in '" ++ u.source ++ "' is not an identity field"⟩

/-- The issues with a template. -/
inductive Reported : List Issue → Prop
  /-- The text cannot be read. -/
  | unreadable {e : TemplateError} (h : Template.compile u.source = .error e) :
      Reported [u.malformed e]
  /-- It names a field again and must not; the first such field is told. -/
  | repeated {t : Template} {before after : List String} {name : String} (honce : u.once = true)
      (ht : Template.compile u.source = .ok t) (htokens : t.tokens = before ++ name :: after)
      (hbefore : before.Nodup) (hname : name ∈ before) :
      Reported [u.malformed (.repeatedToken name u.source)]
  /-- It can be read, and there is an issue for each field that it must not name. -/
  | readable {t : Template} {names : List String} (ht : Template.compile u.source = .ok t)
      (honce : u.once = true → t.tokens.Nodup) (hnames : Outsiders u.Allows t.tokens names) :
      Reported (names.map u.unknownToken)

end TemplateUse

/-! ### Checks -/

theorem Template.issuesOf_checked {α : Type} {resolver field : String} {known : List String}
    {template : α → Template} {compiled : Except TemplateError α} :
    issuesOf (checked resolver field known template compiled) =
      match compiled with
      | .error e => [⟨.malformedTemplate, resolver, field, e.message⟩]
      | .ok a => tokenIssues resolver field known (template a) := by
  cases compiled with
  | error e => rfl
  | ok a =>
    rw [checked]
    split
    · next h => exact h.symm
    · rfl

/-- An import format is read as a template first, and looked through for repetitions then. -/
theorem ImportFormat.compile_cases (source : String) :
    (∃ e, Template.compile source = .error e ∧ compile source = .error e) ∨
    ∃ t, Template.compile source = .ok t ∧
      ((∃ name, firstRepeated? [] t.tokens = some name ∧
        compile source = .error (.repeatedToken name source)) ∨
      (t.tokens.Nodup ∧ compile source = .ok ⟨t⟩)) := by
  cases ht : Template.compile source with
  | error e => exact .inl ⟨e, rfl, by rw [compile, ht]; rfl⟩
  | ok t =>
    refine .inr ⟨t, rfl, ?_⟩
    cases hrepeated : firstRepeated? [] t.tokens with
    | some name =>
      refine .inl ⟨name, rfl, ?_⟩
      simp only [compile, ht, bind, Except.bind, hrepeated]
      rfl
    | none =>
      have hnodup : t.tokens.Nodup := (firstRepeated?_eq_none_iff.1 hrepeated).1
      exact .inr ⟨hnodup, compile_eq_ok_iff.2 ⟨ht, hnodup⟩⟩

namespace TemplateUse

variable {u : TemplateUse} {known : List String}

/-- The tokens that a readable template is blamed for. -/
theorem reported_tokenIssues {t : Template} (hknown : u.known = some known)
    (ht : Template.compile u.source = .ok t) (honce : u.once = true → t.tokens.Nodup) :
    u.Reported (Template.tokenIssues u.resolver u.field known t) := by
  have hsource : t.source = u.source := (Template.compile_eq_ok_iff.1 ht).1
  have hallows : u.Allows = (· ∈ known) := by
    funext name
    simp [Allows, hknown]
  have hissues : Template.tokenIssues u.resolver u.field known t =
      (t.unknownTokens known).map u.unknownToken := by
    rw [Template.tokenIssues, hsource]
    rfl
  rw [hissues]
  refine .readable ht honce ?_
  rw [hallows]
  exact t.outsiders_unknownTokens known

theorem reported_checked (hknown : u.known = some known) (honce : u.once = false) :
    u.Reported (issuesOf
      (Template.checked u.resolver u.field known id (Template.compile u.source))) := by
  rw [Template.issuesOf_checked]
  cases ht : Template.compile u.source with
  | error e => exact .unreadable ht
  | ok t =>
    apply reported_tokenIssues hknown ht
    rw [honce]
    rintro ⟨⟩

theorem reported_checkedFormat (hknown : u.known = some known) (honce : u.once = true) :
    u.Reported (issuesOf (Template.checked u.resolver u.field known ImportFormat.template
      (ImportFormat.compile u.source))) := by
  rw [Template.issuesOf_checked]
  obtain ⟨e, ht, hformat⟩ | ⟨t, ht, ⟨name, hrepeated, hformat⟩ | ⟨hnodup, hformat⟩⟩ :=
    ImportFormat.compile_cases u.source
  · rw [hformat]
    exact .unreadable ht
  · obtain ⟨before, after, htokens, hbefore, -, hname⟩ := firstRepeated?_eq_some hrepeated
    rw [hformat]
    exact .repeated honce ht htokens hbefore (hname.resolve_right List.not_mem_nil)
  · rw [hformat]
    exact reported_tokenIssues hknown ht fun _ => hnodup

end TemplateUse

end CrudPlan
