import CrudPlan.Proofs.Plan.Issues

/-!
# Declaring more fields

Of its properties and parameters a resource is resolved with the names only, and only its identity
asks which names are declared. So declaring a field again, elsewhere or with another type changes
nothing, and declaring more of them takes issues away.

* `Descriptor.withFieldsOf` is a descriptor with the properties and parameters of another one;
* `Identity.fieldIssues_sublist`: with more names declared, the fields of an identity have a part of
  the issues that they have with fewer, in the same order. Issues with fields that are listed again
  stand between those with undeclared ones, and stay;
* `Plan.issues_parts_withFieldsOf` is the same for the whole resolution, of which all other parts
  are as they were;
* `Plan.resolve_withFieldsOf` says what that means for plans and refusals.
-/

namespace CrudPlan

/-- A descriptor with the properties and parameters of another one. -/
def Descriptor.withFieldsOf (d other : Descriptor) : Descriptor :=
  { d with
    properties := other.properties
    parameters := other.parameters }

variable {d other : Descriptor}

/-! ### Identities -/

namespace Identity

variable {declared more seen fields : List String}

theorem fieldIssues_sublist (h : declared ⊆ more) :
    (fieldIssues more seen fields).Sublist (fieldIssues declared seen fields) := by
  induction fields generalizing seen with
  | nil => exact .slnil
  | cons name rest ih =>
    have hundeclared : (if more.contains name then [] else [undeclaredIssue name]).Sublist
        (if declared.contains name then [] else [undeclaredIssue name]) := by
      simp only [List.contains_iff_mem]
      by_cases hmore : name ∈ more
      · rw [if_pos hmore]
        exact List.nil_sublist _
      · rw [if_neg hmore, if_neg fun hmem => hmore (h hmem)]
    -- whether a name was listed before has nothing to do with what is declared
    exact ((List.Sublist.refl _).append hundeclared).append ih

theorem fieldIssues_congr (h : ∀ name, name ∈ declared ↔ name ∈ more) :
    fieldIssues declared seen fields = fieldIssues more seen fields :=
  (fieldIssues_sublist fun name => (h name).2).antisymm
    (fieldIssues_sublist fun name => (h name).1)

theorem issues_withFieldsOf (h : d.declaredNames ⊆ (d.withFieldsOf other).declaredNames) :
    (issues (d.withFieldsOf other)).Sublist (issues d) := by
  have hfields : (fieldIssues (d.withFieldsOf other).declaredNames [] d.identityFields).Sublist
      (fieldIssues d.declaredNames [] d.identityFields) := fieldIssues_sublist h
  exact (((hfields.append (.refl _)).append (.refl _)).append (.refl _)).append (.refl _)

theorem resolve_withFieldsOf_of_subset {identity : Identity}
    (h : d.declaredNames ⊆ (d.withFieldsOf other).declaredNames)
    (hidentity : resolve d = .ok identity) : resolve (d.withFieldsOf other) = .ok identity := by
  obtain ⟨⟨hissues, hrest⟩, hresult⟩ := resolve_eq_ok_iff.1 hidentity
  have hnone : fieldIssues (d.withFieldsOf other).declaredNames [] d.identityFields = [] :=
    List.sublist_nil.1 (hissues ▸ fieldIssues_sublist h)
  exact resolve_eq_ok_iff.2 ⟨⟨hnone, hrest⟩, hresult⟩

theorem resolve_withFieldsOf_of_same
    (h : ∀ name, name ∈ (d.withFieldsOf other).declaredNames ↔ name ∈ d.declaredNames) :
    resolve (d.withFieldsOf other) = resolve d := by
  have hissues : issues (d.withFieldsOf other) = issues d := by
    rw [issues, issues, ← fieldIssues_congr h]
    rfl
  rw [resolve, resolve, hissues]
  rfl

end Identity

/-! ### Plans -/

namespace Plan

variable {mode : ResolverMode}

/-- The identity apart, no part of the resolution looks at fields. -/
theorem parts_withFieldsOf : parts mode (d.withFieldsOf other) =
    { parts mode d with identity := Identity.resolve (d.withFieldsOf other) } := rfl

theorem assemble_withFieldsOf : assemble mode (d.withFieldsOf other) = assemble mode d := rfl

theorem issues_parts_withFieldsOf (mode : ResolverMode)
    (h : d.declaredNames ⊆ (d.withFieldsOf other).declaredNames) :
    (parts mode (d.withFieldsOf other)).issues.Sublist (parts mode d).issues := by
  have hidentity : (issuesOf (Identity.resolve (d.withFieldsOf other))).Sublist
      (issuesOf (Identity.resolve d)) := by
    rw [Identity.issuesOf_resolve, Identity.issuesOf_resolve]
    exact Identity.issues_withFieldsOf h
  rw [parts_withFieldsOf, Parts.issues, Parts.issues]
  exact (((hidentity.append_left _).append_right _).append_right _).append_right _

/-- **Declaring more fields never breaks a resource.** Let a descriptor have other properties and
parameters. If they declare the same names, the outcome is the same. If they declare at least the
names that were declared, a plan stays what it is, and a refusal is for some of the issues there
were before. -/
theorem resolve_withFieldsOf {d d' : Descriptor} (hfields : d' = d.withFieldsOf d')
    (mode : ResolverMode) :
    ((∀ name, name ∈ d'.declaredNames ↔ name ∈ d.declaredNames) →
      resolve mode d' = resolve mode d) ∧
    (d.declaredNames ⊆ d'.declaredNames →
      (∀ p, resolve mode d = .ok p → resolve mode d' = .ok p) ∧
      ∀ fewer, resolve mode d' = .error fewer →
        ∃ found, resolve mode d = .error found ∧ fewer.Sublist found) := by
  rw [hfields]
  refine ⟨fun hsame => ?_, fun hsubset => ⟨fun p hp => ?_, fun fewer hfewer => ?_⟩⟩
  · refine resolve_congr ?_ assemble_withFieldsOf
    rw [parts_withFieldsOf, Identity.resolve_withFieldsOf_of_same hsame]
    rfl
  · obtain ⟨urls, identity, mutex, state, hurls, hidentity, hrest⟩ := resolve_eq_ok_iff.1 hp
    exact resolve_eq_ok_iff.2 ⟨urls, identity, mutex, state, hurls,
      Identity.resolve_withFieldsOf_of_subset hsubset hidentity, hrest⟩
  · obtain ⟨hne, rfl⟩ := resolve_eq_error_iff.1 hfewer
    have hsublist := issues_parts_withFieldsOf mode hsubset
    refine ⟨_, resolve_eq_error_iff.2 ⟨fun hnil => hne ?_, rfl⟩, hsublist⟩
    exact List.sublist_nil.1 (hnil ▸ hsublist)

/-- A resource that is known by two fields beside its name, with the fields that it declares. -/
def addressesIn (properties parameters : List Field) : Descriptor where
  about := { name := "Address" }
  endpoints := { baseUrl := "addresses" }
  identityRules := { identity := ["region", "zone", "name"] }
  properties := properties
  parameters := parameters

/-- Without the fields it is refused for both, with one of them for the other, and with both it has
a plan, which is also that with both declared twice and elsewhere. -/
theorem resolve_withFieldsOf_addresses :
    resolve {} (addressesIn [] []) =
      .error [Identity.undeclaredIssue "region", Identity.undeclaredIssue "zone"] ∧
    resolve {} (addressesIn [] [{ name := "region" }]) =
      .error [Identity.undeclaredIssue "zone"] ∧
    (∃ found, resolve {} (addressesIn [] []) = .error found ∧
      [Identity.undeclaredIssue "zone"].Sublist found) ∧
    ∃ p, resolve {} (addressesIn [] [{ name := "region" }, { name := "zone" }]) = .ok p ∧
      resolve {} (addressesIn [{ name := "zone", type := "Integer" }, { name := "region" }]
        [{ name := "zone" }]) = .ok p := by
  have hopen : resolve {} (addressesIn [] []) =
      .error [Identity.undeclaredIssue "region", Identity.undeclaredIssue "zone"] := by
    decide +kernel
  have hhalf : resolve {} (addressesIn [] [{ name := "region" }]) =
      .error [Identity.undeclaredIssue "zone"] := by decide +kernel
  obtain ⟨p, hp⟩ :
      ∃ p, resolve {} (addressesIn [] [{ name := "region" }, { name := "zone" }]) = .ok p :=
    exists_eq_ok_of_isSome (by decide +kernel)
  refine ⟨hopen, hhalf, ?_, p, hp, ?_⟩
  · exact ((resolve_withFieldsOf rfl {}).2 (by decide)).2 _ hhalf
  · refine ((resolve_withFieldsOf rfl {}).1 fun name => ?_).trans hp
    change name ∈ ["name", "zone", "region"] ↔ name ∈ ["name", "region", "zone"]
    simp only [List.mem_cons, List.not_mem_nil, or_false]
    tauto

end Plan

end CrudPlan
