import CrudPlan.Proofs.Plan.Acceptance
import CrudPlan.Proofs.Plan.WrittenOut

/-!
# The parts of a plan fit together

The parts of a plan are resolved one by one, each from the descriptor alone. This file says how
they nevertheless belong together.

* `Plan.Consistent` lists what the parts of a plan have to do with each other and with the
  descriptor;
* `Identity.Sound`, `Lock.Sound` and `Urls.Sound` are the conditions on single parts, and each has
  a lemma that derives it from the resolution of that part;
* `Plan.consistent_of_resolve`: whatever is left open in a descriptor, its plan is consistent.
-/

namespace CrudPlan

variable {d : Descriptor}

/-! ### Identities -/

/-- An identity of a descriptor that can be used to write ids and to read them. -/
structure Identity.Sound (d : Descriptor) (i : Identity) : Prop where
  /-- There is a field. -/
  fields_ne_nil : i.fields ≠ []
  /-- No field is listed twice. -/
  nodup_fields : i.fields.Nodup
  /-- Every field is declared. -/
  fields_declared : ∀ name ∈ i.fields, d.Declares name
  /-- The id template is what its text is read as. -/
  compile_idFormat : Template.compile i.idFormat.source = .ok i.idFormat
  /-- Its text is the one given, or lists the fields. -/
  source_idFormat : i.idFormat.source = Identity.idTemplate d
  /-- It needs fields of the identity only. -/
  tokens_idFormat : i.idFormat.tokens ⊆ i.fields
  /-- Every import format is what its text is read as, with its segments and its pattern. -/
  compile_formats : ∀ f ∈ i.importFormats, ImportFormat.compile f.template.source = .ok f
  /-- None of them names a field twice. -/
  nodup_tokens : ∀ f ∈ i.importFormats, f.template.tokens.Nodup
  /-- They need fields of the identity only. -/
  tokens_formats : ∀ f ∈ i.importFormats, f.template.tokens ⊆ i.fields
  /-- Their texts are those given, in order, or else the one of the id template. -/
  sources_formats : i.importFormats.map (fun f => f.template.source) =
    if d.lifecycle.excludeImport then []
    else if d.identityRules.importFormat = [] then [i.idFormat.source]
    else d.identityRules.importFormat

namespace Identity

theorem forall_mem_of_forall₂_formatOf {known sources : List String} {formats : List ImportFormat}
    (h : List.Forall₂ (FormatOf known) sources formats) :
    ∀ f ∈ formats, ImportFormat.compile f.template.source = .ok f ∧ f.template.tokens ⊆ known := by
  induction h with
  | nil => simp
  | cons hf _ ih =>
    refine List.forall_mem_cons.2 ⟨⟨?_, hf.2⟩, ih⟩
    rw [source_of_formatOf hf]
    exact hf.1

theorem sound_of_resolve {i : Identity} (h : resolve d = .ok i) : i.Sound d := by
  obtain ⟨⟨hissues, -, -⟩, hfields, hid, hforall⟩ := resolve_eq_ok_iff.1 h
  obtain ⟨⟨hnodup, -⟩, hdeclared⟩ := fieldIssues_eq_nil_iff.1 hissues
  obtain ⟨hcompile, htokens⟩ := checkedIdFormat_eq_ok_iff.1 hid
  have hsource : i.idFormat.source = idTemplate d := Template.source_of_compile hcompile
  have hformats := forall_mem_of_forall₂_formatOf hforall
  have hsources := sources_formats_of_resolve h
  rw [formatSources] at hsources
  exact {
    fields_ne_nil := hfields ▸ d.identityFields_ne_nil
    nodup_fields := hfields ▸ hnodup
    fields_declared := fun name hname =>
      Descriptor.mem_declaredNames_iff.1 (hdeclared name (hfields ▸ hname))
    compile_idFormat := hsource ▸ hcompile
    source_idFormat := hsource
    tokens_idFormat := hfields ▸ htokens
    compile_formats := fun f hf => (hformats f hf).1
    nodup_tokens := fun f hf => (ImportFormat.compile_eq_ok_iff.1 (hformats f hf).1).2
    tokens_formats := fun f hf => hfields ▸ (hformats f hf).2
    sources_formats := hsource ▸ hsources }

end Identity

/-! ### Locks -/

/-- A lock whose name can be written for a resource with the given identity. -/
structure Lock.Sound (fields : List String) (l : Lock) : Prop where
  /-- The tokens are those of the template, in order. -/
  tokens_eq : ∃ t, Template.compile l.template = .ok t ∧ l.tokens = t.tokens
  /-- They are fields of the identity. -/
  tokens_subset : l.tokens ⊆ fields

theorem Lock.sound_of_resolve {fields : List String} {lock : Option Lock}
    (h : resolve d fields = .ok lock) : ∀ l ∈ lock, l.Sound fields := by
  have hrel := resolve_eq_ok_iff.1 h
  generalize d.mutex = source at hrel
  cases hrel with
  | none => nofun
  | some hlock =>
    rintro _ ⟨⟩
    obtain ⟨t, ht, hknown, rfl⟩ := hlock
    exact ⟨⟨t, ht, rfl⟩, hknown⟩

/-! ### URLs -/

namespace Urls

/-- All URLs, under whichever name. -/
def all (u : Urls) : List String :=
  [u.selfLink, u.createUrl, u.updateUrl, u.deleteUrl] ++ u.caiBaseUrl.toList

/-- URLs that can be read. -/
def Sound (u : Urls) : Prop := ∀ url ∈ u.all, Template.Compiles url

theorem mem_given_written {e : Endpoints} {u : Urls} {url : String}
    (hcai : u.caiBaseUrl = e.caiBaseUrl) (hurl : url ∈ u.all) : some url ∈ given (e.written u) := by
  simp only [all, List.mem_append, List.mem_cons, List.not_mem_nil, or_false,
    Option.mem_toList, hcai] at hurl
  simp only [given, Endpoints.written, List.mem_cons, Option.some.injEq]
  tauto

theorem sound_of_resolve {u : Urls} (h : resolve d = .ok u) : u.Sound := by
  obtain ⟨hcompiles, selfLink, hself, rfl⟩ := resolve_eq_ok_iff.1 h
  -- a URL that was filled in is one of those given
  intro url hurl
  exact hcompiles url (given_written_subset d.name hself (mem_given_written rfl hurl))

end Urls

/-! ### Plans -/

/-- An operation is requested at a URL with a method. -/
def Operation.RequestedBy (o : Operation) (url verb : String) : Prop := o.url = url ∧ o.verb = verb

namespace Plan

/-- The parts of a plan belong together. -/
structure Consistent (d : Descriptor) (p : Plan) : Prop where
  /-- The identity is that of the descriptor. -/
  identity : p.identity.Sound d
  /-- The lock is written with the identity. -/
  mutex : ∀ l ∈ p.mutex, l.Sound p.identity.fields
  /-- The URLs can be read. -/
  urls : p.urls.Sound
  /-- Creating is requested as the URLs say. -/
  create : p.policy.create.RequestedBy p.urls.createUrl p.urls.createVerb
  /-- So is reading. -/
  read : p.policy.read.RequestedBy p.urls.selfLink p.urls.readVerb
  /-- So is updating. -/
  update : p.policy.update.RequestedBy p.urls.updateUrl p.urls.updateVerb
  /-- So is deleting. -/
  delete : p.policy.delete.RequestedBy p.urls.deleteUrl p.urls.deleteVerb

/-- **Every plan is consistent.** -/
theorem consistent_of_resolve {mode : ResolverMode} {p : Plan} (h : resolve mode d = .ok p) :
    p.Consistent d := by
  obtain ⟨urls, identity, mutex, state, hurls, hidentity, hmutex, -, -, rfl⟩ :=
    resolve_eq_ok_iff.1 h
  have hfields : identity.fields = d.identityFields := (Identity.resolve_eq_ok_iff.1 hidentity).2.1
  exact {
    identity := Identity.sound_of_resolve hidentity
    mutex := fun l hl => hfields ▸ Lock.sound_of_resolve hmutex l hl
    urls := Urls.sound_of_resolve hurls
    create := ⟨rfl, rfl⟩
    read := ⟨rfl, rfl⟩
    update := ⟨rfl, rfl⟩
    delete := ⟨rfl, rfl⟩ }

/-- A resource of which little is left open. -/
def regionalDisks : Descriptor where
  about := { name := "RegionalDisk" }
  endpoints := {
    baseUrl := "regions/\x7b\x7bregion\x7d\x7d/disks"
    selfLink := some "regions/\x7b\x7bregion\x7d\x7d/disks/\x7b\x7bname\x7d\x7d"
    createVerb := ⟨.put, by decide⟩
    caiBaseUrl := some "//compute/\x7b\x7bregion\x7d\x7d" }
  identityRules := {
    identity := ["region", "name"]
    importFormat := ["disks/\x7b\x7b%region\x7d\x7d/\x7b\x7bname\x7d\x7d", "\x7b\x7bname\x7d\x7d"] }
  mutex := some "disk-\x7b\x7bregion\x7d\x7d-\x7b\x7bregion\x7d\x7d"
  lifecycle := { readonly := true }
  parameters := [{ name := "region" }]

theorem consistent_of_resolve_regionalDisks :
    ∃ p, resolve {} regionalDisks = .ok p ∧ p.Consistent regionalDisks := by
  obtain ⟨p, h⟩ : ∃ p, resolve {} regionalDisks = .ok p :=
    exists_eq_ok_of_isSome (by decide +kernel)
  exact ⟨p, h, consistent_of_resolve h⟩

end Plan

end CrudPlan
