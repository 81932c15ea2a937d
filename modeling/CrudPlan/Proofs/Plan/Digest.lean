import CrudPlan.Proofs.Plan.Dump
import CrudPlan.Proofs.Sha256

/-!
# What a digest stands for

A digest is the hash of a canonical text, and the text tells the plan. So plans that differ share a
digest only if the hash has a collision.

* `PlanRecord` is a plan as data. A `Plan` derives the regular expression of an import format from
  its template and has natural numbers as versions; a record may hold any text and any integers
  there. `Plan.record` is a plan as such a record, with the same dump (`Plan.toJson_record`);
* `PlanRecord.faithful`: records with one dump are equal, whatever they hold;
* `PlanRecord.digest_faithful` says what follows for texts and digests.
-/

namespace CrudPlan

open Json (Faithful)

/-! ### Plans as data -/

/-- An import format with any regular expression. -/
structure FormatRecord where
  /-- The template that ids are matched with. -/
  template : Template
  /-- The regular expression. -/
  pattern : String
  deriving DecidableEq, Repr

/-- What identifies a resource, with any regular expressions. -/
structure IdentityRecord where
  /-- The fields that identify the resource. -/
  fields : List String
  /-- The template of its id. -/
  idFormat : Template
  /-- The formats in which an id may be imported. -/
  importFormats : List FormatRecord
  deriving DecidableEq, Repr

/-- How stored states are upgraded, with any integers as versions. -/
structure UpgradeRecord where
  /-- The current version. -/
  schemaVersion : Int
  /-- The version that upgrades start from. -/
  baseVersion : Int
  /-- Whether there are upgrade steps at all. -/
  enabled : Bool
  /-- The versions that the steps lead to. -/
  upgradeVersions : List Int
  /-- The hook that migrates states instead. -/
  migrateState : Option HookRef
  deriving DecidableEq, Repr

/-- A plan as data, whether or not a descriptor resolves to it. -/
structure PlanRecord where
  /-- The name of the resource. -/
  resource : String
  /-- The first stage of the API that has it. -/
  minVersion : String
  /-- Its kind in the API. -/
  kind : String
  /-- Its name in earlier versions. -/
  legacyName : String
  /-- Why it should no longer be used. -/
  deprecationMessage : String
  /-- The URLs of its operations. -/
  urls : Urls
  /-- What identifies it. -/
  identity : IdentityRecord
  /-- The lock that its operations hold. -/
  mutex : Option Lock
  /-- How stored states are upgraded. -/
  state : UpgradeRecord
  /-- How its operations are requested and handled. -/
  policy : LifecyclePolicy
  /-- What is odd about it. -/
  warnings : List String
  deriving DecidableEq, Repr

/-- The dump of an import format. -/
def FormatRecord.toJson (f : FormatRecord) : Json :=
  .object (f.template.toMembers ++ [("pattern", .text f.pattern)])

/-- The dump of an identity. -/
def IdentityRecord.toJson (i : IdentityRecord) : Json := .object [
  ("identity_fields", .texts i.fields),
  ("id_format", i.idFormat.toJson),
  ("import_matchers", .listOf FormatRecord.toJson i.importFormats)]

/-- The dump of state upgrades. -/
def UpgradeRecord.toJson (s : UpgradeRecord) : Json := .object [
  ("schema_version", .int s.schemaVersion),
  ("base_version", .int s.baseVersion),
  ("enabled", .bool s.enabled),
  ("upgrade_versions", .listOf .int s.upgradeVersions),
  ("migrate_state", .optJson HookRef.toJson s.migrateState)]

namespace PlanRecord

/-- The dump of a plan. -/
def toJson (r : PlanRecord) : Json := .object [
  ("resource", .text r.resource),
  ("min_version", .text r.minVersion),
  ("kind", .text r.kind),
  ("legacy_name", .text r.legacyName),
  ("deprecation_message", .text r.deprecationMessage),
  ("urls", r.urls.toJson),
  ("identity", r.identity.toJson),
  ("mutex", .optJson Lock.toJson r.mutex),
  ("state", r.state.toJson),
  ("policy", r.policy.toJson),
  ("warnings", .texts r.warnings)]

/-- The text whose hash is the digest. -/
def canonicalText (r : PlanRecord) : String := r.toJson.canonical

/-- The bytes of that text. -/
def message (r : PlanRecord) : List UInt8 := r.canonicalText.toUTF8.toList

/-- The digest. -/
def digest (r : PlanRecord) : String := Sha256.hexDigest r.message

end PlanRecord

/-! ### Records are told from their dumps -/

theorem FormatRecord.faithful : Faithful FormatRecord.toJson where
  exact f := by
    simp [toJson, Template.toMembers, Json.exact_object, Faithful.text.exact,
      Segment.faithful.listOf.exact]
  injective := by
    rintro ⟨⟨source, segments⟩, pattern⟩ ⟨⟨source', segments'⟩, pattern'⟩ h
    simpa [Template.toMembers, Segment.faithful.listOf.same_iff, and_assoc] using
      h.members rfl (by simp [Template.toMembers])

theorem IdentityRecord.faithful : Faithful IdentityRecord.toJson where
  exact i := by
    simp [toJson, Json.exact_object, Faithful.texts.exact, Template.faithful.exact,
      FormatRecord.faithful.listOf.exact]
  injective := by
    rintro ⟨fields, idFormat, formats⟩ ⟨fields', idFormat', formats'⟩ h
    simpa [Faithful.texts.same_iff, Template.faithful.same_iff,
      FormatRecord.faithful.listOf.same_iff] using h.members rfl (by simp)

theorem UpgradeRecord.faithful : Faithful UpgradeRecord.toJson where
  exact s := by
    simp [toJson, Json.exact_object, Faithful.int.exact, Faithful.bool.exact,
      Faithful.int.listOf.exact, HookRef.faithful_opt.exact]
  injective := by
    intro s s' h
    cases s
    cases s'
    simpa [Faithful.int.listOf.same_iff, HookRef.faithful_opt.same_iff] using
      h.members rfl (by simp)

theorem PlanRecord.faithful : Faithful PlanRecord.toJson where
  exact r := by
    simp [toJson, Json.exact_object, Faithful.text.exact, Urls.faithful.exact,
      IdentityRecord.faithful.exact, Lock.faithful_opt.exact, UpgradeRecord.faithful.exact,
      LifecyclePolicy.faithful.exact, Faithful.texts.exact]
  injective := by
    intro r r' h
    cases r
    cases r'
    simpa [Urls.faithful.same_iff, IdentityRecord.faithful.same_iff, Lock.faithful_opt.same_iff,
      UpgradeRecord.faithful.same_iff, LifecyclePolicy.faithful.same_iff,
      Faithful.texts.same_iff] using h.members rfl (by simp)

/-! ### Plans as records -/

/-- An import format as a record. -/
def ImportFormat.record (f : ImportFormat) : FormatRecord := ⟨f.template, f.pattern⟩

/-- An identity as a record. -/
def Identity.record (i : Identity) : IdentityRecord :=
  ⟨i.fields, i.idFormat, i.importFormats.map ImportFormat.record⟩

/-- State upgrades as a record. -/
def StateUpgrades.record (s : StateUpgrades) : UpgradeRecord :=
  ⟨s.schemaVersion, s.baseVersion, s.enabled, s.upgradeVersions.map Nat.cast, s.migrateState⟩

/-- A plan as a record. -/
def Plan.record (p : Plan) : PlanRecord where
  resource := p.resource
  minVersion := p.minVersion
  kind := p.kind
  legacyName := p.legacyName
  deprecationMessage := p.deprecationMessage
  urls := p.urls
  identity := p.identity.record
  mutex := p.mutex
  state := p.state.record
  policy := p.policy
  warnings := p.warnings

theorem ImportFormat.record_injective : Function.Injective ImportFormat.record := by
  rintro ⟨template⟩ ⟨template'⟩ h
  exact congrArg ImportFormat.mk (congrArg FormatRecord.template h)

theorem Identity.record_injective : Function.Injective Identity.record := by
  rintro ⟨fields, idFormat, formats⟩ ⟨fields', idFormat', formats'⟩ h
  simpa [record, ImportFormat.record_injective.list_map.eq_iff] using h

theorem StateUpgrades.record_injective : Function.Injective StateUpgrades.record := by
  intro s s' h
  cases s
  cases s'
  have hcast : Function.Injective (Nat.cast : Nat → Int) := fun _ _ => Int.natCast_inj.1
  simpa [record, Int.natCast_inj, hcast.list_map.eq_iff] using h

theorem Plan.record_injective : Function.Injective Plan.record := by
  intro p p' h
  cases p
  cases p'
  simpa [record, Identity.record_injective.eq_iff, StateUpgrades.record_injective.eq_iff] using h

theorem Identity.toJson_record (i : Identity) : i.record.toJson = i.toJson := by
  rw [toJson, IdentityRecord.toJson, record, Json.listOf, Json.listOf, List.map_map]
  rfl

theorem StateUpgrades.toJson_record (s : StateUpgrades) : s.record.toJson = s.toJson := by
  rw [toJson, UpgradeRecord.toJson, record, Json.listOf, Json.listOf, List.map_map]
  rfl

/-- A plan and its record have one dump. -/
theorem Plan.toJson_record (p : Plan) : p.record.toJson = p.toJson := by
  rw [toJson, PlanRecord.toJson, record, Identity.toJson_record, StateUpgrades.toJson_record]

theorem Plan.canonicalText_record (p : Plan) : p.record.canonicalText = p.canonicalText := by
  rw [PlanRecord.canonicalText, canonicalText, toJson_record]

theorem Plan.digest_record (p : Plan) : p.record.digest = p.digest := by
  rw [PlanRecord.digest, PlanRecord.message, digest, canonicalText_record]

/-! ### Digests -/

namespace PlanRecord

variable {r s : PlanRecord}

theorem canonicalText_inj : r.canonicalText = s.canonicalText ↔ r = s :=
  faithful.canonical_eq_iff

theorem digest_eq_iff : r.digest = s.digest ↔ r = s ∨ Sha256.Collide r.message s.message := by
  rw [digest, digest, message, message, Sha256.hexDigest_eq_iff, canonicalText_inj]

/-- **The text that is hashed tells the plan:** it is printable ASCII, is read as the dump with its
keys in order, and differs for plans that differ. So these share a digest only on a collision of the
hash. This holds of all records of the shape of a plan. A plan has the text and the digest of its
record, which tells the plan. -/
theorem digest_faithful :
    (∀ r s : PlanRecord,
      Json.PrintableAscii r.canonicalText.toList ∧
      Json.parse? r.canonicalText = some r.toJson.sortKeys ∧
      (r.canonicalText = s.canonicalText ↔ r = s) ∧
      (r.digest = s.digest ↔ r = s ∨ Sha256.Collide r.message s.message)) ∧
    ∀ p q : Plan,
      p.canonicalText = p.record.canonicalText ∧ p.digest = p.record.digest ∧
      (p.canonicalText = q.canonicalText ↔ p = q) ∧
      (p.digest = q.digest ↔ p = q ∨ Sha256.Collide p.record.message q.record.message) := by
  refine ⟨fun r s => ⟨?_, ?_, canonicalText_inj, digest_eq_iff⟩, fun p q =>
    ⟨p.canonicalText_record.symm, p.digest_record.symm, ?_, ?_⟩⟩
  · exact Json.printableAscii_canonical (faithful.exact r)
  · exact Json.parse?_canonical (faithful.exact r)
  · rw [← p.canonicalText_record, ← q.canonicalText_record, canonicalText_inj,
      Plan.record_injective.eq_iff]
  · rw [← p.digest_record, ← q.digest_record, digest_eq_iff, Plan.record_injective.eq_iff]

end PlanRecord

end CrudPlan
