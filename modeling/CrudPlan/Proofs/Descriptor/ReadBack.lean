import CrudPlan.Proofs.Descriptor.Document

/-!
# What was read is read again from its dump

Reading is free: members may be left out, and truth values and integers have many spellings. A dump
is not, since it has every member in one spelling. So a value that was read from any document is
read again from its dump, as it is.

* `ReadsBack` says so of a reader and a dump, and adds which values documents stand for and which
  members a dump has;
* `ReadsBack.of_lawful` derives it from two facts: the reader yields lawful values only, and a
  lawful value is what its dump is read as;
* `dumps_read_back` is the law for descriptors and for every record inside them.
-/

namespace CrudPlan

variable {α : Type} {read : Reader α} {dump : α → Json} {keys : List String} {Lawful : α → Prop}

/-- A reader takes back what is dumped of any value that it has read. -/
structure ReadsBack (read : Reader α) (dump : α → Json) (keys : List String)
    (Lawful : α → Prop) : Prop where
  /-- Whatever document a value was read from, it is read again from its dump. -/
  read_dump : ∀ document a, read document = .valid a → read (dump a) = .valid a
  /-- The values that are read from documents are those that follow the rules. -/
  readable_iff : ∀ a, (∃ document, read document = .valid a) ↔ Lawful a
  /-- A dump has every member, in the order of the fields. -/
  members : ∀ a, ∃ members, dump a = .object members ∧ members.map Prod.fst = keys

theorem ReadsBack.of_lawful (hyields : read.Yields Lawful)
    (hread : ∀ {a}, Lawful a → read (dump a) = .valid a)
    (hmembers : ∀ a, ∃ members, dump a = .object members ∧ members.map Prod.fst = keys) :
    ReadsBack read dump keys Lawful where
  read_dump := fun document a h => hread (hyields document a h)
  readable_iff := fun a => ⟨fun ⟨document, h⟩ => hyields document a h, fun h => ⟨_, hread h⟩⟩
  members := hmembers

/-- **Reading undoes dumping on everything that was read:** descriptors, their fields, virtual
fields of each type and of the type that they name, nested queries, access policies and timeouts. -/
theorem dumps_read_back :
    ReadsBack Descriptor.read Descriptor.toJson Descriptor.keys Descriptor.Lawful ∧
    ReadsBack Field.read Field.toJson Field.keys Field.Lawful ∧
    (∀ type, ReadsBack (VirtualField.readAs type) VirtualField.toJson VirtualField.keys
      fun f => f.Lawful ∧ f.default.type = type) ∧
    ReadsBack VirtualField.read VirtualField.toJson VirtualField.keys VirtualField.Lawful ∧
    ReadsBack NestedQuery.read NestedQuery.toJson NestedQuery.memberKeys NestedQuery.Lawful ∧
    ReadsBack IamPolicy.read IamPolicy.toJson IamPolicy.keys (fun _ => True) ∧
    ReadsBack Timeouts.read Timeouts.toJson Timeouts.keys Timeouts.Lawful := by
  have htyped : ∀ type, ReadsBack (VirtualField.readAs type) VirtualField.toJson VirtualField.keys
      fun f => f.Lawful ∧ f.default.type = type := by
    refine fun type => .of_lawful (VirtualField.yields_lawful_readAs type) ?_ fun _ => ⟨_, rfl, rfl⟩
    rintro f ⟨h, rfl⟩
    exact VirtualField.readAs_toJson h
  refine ⟨?_, ?_, htyped, ?_, ?_, ?_, ?_⟩
  · exact .of_lawful Descriptor.yields_lawful Descriptor.read_toJson
      fun d => ⟨_, rfl, Descriptor.map_fst_toMembers d⟩
  · exact .of_lawful Field.yields_lawful Field.read_toJson fun _ => ⟨_, rfl, rfl⟩
  · exact .of_lawful VirtualField.yields_lawful VirtualField.read_toJson fun _ => ⟨_, rfl, rfl⟩
  · exact .of_lawful NestedQuery.yields_lawful NestedQuery.read_toJson fun _ => ⟨_, rfl, rfl⟩
  · exact .of_lawful (fun _ _ _ => trivial) (fun _ => IamPolicy.read_toJson _)
      fun _ => ⟨_, rfl, rfl⟩
  · exact .of_lawful Timeouts.yields_lawful Timeouts.read_toJson fun _ => ⟨_, rfl, rfl⟩

end CrudPlan
