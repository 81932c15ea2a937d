import CrudPlan.Json.Basic
import CrudPlan.Template.ImportFormat

/-!
# Templates as documents

The JSON values that templates and import formats are dumped as. Both have the text and its
segments, and an import format also has its regular expression.
-/

namespace CrudPlan

namespace Segment

/-- The sort of a segment, as a dump names it. -/
def kind : Segment → String
  | .literal _ => "literal"
  | .token _ => "token"
  | .greedy _ => "greedy"

/-- The text or the name that a segment holds. -/
def value : Segment → String
  | .literal text => text
  | .token name => name
  | .greedy name => name

/-- The dump of a segment. -/
def toJson (s : Segment) : Json := .object [("kind", .text s.kind), ("value", .text s.value)]

end Segment

namespace Template

/-- The members that templates are dumped as. -/
def toMembers (t : Template) : List (String × Json) :=
  [("template", .text t.source), ("segments", .listOf Segment.toJson t.segments)]

/-- The dump of a template. -/
def toJson (t : Template) : Json := .object t.toMembers

end Template

/-- The dump of an import format. -/
def ImportFormat.toJson (f : ImportFormat) : Json :=
  .object (f.template.toMembers ++ [("pattern", .text f.pattern)])

end CrudPlan
