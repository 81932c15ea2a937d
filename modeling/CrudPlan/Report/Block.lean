import CrudPlan.Batch
import CrudPlan.Report.Value
import CrudPlan.Text.Ansi

/-!
# Reports of a batch

* `Report.plan`, `Report.failure` and `Report.skipped` are the blocks that report one resource, and
  `Report.batch` puts the blocks of a batch below each other;
* `Report.writtenPlan` and `Report.writtenBatch` are these reports as far as the machine can write
  the numbers in them;
* `Report.summary` is the line of numbers at the end.

Colour only adds escape sequences around the lines of a report.
-/

namespace CrudPlan.Report

/-- The look of resolved resources. -/
def resolvedStyle : Ansi.Style := { colour := some .green }

/-- The look of resources that failed. -/
def failedStyle : Ansi.Style := { colour := some .red }

/-- The look of skipped resources. -/
def skippedStyle : Ansi.Style := { colour := some .brightBlack }

/-- The look of warnings. -/
def warningStyle : Ansi.Style := { colour := some .yellow }

/-- A style in bold. -/
def bold (style : Ansi.Style) : Ansi.Style := { style with bold := true }

/-- Lines below each other. -/
def lines (xs : List String) : String := "\n".intercalate xs

/-! ### Plans -/

/-- How an operation is requested. -/
def operation (o : Operation) : String :=
  let shown := o.verb ++ " " ++ textValue o.url
  if o.active then shown else shown ++ " (inactive)"

/-- An attribute that is only shown if its condition holds. -/
def shownIf (condition : Bool) (key shown : String) : List (String × String) :=
  if condition then [(key, shown)] else []

/-- The names of the predicates on errors. -/
def predicates (p : LifecyclePolicy) : List String :=
  (p.retryPredicates ++ p.abortPredicates).map HookRef.name

/-- The attributes that the block of a plan shows. -/
def attributes (p : Plan) : List (String × String) :=
  [("create", operation p.policy.create),
    ("read", operation p.policy.read),
    ("update", operation p.policy.update),
    ("delete", operation p.policy.delete),
    ("identity", textsValue p.identity.fields),
    ("id_format", textValue p.identity.idFormat.source),
    ("import_format", textsValue (p.identity.importFormats.map fun f => f.template.source)),
    ("mutex", optTextValue (p.mutex.map Lock.template)),
    ("upgrades", natsValue p.state.upgradeVersions)] ++
  shownIf (!(predicates p.policy).isEmpty) "predicates" (textsValue (predicates p.policy)) ++
  shownIf (!p.policy.flags.enabled.isEmpty) "flags" (textsValue p.policy.flags.enabled) ++
  shownIf (p.deprecationMessage != "") "deprecated" (textValue p.deprecationMessage)

/-- The block of a plan. -/
def plan (coloured : Bool) (p : Plan) : String :=
  let paint := Ansi.painter coloured
  lines (
    [paint (bold resolvedStyle) ("  # " ++ p.resource ++ " resolved"),
      paint resolvedStyle ("  + resource \"" ++ p.resource ++ "\" \x7b")] ++
    (align (attributes p)).map (fun (key, shown) =>
      paint resolvedStyle ("      " ++ key ++ " = " ++ shown)) ++
    [paint resolvedStyle "    \x7d"] ++
    p.warnings.map fun w => paint warningStyle ("  warning: " ++ w))

/-! ### Failures -/

/-- What the block of a failure says about its reason, in lines. -/
def reasons : Problem → List String
  | .unresolved _ issues => issues.map Issue.text
  | problem => [problem.message]

/-- The block of a failure. -/
def failure (coloured : Bool) (f : Failure) : String :=
  let paint := Ansi.painter coloured
  lines (
    paint (bold failedStyle) ("  # " ++ f.name ++ " failed to resolve") ::
    (reasons f.problem).map fun reason => paint failedStyle ("    ! " ++ reason))

/-- The block of a skipped resource. -/
def skipped (coloured : Bool) (name : String) : String :=
  Ansi.painter coloured skippedStyle ("  # " ++ name ++ " is excluded")

/-! ### Batches -/

/-- The blocks of a batch. -/
def blocks (coloured : Bool) (r : BatchResult) : List String :=
  r.plans.map (plan coloured) ++ r.failures.map (failure coloured) ++
    r.skipped.map (skipped coloured)

/-- The report of a batch, a blank line between each two blocks. -/
def batch (coloured : Bool) (r : BatchResult) : String :=
  match blocks coloured r with
  | [] => "No resources declared."
  | found => "\n\n".intercalate found

/-! ### Limits -/

/-- The first number of a plan that cannot be written in its block. -/
def overload? (p : Plan) : Option Overload := p.state.upgradeVersions.findSome? Overload.writing?

/-- The block of a plan, if the numbers in it can be written. -/
def writtenPlan (coloured : Bool) (p : Plan) : Except Overload String :=
  match overload? p with
  | some cause => .error cause
  | none => .ok (plan coloured p)

/-- The report of a batch, if the numbers in it can be written. -/
def writtenBatch (coloured : Bool) (r : BatchResult) : Except Overload String :=
  match r.plans.findSome? overload? with
  | some cause => .error cause
  | none => .ok (batch coloured r)

/-! ### Summaries -/

/-- A number with what it counts; coloured unless it is zero. -/
def count (coloured : Bool) (style : Ansi.Style) (n : Int) (what : String) : String :=
  Ansi.painter (coloured && n != 0) style (toString n ++ " " ++ what)

/-- The line of numbers at the end of a report. -/
def counts (coloured : Bool) (resolved failed skipped : Int) : String :=
  "Resolve: " ++ count coloured resolvedStyle resolved "resolved" ++ ", " ++
    count coloured failedStyle failed "failed" ++ ", " ++
    count coloured skippedStyle skipped "skipped" ++ "."

/-- The numbers of a batch as the line at the end of its report. -/
def summary (coloured : Bool) (s : BatchSummary) : String :=
  counts coloured s.resolved s.failed s.skipped

end CrudPlan.Report
