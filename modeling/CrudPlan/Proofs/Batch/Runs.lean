import CrudPlan.Proofs.Batch.Distribution

/-!
# Runs of a batch

A batch takes its descriptors in order. What becomes of a descriptor depends on itself and on the
names before it. One that has to be resolved, but is too much for the machine, ends the run, and
there is no result.

* `Batch.Fate` is what becomes of one descriptor, with a constructor for each way to end;
* `Batch.Run` goes through a list from fate to fate. `Batch.run_iff` says by induction that a batch
  gives what its run gives, under the names that it remembers;
* `Batch.attempt_distributes` adds what follows for plans, failures and skipped names;
* `Batch.attempt_archives` is a batch that is lost with one of its descriptors.
-/

namespace CrudPlan.Batch

/-! ### Fates -/

/-- One of the descriptors has the name and is not excluded. -/
def Taken (ds : List Descriptor) (name : String) : Prop :=
  ∃ d ∈ ds, d.lifecycle.exclude = false ∧ d.name = name

/-- A descriptor after others has to be resolved. -/
def Fresh (earlier : List Descriptor) (d : Descriptor) : Prop :=
  d.lifecycle.exclude = false ∧ ¬ Taken earlier d.name

/-- What becomes of a descriptor after others. -/
inductive Fate (mode : ResolverMode) (earlier : List Descriptor) (d : Descriptor) : Outcome → Prop
  /-- It is excluded. -/
  | skipped (hexclude : d.lifecycle.exclude = true) : Fate mode earlier d (.skipped d.name)
  /-- Its name is taken. -/
  | duplicate (hexclude : d.lifecycle.exclude = false) (htaken : Taken earlier d.name) :
    Fate mode earlier d (.failed ⟨d.name, .duplicateResource d.name⟩)
  /-- It has a plan by itself. -/
  | resolved {plan : Plan} (hfresh : Fresh earlier d) (hplan : Plan.attempt mode d = .ok plan) :
    Fate mode earlier d (.resolved plan)
  /-- It is refused by itself. -/
  | refused {issues : List Issue} (hfresh : Fresh earlier d)
    (hissues : Plan.attempt mode d = .error (.unresolved d.name issues)) :
    Fate mode earlier d (.failed ⟨d.name, .unresolved (some d.name) issues⟩)

/-- How a batch goes on after some descriptors: the outcomes of the others, or an overload. -/
inductive Run (mode : ResolverMode) :
    List Descriptor → List Descriptor → Except Overload (List Outcome) → Prop
  /-- There are no others. -/
  | done {earlier : List Descriptor} : Run mode earlier [] (.ok [])
  /-- The first of the others has a fate. -/
  | next {earlier rest : List Descriptor} {d : Descriptor} {o : Outcome}
    {run : Except Overload (List Outcome)} (hfate : Fate mode earlier d o)
    (hrest : Run mode (earlier ++ [d]) rest run) : Run mode earlier (d :: rest) (run.map (o :: ·))
  /-- The first of the others is too much for the machine. -/
  | stop {earlier rest : List Descriptor} {d : Descriptor} {cause : Overload}
    (hfresh : Fresh earlier d) (hcause : Plan.attempt mode d = .error (.overloaded cause)) :
    Run mode earlier (d :: rest) (.error cause)

variable {mode : ResolverMode} {earlier ds : List Descriptor} {seen : List String} {d : Descriptor}
  {o : Outcome}

theorem taken_append_singleton_iff {name : String} :
    Taken (earlier ++ [d]) name ↔
      Taken earlier name ∨ (d.lifecycle.exclude = false ∧ d.name = name) := by
  simp [Taken, or_and_right, exists_or]

/-- The machine can tell what becomes of a descriptor, if the names in `seen` are taken. -/
def Settled (seen : List String) (d : Descriptor) : Prop :=
  d.lifecycle.exclude = true ∨ d.name ∈ seen ∨ StateUpgrades.overload? d.stateRules = none

/-- **A descriptor that can be settled has one fate.** -/
theorem fate_iff (hseen : ∀ name, name ∈ seen ↔ Taken earlier name) :
    Fate mode earlier d o ↔ Settled seen d ∧ o = outcomeIf mode (seen.contains d.name) d := by
  have hcontains : seen.contains d.name = true ↔ Taken earlier d.name := by
    rw [List.contains_iff_mem, hseen]
  constructor
  · intro h
    cases h with
    | skipped hexclude => exact ⟨.inl hexclude, by rw [outcomeIf, if_pos hexclude]⟩
    | duplicate hexclude htaken =>
      refine ⟨.inr (.inl ((hseen _).2 htaken)), ?_⟩
      rw [outcomeIf, hexclude, if_neg Bool.false_ne_true, if_pos (hcontains.2 htaken)]
    | resolved hfresh hplan =>
      obtain ⟨hnone, hplan⟩ := Plan.attempt_eq_ok_iff.1 hplan
      refine ⟨.inr (.inr hnone), ?_⟩
      rw [outcomeIf, hfresh.1, if_neg Bool.false_ne_true, if_neg (hcontains.not.2 hfresh.2),
        outcome, hplan]
    | refused hfresh hissues =>
      obtain ⟨hnone, -, hissues⟩ := Plan.attempt_eq_unresolved_iff.1 hissues
      refine ⟨.inr (.inr hnone), ?_⟩
      rw [outcomeIf, hfresh.1, if_neg Bool.false_ne_true, if_neg (hcontains.not.2 hfresh.2),
        outcome, hissues]
  · rintro ⟨hsettled, rfl⟩
    rw [outcomeIf]
    split_ifs with hexclude htaken
    · exact .skipped hexclude
    · exact .duplicate (Bool.eq_false_iff.2 hexclude) (hcontains.1 htaken)
    · have hfresh : Fresh earlier d := ⟨Bool.eq_false_iff.2 hexclude, hcontains.not.1 htaken⟩
      have hnone : StateUpgrades.overload? d.stateRules = none :=
        (hsettled.resolve_left hexclude).resolve_left fun hmem =>
          htaken (List.contains_iff_mem.2 hmem)
      rw [outcome]
      cases hplan : Plan.resolve mode d with
      | ok plan => exact .resolved hfresh (Plan.attempt_eq_ok_iff.2 ⟨hnone, hplan⟩)
      | error issues =>
        exact .refused hfresh (Plan.attempt_eq_unresolved_iff.2 ⟨hnone, rfl, hplan⟩)

/-- A descriptor that cannot be settled is fresh, and stops the run. -/
theorem not_settled_iff (hseen : ∀ name, name ∈ seen ↔ Taken earlier name) :
    ¬ Settled seen d ↔
      Fresh earlier d ∧ ∃ cause, StateUpgrades.overload? d.stateRules = some cause := by
  rw [Settled, not_or, not_or, hseen, Bool.not_eq_true, Fresh, and_assoc,
    ← Option.ne_none_iff_exists']

/-! ### Runs -/

/-- The outcomes of descriptors, or the first overload among them, if the names in `seen` are
taken. -/
def runFrom (mode : ResolverMode) (seen : List String) (ds : List Descriptor) :
    Except Overload (List Outcome) :=
  match overloadFrom? seen ds with
  | some cause => .error cause
  | none => .ok (outcomesFrom mode seen ds)

theorem attempt_eq_map_runFrom : attempt mode ds = (runFrom mode [] ds).map .ofOutcomes := by
  rw [attempt, overload?, runFrom]
  cases overloadFrom? [] ds <;> rfl

theorem freshFrom_cons :
    freshFrom seen (d :: ds) =
      if d.lifecycle.exclude || seen.contains d.name then freshFrom (seenAfter seen d) ds
      else d :: freshFrom (seenAfter seen d) ds := by
  rw [freshFrom, seenAfter]
  split_ifs <;> simp_all

/-- The descriptors that have to be resolved are those that are fresh where they stand. -/
theorem mem_freshFrom_iff (hseen : ∀ name, name ∈ seen ↔ Taken earlier name) :
    d ∈ freshFrom seen ds ↔
      ∃ before after, ds = before ++ d :: after ∧ Fresh (earlier ++ before) d := by
  induction ds generalizing earlier seen with
  | nil => simp [freshFrom]
  | cons e rest ih =>
    have hafter : ∀ name, name ∈ seenAfter seen e ↔ Taken (earlier ++ [e]) name := by
      intro name
      rw [mem_seenAfter_iff, hseen, taken_append_singleton_iff]
    have hlater : d ∈ freshFrom (seenAfter seen e) rest ↔
        ∃ before after, rest = before ++ d :: after ∧ Fresh (earlier ++ e :: before) d := by
      simp only [ih hafter, List.append_assoc, List.singleton_append]
    have hfirst : (e.lifecycle.exclude || seen.contains e.name) = false ↔ Fresh earlier e := by
      rw [Bool.or_eq_false_iff, Fresh, ← hseen, ← List.contains_iff_mem, Bool.not_eq_true]
    have hcases : d ∈ freshFrom seen (e :: rest) ↔
        (Fresh earlier e ∧ d = e) ∨ d ∈ freshFrom (seenAfter seen e) rest := by
      rw [freshFrom_cons, ← hfirst]
      cases e.lifecycle.exclude || seen.contains e.name <;> simp
    rw [hcases, hlater]
    constructor
    · rintro (⟨hfresh, rfl⟩ | ⟨before, after, rfl, hfresh⟩)
      · exact ⟨[], rest, rfl, by rwa [List.append_nil]⟩
      · exact ⟨e :: before, after, rfl, hfresh⟩
    · rintro ⟨before, after, hsplit, hfresh⟩
      cases before with
      | nil =>
        obtain ⟨rfl, rfl⟩ := List.cons.inj hsplit
        exact .inl ⟨by rwa [List.append_nil] at hfresh, rfl⟩
      | cons x before =>
        obtain ⟨rfl, rfl⟩ := List.cons.inj hsplit
        exact .inr ⟨before, after, rfl, hfresh⟩

/-- Before a batch no name is taken. -/
theorem taken_nil_iff (name : String) : name ∈ ([] : List String) ↔ Taken [] name := by
  simp [Taken]

/-- A batch is not too much for the machine if no descriptor is that it has to resolve. -/
theorem overload?_eq_none_iff :
    overload? ds = none ↔ ∀ before d after, ds = before ++ d :: after → Fresh before d →
      StateUpgrades.overload? d.stateRules = none := by
  simp only [overload?, overloadFrom?, List.findSome?_eq_none_iff, mem_freshFrom_iff taken_nil_iff,
    List.nil_append]
  constructor
  · intro h before d after hsplit hfresh
    exact h d ⟨before, after, hsplit, hfresh⟩
  · rintro h d ⟨before, after, hsplit, hfresh⟩
    exact h before d after hsplit hfresh

theorem runFrom_cons_of_settled (h : Settled seen d) :
    runFrom mode seen (d :: ds) =
      (runFrom mode (seenAfter seen d) ds).map (outcomeIf mode (seen.contains d.name) d :: ·) := by
  have hfirst : overloadFrom? seen (d :: ds) = overloadFrom? (seenAfter seen d) ds := by
    rw [overloadFrom?, freshFrom_cons]
    split_ifs with hknown
    · rfl
    · rw [Bool.or_eq_true, not_or, List.contains_iff_mem] at hknown
      rw [List.findSome?_cons, (h.resolve_left hknown.1).resolve_left hknown.2]
      rfl
  rw [runFrom, hfirst, outcomesFrom_cons, runFrom]
  cases overloadFrom? (seenAfter seen d) ds <;> rfl

theorem runFrom_cons_of_overload {cause : Overload} (hexclude : d.lifecycle.exclude = false)
    (hnew : d.name ∉ seen) (hcause : StateUpgrades.overload? d.stateRules = some cause) :
    runFrom mode seen (d :: ds) = .error cause := by
  have hfirst : freshFrom seen (d :: ds) = d :: freshFrom (seenAfter seen d) ds := by
    rw [freshFrom_cons, if_neg (by simp [hexclude, hnew])]
  rw [runFrom, overloadFrom?, hfirst, List.findSome?_cons, hcause]

/-- **A batch gives what its run gives**, as it remembers the names that are taken. -/
theorem run_iff {run : Except Overload (List Outcome)}
    (hseen : ∀ name, name ∈ seen ↔ Taken earlier name) :
    Run mode earlier ds run ↔ run = runFrom mode seen ds := by
  induction ds generalizing earlier seen run with
  | nil =>
    constructor
    · rintro ⟨⟩
      rfl
    · rintro rfl
      exact .done
  | cons d rest ih =>
    have hafter : ∀ name, name ∈ seenAfter seen d ↔ Taken (earlier ++ [d]) name := by
      intro name
      rw [mem_seenAfter_iff, hseen, taken_append_singleton_iff]
    by_cases hsettled : Settled seen d
    · rw [runFrom_cons_of_settled hsettled]
      constructor
      · intro h
        cases h with
        | next hfate hrest => rw [((fate_iff hseen).1 hfate).2, (ih hafter).1 hrest]
        | stop hfresh hcause =>
          have hoverload := Plan.attempt_eq_overloaded_iff.1 hcause
          have hstuck := (not_settled_iff hseen).2 ⟨hfresh, _, hoverload⟩
          exact absurd hsettled hstuck
      · rintro rfl
        exact .next ((fate_iff hseen).2 ⟨hsettled, rfl⟩) ((ih hafter).2 rfl)
    · obtain ⟨hfresh, cause, hcause⟩ := (not_settled_iff hseen).1 hsettled
      have hnew : d.name ∉ seen := (hseen d.name).not.2 hfresh.2
      rw [runFrom_cons_of_overload hfresh.1 hnew hcause]
      constructor
      · intro h
        cases h with
        | next hfate hrest => exact absurd ((fate_iff hseen).1 hfate).1 hsettled
        | stop hfresh' hcause' =>
          rw [Plan.attempt_eq_overloaded_iff, hcause] at hcause'
          cases hcause'
          rfl
      · rintro rfl
        exact .stop hfresh (Plan.attempt_eq_overloaded_iff.2 hcause)

/-! ### Results -/

/-- A batch gives what its run gives. -/
theorem attempt_eq_iff {answer : Except Overload BatchResult} :
    attempt mode ds = answer ↔ ∃ run, Run mode [] ds run ∧ answer = run.map .ofOutcomes := by
  simp only [run_iff taken_nil_iff, exists_eq_left, attempt_eq_map_runFrom, eq_comm]

theorem attempt_eq_error_iff {cause : Overload} :
    attempt mode ds = .error cause ↔ Run mode [] ds (.error cause) := by
  rw [attempt_eq_iff]
  constructor
  · rintro ⟨run, hrun, he⟩
    cases run with
    | error found =>
      cases he
      exact hrun
    | ok outcomes => cases he
  · intro h
    exact ⟨_, h, rfl⟩

theorem attempt_eq_ok_iff {r : BatchResult} :
    attempt mode ds = .ok r ↔ overload? ds = none ∧ r = resolve mode ds := by
  rw [attempt]
  cases overload? ds <;> simp [eq_comm]

/-- Excluded descriptors are not resolved. -/
theorem freshFrom_filter :
    freshFrom seen (ds.filter fun d => !d.lifecycle.exclude) = freshFrom seen ds := by
  induction ds generalizing seen with
  | nil => rfl
  | cons d rest ih =>
    cases hexclude : d.lifecycle.exclude with
    | true =>
      have hseen : seenAfter seen d = seen := by rw [seenAfter, if_pos hexclude]
      rw [List.filter_cons_of_neg (by simp [hexclude]), ih, freshFrom_cons, hexclude, hseen]
      rfl
    | false =>
      rw [List.filter_cons_of_pos (by simp [hexclude]), freshFrom_cons, freshFrom_cons, ih]

theorem freshFrom_append (more : List Descriptor) :
    freshFrom seen (ds ++ more) =
      freshFrom seen ds ++ freshFrom (ds.foldl seenAfter seen) more := by
  induction ds generalizing seen with
  | nil => rfl
  | cons d rest ih =>
    rw [List.cons_append, freshFrom_cons, freshFrom_cons, ih, List.foldl_cons]
    split_ifs <;> rfl

/-- Without the excluded descriptors there are the same plans and failures. -/
theorem exists_attempt_filter {r : BatchResult} (h : attempt mode ds = .ok r) :
    ∃ s, attempt mode (ds.filter fun d => !d.lifecycle.exclude) = .ok s ∧
      s.plans = r.plans ∧ s.failures = r.failures := by
  obtain ⟨hnone, rfl⟩ := attempt_eq_ok_iff.1 h
  rw [overload?, overloadFrom?, ← freshFrom_filter, ← overloadFrom?, ← overload?] at hnone
  exact ⟨_, attempt_eq_ok_iff.2 ⟨hnone, rfl⟩, filterMap_outcomesFrom_filter fun _ => rfl,
    filterMap_outcomesFrom_filter fun _ => rfl⟩

/-- A batch that has a result begins with one that has. -/
theorem exists_attempt_of_append {more : List Descriptor} {s : BatchResult}
    (h : attempt mode (ds ++ more) = .ok s) :
    ∃ r, attempt mode ds = .ok r ∧ r.IsPrefixOf s := by
  obtain ⟨hnone, rfl⟩ := attempt_eq_ok_iff.1 h
  rw [overload?, overloadFrom?, freshFrom_append, List.findSome?_append, Option.or_eq_none_iff] at hnone
  exact ⟨_, attempt_eq_ok_iff.2 ⟨hnone.1, rfl⟩, isPrefixOf_resolve_append more⟩

/-- **A batch distributes its descriptors, each by itself, or is lost as a whole.** It gives what
its run gives: from fate to fate, up to a descriptor that is too much for the machine. The lists of
a result follow the order of the descriptors and have one entry for each, no two plans are of one
resource, excluded descriptors do not matter to the others, and more descriptors only add entries at
the end. -/
theorem attempt_distributes (mode : ResolverMode) (ds more : List Descriptor) :
    (∀ answer, attempt mode ds = answer ↔
      ∃ run, Run mode [] ds run ∧ answer = run.map .ofOutcomes) ∧
    (∀ r, attempt mode ds = .ok r →
      r.InOrderOf (ds.map Descriptor.name) ∧ r.size = ds.length ∧
      (r.plans.map Plan.resource).Nodup ∧ (r.ok ↔ r.failures = []) ∧
      ∃ s, attempt mode (ds.filter fun d => !d.lifecycle.exclude) = .ok s ∧
        s.plans = r.plans ∧ s.failures = r.failures) ∧
    ∀ s, attempt mode (ds ++ more) = .ok s → ∃ r, attempt mode ds = .ok r ∧ r.IsPrefixOf s := by
  refine ⟨fun _ => attempt_eq_iff, fun r h => ?_, fun _ h => exists_attempt_of_append h⟩
  have hfilter := exists_attempt_filter h
  obtain ⟨-, rfl⟩ := attempt_eq_ok_iff.1 h
  exact ⟨inOrderOf_resolve, size_resolve, nodup_plans_outcomesFrom.1, BatchResult.ok_iff, hfilter⟩

/-- Two disks of which one is excluded, and two images: one is refused, so the other one is late. -/
def stock : List Descriptor := [
  { about := { name := "Disk" }, endpoints := { baseUrl := "old/disks" },
    lifecycle := { exclude := true } },
  { about := { name := "Disk" }, endpoints := { baseUrl := "disks" } },
  { about := { name := "Image" }, endpoints := { baseUrl := "images" },
    lifecycle := { excludeResource := true } },
  { about := { name := "Image" }, endpoints := { baseUrl := "images" } }]

/-- Every way to end occurs in one batch. -/
theorem attempt_distributes_stock :
    ∃ r, attempt {} stock = .ok r ∧
      r.plans.map Plan.resource = ["Disk"] ∧
      (∃ issue, r.failures = [⟨"Image", .unresolved (some "Image") [issue]⟩,
        ⟨"Image", .duplicateResource "Image"⟩]) ∧
      r.skipped = ["Disk"] ∧
      r.InOrderOf ["Disk", "Disk", "Image", "Image"] ∧ r.size = 4 ∧
      ∃ run, Run {} [] stock run ∧ run.map .ofOutcomes = .ok r := by
  have hanswer : attempt {} stock = .ok (resolve {} stock) :=
    attempt_eq_ok_iff.2 ⟨by decide, rfl⟩
  obtain ⟨hrun, hlists, -⟩ := attempt_distributes {} stock []
  obtain ⟨horder, hsize, -⟩ := hlists _ hanswer
  obtain ⟨run, hrun, he⟩ := (hrun _).1 hanswer
  have hplans : (resolve {} stock).plans.map Plan.resource = ["Disk"] := by decide +kernel
  have hfailures : (resolve {} stock).failures =
      [⟨"Image", .unresolved (some "Image") [⟨.conflictingOverride, "policy", "exclude_resource",
        "exclude_resource requires an iam_policy; nothing would be generated"⟩]⟩,
        ⟨"Image", .duplicateResource "Image"⟩] := by decide +kernel
  have hskipped : (resolve {} stock).skipped = ["Disk"] := by decide +kernel
  exact ⟨_, hanswer, hplans, ⟨_, hfailures⟩, hskipped, horder, hsize, run, hrun, he.symm⟩

/-- A disk, and an archive that has been through more versions than can be listed. -/
def archives : List Descriptor := [
  { about := { name := "Disk" }, endpoints := { baseUrl := "disks" } },
  { about := { name := "Archive" }, endpoints := { baseUrl := "archives" },
    stateRules := { schemaVersion := Overload.itemLimit, upgraders := true } }]

/-- **A batch may be lost with one of its descriptors**, though another one has a plan. -/
theorem attempt_archives :
    attempt {} archives = .error .tooManyItems ∧
      ∃ d ∈ archives, ∃ plan, Plan.attempt {} d = .ok plan := by
  refine ⟨?_, _, List.mem_cons_self, exists_eq_ok_of_isSome (by decide +kernel)⟩
  have hoverload : overload? archives = some .tooManyItems := by decide
  rw [attempt, hoverload]

end CrudPlan.Batch
