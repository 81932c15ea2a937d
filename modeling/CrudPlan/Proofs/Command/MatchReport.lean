import CrudPlan.Proofs.Command.Running
import CrudPlan.Proofs.Plan.Consistency
import CrudPlan.Proofs.Plan.Writable
import CrudPlan.Proofs.Product.ByName
import CrudPlan.Proofs.Text.Ansi

/-!
# What is reported of an id

The command that matches an id goes through the import formats of a resource and reports the first
that fits, with the values that it finds.

* `Template.Writes` says that a template makes up an id with some values, and `FirstMatch` that a
  format is the first of a list to do so;
* `CommandContext.firstMatch_of_firstMatch?` and `CommandContext.firstMatch?_eq_none_iff`: the
  search ends with the first match, and finds nothing only if there is none;
* `matchLines` are the lines of the report. `shown_matchLines`: they are shown as they are on a
  terminal, and without their paint on every other output if there is no escape character in the id;
* `Invocation.matchId_answers` puts together what a command line answers.
  `Invocation.matchId_colouredId` shows why the id must not have escape characters: on an output
  that is no terminal a value is shown without its escape sequences, and no longer makes up the id.
-/

namespace CrudPlan

/-! ### Ids and the characters in them -/

/-- The template makes up an id with some values. -/
def Template.Writes (t : Template) (id : String) : Prop := ∃ values, t.ValidFor id values

/-- An id has every character of its values, and of the literal text around them. -/
theorem Splits.subset {segments : List Segment} {s : List Char} {values : FieldValues}
    (h : Splits segments s values) :
    (∀ v ∈ values, v.2.toList ⊆ s) ∧ ∀ text, .literal text ∈ segments → text.toList ⊆ s := by
  induction h with
  | nil => exact ⟨nofun, nofun⟩
  | literal h ih =>
    obtain ⟨hvalues, htexts⟩ := ih
    refine ⟨fun v hv => List.subset_append_of_subset_right _ (hvalues v hv), fun text htext => ?_⟩
    rcases List.mem_cons.1 htext with he | hrest
    · cases he
      exact List.subset_append_left _ _
    · exact List.subset_append_of_subset_right _ (htexts text hrest)
  | token hname hne hall h ih =>
    obtain ⟨hvalues, htexts⟩ := ih
    refine ⟨List.forall_mem_cons.2 ⟨?_, fun v hv => ?_⟩, fun text htext => ?_⟩
    · rw [String.toList_ofList]
      exact List.subset_append_left _ _
    · exact List.subset_append_of_subset_right _ (hvalues v hv)
    · rcases List.mem_cons.1 htext with rfl | hrest
      · cases hname
      · exact List.subset_append_of_subset_right _ (htexts text hrest)

/-- Identifiers have no escape characters. -/
theorem Segment.escape_notMem_of_isIdentifier {name : String} (h : IsIdentifier name) :
    Ansi.escape ∉ name.toList :=
  notMem_of_isIdentifier h (by decide) (by decide)

theorem Segment.isIdentifier_of_tokenName? {s : Segment} {name : String} (h : s.Lawful)
    (hname : s.tokenName? = some name) : IsIdentifier name := by
  cases s with
  | literal text => cases hname
  | token name => cases hname; exact h
  | greedy name => cases hname; exact h

/-- The text of a token has no characters but braces, a percent sign and those of its name. -/
theorem Segment.escape_notMem_text {s : Segment} {name : String} (h : s.Lawful)
    (hname : s.tokenName? = some name) : Ansi.escape ∉ s.text.toList := by
  have hclear := escape_notMem_of_isIdentifier (isIdentifier_of_tokenName? h hname)
  cases s with
  | literal text => cases hname
  | token name => cases hname; simpa [text, Ansi.escape] using hclear
  | greedy name => cases hname; simpa [text, Ansi.escape] using hclear

theorem Template.isIdentifier_of_mem_tokens {source : String} {t : Template}
    (h : compile source = .ok t) {name : String} (hname : name ∈ t.tokens) :
    Segment.IsIdentifier name := by
  obtain ⟨s, hs, htoken⟩ := List.mem_filterMap.1 hname
  exact Segment.isIdentifier_of_tokenName? ((compile_eq_ok_iff.1 h).2.1.lawful s hs) htoken

/-- A template has no escape characters but those of its literal text. -/
theorem Template.escape_notMem_source {source : String} {t : Template}
    (h : compile source = .ok t)
    (hliteral : ∀ text, .literal text ∈ t.segments → Ansi.escape ∉ text.toList) :
    Ansi.escape ∉ t.source.toList := by
  obtain ⟨hsource, hwf, hrender⟩ := compile_eq_ok_iff.1 h
  rw [hsource, ← hrender, toList_render, List.mem_flatMap]
  rintro ⟨s, hs, hescape⟩
  rw [← Segment.toList_text] at hescape
  obtain ⟨text, rfl⟩ | ⟨name, hname⟩ := s.literal_or_token
  · exact hliteral text hs hescape
  · exact Segment.escape_notMem_text (hwf.lawful s hs) hname hescape

/-! ### The lines of a report -/

/-- The lines that report a match. -/
def matchLines (coloured : Bool) (f : ImportFormat) (values : FieldValues) : List String :=
  Ansi.painter coloured Report.resolvedStyle ("Matched " ++ f.template.source) ::
    values.map fun v => "  " ++ v.1 ++ " = " ++ v.2

/-- A line is shown as it is on a terminal. -/
theorem Event.shown_true (line : String) : shown true line = line ++ "\n" := rfl

theorem Event.shown_of_clear {line : String} (h : Ansi.escape ∉ line.toList) (terminal : Bool) :
    shown terminal line = line ++ "\n" := by
  cases terminal with
  | true => rfl
  | false => rw [shown, if_neg Bool.false_ne_true, Ansi.strip_of_clear h]

/-- Paint reaches a terminal only. -/
theorem Event.shown_painter {text : String} (h : Ansi.escape ∉ text.toList)
    (coloured terminal : Bool) (style : Ansi.Style) :
    shown terminal (Ansi.painter coloured style text) =
      Ansi.painter (coloured && terminal) style text ++ "\n" := by
  cases terminal with
  | true => rw [shown_true, Bool.and_true]
  | false =>
    rw [shown, if_neg Bool.false_ne_true, Ansi.strip_painter h, Bool.and_false, Ansi.painter,
      if_neg Bool.false_ne_true]

section Lines

variable {source id : String} {f : ImportFormat} {values : FieldValues}

/-- An import format that makes up an id without escape characters has none itself. -/
theorem ImportFormat.escape_notMem_source (hcompile : ImportFormat.compile source = .ok f)
    (hvalid : f.template.ValidFor id values) (hid : Ansi.escape ∉ id.toList) :
    Ansi.escape ∉ f.template.source.toList := by
  obtain ⟨htemplate, hnodup⟩ := ImportFormat.compile_eq_ok_iff.1 hcompile
  have hsubset := ((Template.validFor_iff_splits hnodup).1 hvalid).subset
  exact Template.escape_notMem_source htemplate fun text htext hescape =>
    hid (hsubset.2 text htext hescape)

theorem escape_notMem_valueLine (hcompile : ImportFormat.compile source = .ok f)
    (hvalid : f.template.ValidFor id values) (hid : Ansi.escape ∉ id.toList)
    {v : String × String} (hv : v ∈ values) :
    Ansi.escape ∉ ("  " ++ v.1 ++ " = " ++ v.2).toList := by
  obtain ⟨htemplate, hnodup⟩ := ImportFormat.compile_eq_ok_iff.1 hcompile
  have hvalue : Ansi.escape ∉ v.2.toList := fun hescape =>
    hid (((Template.validFor_iff_splits hnodup).1 hvalid).subset.1 v hv hescape)
  have hname : v.1 ∈ f.template.tokens := hvalid.admissible.names ▸ List.mem_map_of_mem hv
  have hidentifier := Template.isIdentifier_of_mem_tokens htemplate hname
  simp only [String.toList_append, List.mem_append, not_or]
  exact ⟨⟨⟨by decide, Segment.escape_notMem_of_isIdentifier hidentifier⟩, by decide⟩, hvalue⟩

/-- **A report is shown as it is** on a terminal, and on any other output but for the paint if there
is no escape character in the id. -/
theorem shown_matchLines (hcompile : ImportFormat.compile source = .ok f)
    (hvalid : f.template.ValidFor id values) {terminal : Bool}
    (hexact : terminal = true ∨ Ansi.escape ∉ id.toList) (coloured : Bool) :
    (matchLines coloured f values).map (Event.shown terminal) =
      (matchLines (coloured && terminal) f values).map (· ++ "\n") := by
  rcases hexact with rfl | hid
  · rw [Bool.and_true]
    exact List.map_congr_left fun line _ => Event.shown_true line
  · have hsource := ImportFormat.escape_notMem_source hcompile hvalid hid
    have htitle : Ansi.escape ∉ ("Matched " ++ f.template.source).toList := by
      rw [String.toList_append, List.mem_append, not_or]
      exact ⟨by decide, hsource⟩
    rw [matchLines, matchLines, List.map_cons, List.map_cons, Event.shown_painter htitle,
      List.map_map, List.map_map]
    refine congrArg _ (List.map_congr_left fun v hv => ?_)
    exact Event.shown_of_clear (escape_notMem_valueLine hcompile hvalid hid hv) terminal

end Lines

/-! ### The first match -/

/-- The first format of a list that makes up an id, with values for it. -/
structure FirstMatch (formats : List ImportFormat) (id : String) (f : ImportFormat)
    (values : FieldValues) : Prop where
  /-- No format before it makes up the id. -/
  first : ∃ before after, formats = before ++ f :: after ∧
    ∀ g ∈ before, ¬ g.template.Writes id
  /-- The values are for the tokens of the template, in order, and make up the id. -/
  valid : f.template.ValidFor id values
  /-- No token occurs twice. -/
  once : f.template.tokens.Nodup

namespace CommandContext

variable {formats : List ImportFormat} {id : String} {f : ImportFormat} {values : FieldValues}

theorem firstMatch_of_firstMatch?
    (hcompile : ∀ f ∈ formats, ImportFormat.compile f.template.source = .ok f)
    (h : firstMatch? formats id = some (f, values)) : FirstMatch formats id f values := by
  rw [firstMatch?, List.findSome?_eq_some_iff] at h
  obtain ⟨before, g, after, rfl, hfound, hbefore⟩ := h
  obtain ⟨found, hvalues, he⟩ := Option.map_eq_some_iff.1 hfound
  cases he
  have hf := hcompile f (by simp)
  refine ⟨⟨before, after, rfl, fun g hg => ?_⟩,
    ((ImportFormat.values?_eq_some_iff hf).1 hvalues).1, (ImportFormat.compile_eq_ok_iff.1 hf).2⟩
  have hnone := Option.map_eq_none_iff.1 (hbefore g hg)
  rintro ⟨other, hother⟩
  exact (ImportFormat.values?_eq_none_iff (hcompile g (List.mem_append_left _ hg))).1 hnone other
    hother

theorem firstMatch?_eq_none_iff
    (hcompile : ∀ f ∈ formats, ImportFormat.compile f.template.source = .ok f) :
    firstMatch? formats id = none ↔ ∀ f ∈ formats, ¬ f.template.Writes id := by
  rw [firstMatch?, List.findSome?_eq_none_iff]
  refine forall₂_congr fun f hf => ?_
  rw [Option.map_eq_none_iff, ImportFormat.values?_eq_none_iff (hcompile f hf), Template.Writes,
    not_exists]

/-! ### Answers -/

/-- A run answers whether one of the formats makes up the id, and reports the first that does. -/
structure MatchAnswer (coloured : Bool) (formats : List ImportFormat) (id : String)
    (t : Transcript) : Prop where
  /-- It succeeds if a format makes up the id. -/
  success : t.exitCode = 0 ↔ ∃ f ∈ formats, f.template.Writes id
  /-- Then its output is the report of the first such format, as it is shown on the device, and
  that is as it is on a terminal, or if there is no escape character in the id. -/
  report : t.exitCode = 0 → ∃ f values, FirstMatch formats id f values ∧ ∀ terminal,
    t.output terminal = String.join ((matchLines coloured f values).map (Event.shown terminal)) ∧
    (terminal = true ∨ Ansi.escape ∉ id.toList →
      t.output terminal =
        String.join ((matchLines (coloured && terminal) f values).map (· ++ "\n")))
  /-- Otherwise it lists nothing. -/
  failure : t.exitCode ≠ 0 → t.exitCode = 1 ∧ ∀ terminal, t.output terminal = ""

variable {coloured : Bool} {t u : Transcript}

theorem MatchAnswer.congr (hu : MatchAnswer coloured formats id u) (h : t.SameAnswer u) :
    MatchAnswer coloured formats id t := by
  obtain ⟨hsuccess, hreport, hfailure⟩ := hu
  rw [← h.exitCode] at hsuccess hreport hfailure
  simp only [← h.output] at hreport hfailure
  exact ⟨hsuccess, hreport, hfailure⟩

theorem output_printed (lines : List String) (code : Nat) (terminal : Bool) :
    (⟨lines.map .printed, code⟩ : Transcript).output terminal =
      String.join (lines.map (Event.shown terminal)) := by
  rw [Transcript.output, List.map_map]
  rfl

/-- A run that prints the report of the first match answers. -/
theorem matchAnswer_of_firstMatch
    (hcompile : ∀ f ∈ formats, ImportFormat.compile f.template.source = .ok f)
    (h : FirstMatch formats id f values) :
    MatchAnswer coloured formats id ⟨(matchLines coloured f values).map .printed, 0⟩ := by
  have hmem : f ∈ formats := by
    obtain ⟨before, after, rfl, -⟩ := h.first
    exact List.mem_append_right _ List.mem_cons_self
  refine ⟨⟨fun _ => ⟨f, hmem, values, h.valid⟩, fun _ => rfl⟩, fun _ => ?_,
    fun hne => absurd rfl hne⟩
  refine ⟨f, values, h, fun terminal => ⟨output_printed _ 0 terminal, fun hexact => ?_⟩⟩
  rw [output_printed, shown_matchLines (hcompile f hmem) h.valid hexact]

/-- A run that only complains answers if there is no match. -/
theorem matchAnswer_of_not_writes (h : ∀ f ∈ formats, ¬ f.template.Writes id) (line : String) :
    MatchAnswer coloured formats id ⟨[.complained line], 1⟩ := by
  refine ⟨⟨nofun, ?_⟩, nofun, fun _ => ⟨rfl, fun _ => rfl⟩⟩
  rintro ⟨f, hf, hwrites⟩
  exact absurd hwrites (h f hf)

/-- What is found in the plan of a resource is printed. -/
theorem matchId_of_firstMatch? {c : CommandContext} {p : Product} {plan : Plan} {name : String}
    (hload : Product.load c.workspace c.path = .ok p) (h : p.resolveOne name c.strict = .ok plan)
    (hfirst : firstMatch? plan.identity.importFormats id = some (f, values)) :
    (c.matchId name id).SameAnswer ⟨(matchLines c.coloured f values).map .printed, 0⟩ := by
  have hplan := withPlan_of_resolveOne hload h
  rw [matchId]
  refine (hplan _).trans ?_
  dsimp only
  rw [hfirst, matchLines, List.map_cons, List.map_map]
  exact ⟨rfl, fun _ => rfl⟩

theorem matchAnswer_matchId {c : CommandContext} {p : Product} {plan : Plan} {name : String}
    (hload : Product.load c.workspace c.path = .ok p) (h : p.resolveOne name c.strict = .ok plan)
    (hcompile : ∀ f ∈ plan.identity.importFormats,
      ImportFormat.compile f.template.source = .ok f) :
    MatchAnswer c.coloured plan.identity.importFormats id (c.matchId name id) := by
  cases hfirst : firstMatch? plan.identity.importFormats id with
  | none =>
    rw [matchId]
    refine MatchAnswer.congr ?_ (withPlan_of_resolveOne hload h _)
    dsimp only
    rw [hfirst]
    exact matchAnswer_of_not_writes ((firstMatch?_eq_none_iff hcompile).1 hfirst) _
  | some found =>
    obtain ⟨f, values⟩ := found
    have hmatch := firstMatch_of_firstMatch? hcompile hfirst
    exact (matchAnswer_of_firstMatch hcompile hmatch).congr (matchId_of_firstMatch? hload h hfirst)

theorem matchId_refused {c : CommandContext} {name : String}
    (h : ¬ ∃ p plan, Product.load c.workspace c.path = .ok p ∧
      p.resolveOne name c.strict = .ok plan) :
    (c.matchId name id).SameAnswer .refused := by
  rw [matchId]
  cases hload : Product.load c.workspace c.path with
  | error e => exact withProduct_of_error hload _
  | ok p =>
    cases hresolve : p.resolveOne name c.strict with
    | error e => exact withPlan_of_error hload hresolve _
    | ok plan => exact absurd ⟨p, plan, hload, hresolve⟩ h

end CommandContext

/-! ### Command lines -/

namespace Invocation

/-- **The first import format that makes up the id is reported, with values that give the id.** The
formats are those of the descriptor in order. If none of them makes up the id, or there is no plan,
the run fails and lists nothing. -/
theorem matchId_answers (w : Workspace) (s : CommandSettings) (name id : String) :
    (∀ p plan, Product.load w (.ofText s.config) = .ok p → p.resolveOne name s.strict = .ok plan →
      (∃ d, p.resource name = .ok d ∧ Descriptor.importFormats plan =
        if d.lifecycle.excludeImport then [] else Identity.formatSources d) ∧
      CommandContext.MatchAnswer (s.coloured w) plan.identity.importFormats id
        ((perform s (.matchId name id)).run w)) ∧
    ((¬ ∃ p plan, Product.load w (.ofText s.config) = .ok p ∧
        p.resolveOne name s.strict = .ok plan) →
      ((perform s (.matchId name id)).run w).exitCode = 1 ∧
        ∀ terminal, ((perform s (.matchId name id)).run w).output terminal = "") := by
  have hrun := run_perform w s (.matchId name id)
  rw [CommandContext.run] at hrun
  constructor
  · intro p plan hload hplan
    obtain ⟨d, mode, hresource, -, hattempt⟩ := Product.resolveOne_eq_ok_iff.1 hplan
    obtain ⟨-, hresolve⟩ := Plan.attempt_eq_ok_iff.1 hattempt
    have hsound := Identity.sound_of_resolve (Plan.parts_of_resolve hresolve).2.1
    refine ⟨⟨d, hresource, Descriptor.importFormats_of_resolve hresolve⟩, ?_⟩
    have hanswer := @CommandContext.matchAnswer_matchId id (s.context w) p plan name hload hplan
      hsound.compile_formats
    exact hanswer.congr hrun
  · intro hnone
    have hrefused := hrun.trans (@CommandContext.matchId_refused id (s.context w) name hnone)
    exact ⟨hrefused.exitCode, fun terminal => hrefused.output terminal⟩

/-- A document. Its resource may be imported in two formats, and some ids have both. -/
def routersDocument : Json := .object [
  ("name", .text "routers"),
  ("resources", .list [.object [
    ("name", .text "Router"), ("base_url", .text "routers"),
    ("parameters", .list [.object [("name", .text "region")]]),
    ("identity", .list [.text "region", .text "name"]),
    ("import_format", .list [.text "regions/\x7b\x7bregion\x7d\x7d/\x7b\x7bname\x7d\x7d",
      .text "\x7b\x7b%region\x7d\x7d/\x7b\x7bname\x7d\x7d"])]])]

/-- A workspace with that document. -/
def routersWorkspace : Workspace where
  files := [({ parts := ["product.yaml"] }, .document routersDocument)]

/-- The product of that document. -/
def routers : Product where
  name := "routers"
  resources := [{
    about := { name := "Router" }
    endpoints := { baseUrl := "routers" }
    parameters := [{ name := "region" }]
    identityRules := {
      identity := ["region", "name"]
      importFormat := ["regions/\x7b\x7bregion\x7d\x7d/\x7b\x7bname\x7d\x7d",
        "\x7b\x7b%region\x7d\x7d/\x7b\x7bname\x7d\x7d"] } }]

/-- The first format of its resource. -/
def narrowFormat : ImportFormat :=
  ⟨⟨"regions/\x7b\x7bregion\x7d\x7d/\x7b\x7bname\x7d\x7d",
    [.literal "regions/", .token "region", .literal "/", .token "name"]⟩⟩

/-- The second format of its resource. -/
def wideFormat : ImportFormat :=
  ⟨⟨"\x7b\x7b%region\x7d\x7d/\x7b\x7bname\x7d\x7d",
    [.greedy "region", .literal "/", .token "name"]⟩⟩

theorem load_routersWorkspace :
    Product.load routersWorkspace (.ofText "product.yaml") = .ok routers := by decide +kernel

theorem resolveOne_routers : ∃ plan, routers.resolveOne "Router" none = .ok plan ∧
    plan.identity.importFormats = [narrowFormat, wideFormat] :=
  exists_eq_ok_of_map (by decide +kernel)

/-- The first format is reported, though the id has the second as well. -/
theorem matchId_answers_routers :
    ∃ plan, (Product.load routersWorkspace (.ofText "product.yaml") = .ok routers ∧
      routers.resolveOne "Router" none = .ok plan) ∧
    (narrowFormat.template.Writes "regions/west/edge" ∧
      wideFormat.template.Writes "regions/west/edge") ∧
    ((perform {} (.matchId "Router" "regions/west/edge")).run routersWorkspace).exitCode = 0 ∧
    ∃ values, narrowFormat.template.ValidFor "regions/west/edge" values ∧
      ((perform {} (.matchId "Router" "regions/west/edge")).run routersWorkspace).output false =
        String.join ((matchLines false narrowFormat values).map (· ++ "\n")) := by
  have hnarrow : narrowFormat.template.Writes "regions/west/edge" :=
    ⟨[("region", "west"), ("name", "edge")], ⟨rfl, by decide⟩, by decide⟩
  have hwide : wideFormat.template.Writes "regions/west/edge" :=
    ⟨[("region", "regions/west"), ("name", "edge")], ⟨rfl, by decide⟩, by decide⟩
  obtain ⟨plan, hplan, hformats⟩ := resolveOne_routers
  obtain ⟨-, hanswer⟩ := (matchId_answers routersWorkspace {} "Router" "regions/west/edge").1
    routers plan load_routersWorkspace hplan
  rw [hformats] at hanswer
  have hsuccess := hanswer.success.2 ⟨narrowFormat, List.mem_cons_self, hnarrow⟩
  obtain ⟨f, values, hmatch, hreport⟩ := hanswer.report hsuccess
  obtain ⟨before, after, hsplit, hbefore⟩ := hmatch.first
  have hf : f = narrowFormat := by
    cases before with
    | nil => exact (List.cons.inj hsplit).1.symm
    | cons g before =>
      rw [← (List.cons.inj hsplit).1] at hbefore
      exact absurd hnarrow (hbefore narrowFormat List.mem_cons_self)
  subst hf
  refine ⟨plan, ⟨load_routersWorkspace, hplan⟩, ⟨hnarrow, hwide⟩, hsuccess, values,
    hmatch.valid, ?_⟩
  rw [(hreport false).2 (.inr (by decide)), Bool.and_false]

/-- An id with a sequence that changes the colour of a terminal. -/
def colouredId : String := "regions/a\x1b[31mb/edge"

/-- **Where there is no terminal, a value is listed without its escape sequences**, and does not
make up the id. -/
theorem matchId_colouredId :
    ∃ plan, routers.resolveOne "Router" none = .ok plan ∧
      plan.identity.importFormats = [narrowFormat, wideFormat] ∧
      narrowFormat.template.Writes colouredId ∧
      ((perform {} (.matchId "Router" colouredId)).run routersWorkspace).exitCode = 0 ∧
      ((perform {} (.matchId "Router" colouredId)).run routersWorkspace).output false =
        "Matched regions/\x7b\x7bregion\x7d\x7d/\x7b\x7bname\x7d\x7d\n" ++
          "  region = ab\n  name = edge\n" ∧
      narrowFormat.template.fill [("region", "ab"), ("name", "edge")] ≠ colouredId := by
  obtain ⟨plan, hplan, hformats⟩ := resolveOne_routers
  have hfirst : CommandContext.firstMatch? plan.identity.importFormats colouredId =
      some (narrowFormat, [("region", "a\x1b[31mb"), ("name", "edge")]) := by
    rw [hformats]
    decide
  have hprinted := @CommandContext.matchId_of_firstMatch? colouredId _ _
    (CommandSettings.context routersWorkspace {}) _ _ "Router" load_routersWorkspace hplan hfirst
  have hrun := (run_perform routersWorkspace {} (.matchId "Router" colouredId)).trans hprinted
  have hwrites : narrowFormat.template.Writes colouredId :=
    ⟨[("region", "a\x1b[31mb"), ("name", "edge")], ⟨rfl, by decide⟩, by decide⟩
  refine ⟨plan, hplan, hformats, hwrites, hrun.exitCode, ?_, by decide⟩
  rw [hrun.output, CommandContext.output_printed]
  cases (CommandSettings.context routersWorkspace {}).coloured with
  | false => decide +kernel
  | true => decide +kernel

end Invocation

end CrudPlan
