import CrudPlan.Command.Run

/-!
# What a run answers

The answer of a run is its output and its exit code. What is logged or complained about on the way
goes elsewhere.

* `Transcript.SameAnswer` compares runs by their answers, and `Transcript.refused` is the run that
  fails and has nothing to say;
* `CommandContext.withProduct_of_load` and `CommandContext.withPlan_of_resolveOne`: a command
  answers what it makes of the product or the plan; if there is none, it refuses;
* `Invocation.run_perform`: a command line answers what its command answers.
-/

namespace CrudPlan

/-! ### Asides -/

/-- An event that does not reach the output. -/
def Event.IsAside : Event → Prop
  | .complained _ => True
  | .logged _ => True
  | .printed _ => False
  | .drawn _ => False

theorem Event.output_of_isAside {e : Event} (h : e.IsAside) (terminal : Bool) :
    e.output terminal = "" := by
  cases e with
  | complained line => rfl
  | logged line => rfl
  | printed line => exact h.elim
  | drawn lines => exact h.elim

theorem LogChoice.isAside_of_mem_events {choice : LogChoice} {entries : List LogEntry} {e : Event}
    (h : e ∈ choice.events entries) : e.IsAside := by
  obtain ⟨entry, -, rfl⟩ := List.mem_map.1 h
  cases choice <;> trivial

theorem Problem.isAside_of_mem_events {coloured : Bool} {p : Problem} {e : Event}
    (h : e ∈ p.events coloured) : e.IsAside := by
  obtain ⟨line, -, rfl⟩ := List.mem_map.1 h
  trivial

theorem ConfigError.isAside_of_mem_events {coloured : Bool} {error : ConfigError} {e : Event}
    (h : e ∈ error.events coloured) : e.IsAside := by
  unfold ConfigError.events at h
  split at h
  · obtain rfl := List.mem_singleton.1 h
    trivial
  · exact Problem.isAside_of_mem_events h

theorem RequestError.isAside_of_mem_events {coloured : Bool} {error : RequestError} {e : Event}
    (h : e ∈ error.events coloured) : e.IsAside := by
  cases error with
  | config error => exact ConfigError.isAside_of_mem_events h
  | unresolved resource issues => exact Problem.isAside_of_mem_events h
  | crashed crash => exact Problem.isAside_of_mem_events h

theorem isAside_of_mem_chooseLog {w : Workspace} {s : CommandSettings} {e : Event}
    (h : e ∈ (chooseLog w s).2) : e.IsAside := by
  rw [chooseLog] at h
  split at h
  · exact absurd h List.not_mem_nil
  · split at h
    · exact absurd h List.not_mem_nil
    · obtain rfl := List.mem_singleton.1 h
      trivial

/-! ### Answers -/

namespace Transcript

/-- Two runs have the same exit code, and the same output on every device. -/
structure SameAnswer (t u : Transcript) : Prop where
  exitCode : t.exitCode = u.exitCode
  output : ∀ terminal, t.output terminal = u.output terminal

/-- A run that fails and has nothing to say. -/
def refused : Transcript := ⟨[], 1⟩

variable {t u v : Transcript}

theorem SameAnswer.trans (h : t.SameAnswer u) (h' : u.SameAnswer v) : t.SameAnswer v :=
  ⟨h.exitCode.trans h'.exitCode, fun terminal => (h.output terminal).trans (h'.output terminal)⟩

theorem output_eq_empty {events : List Event} (h : ∀ e ∈ events, e.IsAside) (code : Nat)
    (terminal : Bool) : (⟨events, code⟩ : Transcript).output terminal = "" := by
  rw [output, ← String.toList_eq_nil_iff, String.toList_join, List.flatMap_eq_nil_iff]
  intro line hline
  obtain ⟨e, he, rfl⟩ := List.mem_map.1 hline
  rw [Event.output_of_isAside (h e he), String.toList_empty]

/-- Asides in front of a run do not change its answer. -/
theorem sameAnswer_append {asides : List Event} (h : ∀ e ∈ asides, e.IsAside) (t : Transcript) :
    SameAnswer ⟨asides ++ t.events, t.exitCode⟩ t where
  exitCode := rfl
  output terminal := by
    have hasides := output_eq_empty h t.exitCode terminal
    rw [output] at hasides
    rw [output, output, List.map_append, String.join_append, hasides, String.empty_append]

/-- A run that fails with a log and a complaint refuses. -/
theorem sameAnswer_refused {log complaint : List Event} (hlog : ∀ e ∈ log, e.IsAside)
    (hcomplaint : ∀ e ∈ complaint, e.IsAside) : SameAnswer ⟨log ++ complaint, 1⟩ refused := by
  have hasides : ∀ e ∈ log ++ complaint, e.IsAside := List.forall_mem_append.2 ⟨hlog, hcomplaint⟩
  exact ⟨rfl, fun terminal => output_eq_empty hasides 1 terminal⟩

end Transcript

open Transcript (refused sameAnswer_append sameAnswer_refused)

namespace CommandContext

variable {c : CommandContext} {p : Product} {name : String}

theorem withProduct_of_error {e : ConfigError} (h : Product.load c.workspace c.path = .error e)
    (run : Product → Transcript) : (c.withProduct run).SameAnswer refused := by
  rw [withProduct, h]
  exact sameAnswer_refused (fun _ => LogChoice.isAside_of_mem_events)
    fun _ => ConfigError.isAside_of_mem_events

/-- With a product, a command answers what it makes of it. -/
theorem withProduct_of_load (h : Product.load c.workspace c.path = .ok p)
    (run : Product → Transcript) : (c.withProduct run).SameAnswer (run p) := by
  rw [withProduct, h]
  exact sameAnswer_append (fun _ => LogChoice.isAside_of_mem_events) (run p)

theorem withPlan_of_error {e : RequestError} (hload : Product.load c.workspace c.path = .ok p)
    (h : p.resolveOne name c.strict = .error e) (run : Plan → Transcript) :
    (c.withPlan name run).SameAnswer refused := by
  refine (withProduct_of_load hload _).trans ?_
  rw [h]
  exact sameAnswer_refused (fun _ => LogChoice.isAside_of_mem_events)
    fun _ => RequestError.isAside_of_mem_events

/-- With a plan, a command answers what it makes of it. -/
theorem withPlan_of_resolveOne {plan : Plan} (hload : Product.load c.workspace c.path = .ok p)
    (h : p.resolveOne name c.strict = .ok plan) (run : Plan → Transcript) :
    (c.withPlan name run).SameAnswer (run plan) := by
  refine (withProduct_of_load hload _).trans ?_
  rw [h]
  exact sameAnswer_append (fun _ => LogChoice.isAside_of_mem_events) (run plan)

end CommandContext

/-- What the command of a command line is run with. -/
def CommandSettings.context (w : Workspace) (s : CommandSettings) : CommandContext :=
  ⟨w, .ofText s.config, s.strict, s.coloured w, (chooseLog w s).1⟩

/-- A command line answers what its command answers. -/
theorem Invocation.run_perform (w : Workspace) (s : CommandSettings) (command : Command) :
    ((perform s command).run w).SameAnswer ((s.context w).run command) :=
  sameAnswer_append (fun _ => isAside_of_mem_chooseLog) ((s.context w).run command)

end CrudPlan
