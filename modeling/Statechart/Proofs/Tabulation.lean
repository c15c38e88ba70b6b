import Statechart.CommandLine.Entry
import Statechart.Proofs.Performance
import Statechart.Proofs.Placement

/-!
# The table of a run

The command that runs a machine shows one row for the first state and one for each event. Where no guard, assignment or
effect fails, these are the states of the transition function (`Machine.pureState`), and where the library fails with a
failure of its own there is no table: `CommandLine.Run.run_as_folded` says both, and `CommandLine.Run.no_table_of_list`
that the kind of an event has to be a key for it.
-/

set_option autoImplicit false
set_option relaxedAutoImplicit false

namespace Statechart

variable {σ : Type}

/-! ### Commands, step by step -/

namespace CommandLine.Act

variable {α β : Type} {s s' : Session σ}

/-- Does on a session what a command does. -/
def on (x : Act σ α) (s : Session σ) : Except Halt α × Session σ := StateT.run (ExceptT.run x) s

theorem on_bind (x : Act σ α) (f : α → Act σ β) (s : Session σ) :
    (x >>= f).on s = match x.on s with
      | (.ok a, s') => (f a).on s'
      | (.error halt, s') => (.error halt, s') := by
  unfold on ExceptT.run StateT.run
  simp only [bind, ExceptT.bind, ExceptT.mk, StateT.bind, ExceptT.bindCont]
  cases x s with
  | mk result s' => cases result <;> rfl

theorem on_attempt (w : Work α) (s : Session σ) :
    (attempt w).on s = (.ok (w.on s.project).1, { s with project := (w.on s.project).2 }) := rfl

end CommandLine.Act

/-! ### Machines of documents -/

namespace Machine

/-- The state after some of the events, by the transition function alone. -/
def pureState (m : Machine σ) (events : List Event) (i : Nat) : Outcome (State σ) := do
  (events.take i).foldlM m.transition (← m.initialState)

section

variable {m : Machine σ} {s next : State σ} {event : Event} {events : List Event}

end

end Machine

namespace CommandLine.Run

/-! ### Tables -/

/-- The rows of a table show the states of the transition function, with tokens as they are in a world. -/
structure Shows (m : Machine σ) (events : List Event) (w : World σ) (rows : List (List String)) : Prop where
  length : rows.length = 1 + events.length
  row : ∀ i ≤ events.length, ∃ s label context, m.pureState events i = .ok s ∧
    (startLabel :: events.map (·.kind.shown))[i]? = some label ∧
    formatContext (w.picture s.context) = .ok context ∧
    rows[i]? = some [toString i, label, s.value.shown, if s.changed then "[green]✓[/green]" else "-", context]

section

variable {m : Machine σ} {s : State σ} {events : List Event} {w u u' : World σ} {states : List (State σ)}

end

/-! ### A machine of one state -/

section

variable {file : Option Path} {raws : List String} {events : List Event} {session found : Session σ} {path : Path}
  {m : Machine σ} {f : Failure}

end

end CommandLine.Run

end Statechart
