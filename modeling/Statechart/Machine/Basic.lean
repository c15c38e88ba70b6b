import Statechart.Action

/-!
# Machines

A machine declares its states. Each state has actions for its entry and exit and reacts to events by transitions,
which may be guarded, may run actions of their own and lead to a target, or stay where they are.
-/

set_option autoImplicit false
set_option relaxedAutoImplicit false

namespace Statechart

structure Transition (σ : Type) where
  /-- The state it leads to, none for the current one. -/
  target : Option Value
  guard : Option (Callee σ)
  actions : List (Action σ)

structure Node (σ : Type) where
  on : List (Value × Transition σ)
  entry : List (Action σ)
  exit : List (Action σ)

structure Machine (σ : Type) where
  initial : Value
  states : List (Value × Node σ)
  context : Value
  /-- The closed set of event kinds, if there is one. -/
  events : Option (List Value)
  name : Value

/-- A state that a machine is in, with the effects still to be performed. -/
structure State (σ : Type) where
  value : Value
  context : Value
  actions : List (Effect σ) := []
  changed : Bool := false

namespace State

variable {σ : Type}

/-- The state with no effects left to perform. -/
def settled (s : State σ) : State σ := { s with actions := [] }

def snapshot (s : State σ) : Snapshot := ⟨s.value, s.context, s.actions.map (·.kind), s.changed⟩

/-- Two states are the same if value and context are; whether an event changed them does not count. -/
def same (a b : State σ) : Bool := a.value.alike b.value && a.context.alike b.context

def isAt (s : State σ) (value : Value) : Bool := s.value.same value

end State

end Statechart
