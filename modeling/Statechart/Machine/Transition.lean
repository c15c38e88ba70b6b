import Statechart.Machine.Basic

/-!
# The transition function

For an event that has a transition whose guard lets it pass, the actions of exit, transition and entry are folded in
this order, also when the target is the current state. Any other event leaves value and context as they are.

Guards and assignments may be effects, which give nothing as a value; what they do meanwhile is a script of its own,
so that the state that follows stays a function of state and event.
-/

set_option autoImplicit false
set_option relaxedAutoImplicit false

namespace Statechart

variable {σ : Type}

namespace Transition

/-- A missing guard lets every event pass. -/
def allows (t : Transition σ) (context : Value) (event : Event) : Outcome Bool :=
  match t.guard with
  | none => .ok true
  | some guard => (guard.apply context event).map Value.isTruthy

/-- What asking the guard does. -/
def calls (t : Transition σ) (context : Value) (event : Event) : Script σ :=
  match t.guard with
  | none => .done
  | some guard => guard.calls context event

end Transition

namespace Machine

/-- The node of a declared state. -/
def node (m : Machine σ) (value : Value) : Outcome (Node σ) :=
  match Entries.find? m.states value with
  | some node => .ok node
  | none => .error (.undeclared value (Entries.keys m.states))

/-- The transition of a node for a kind of event. -/
def reaction (node : Node σ) (kind : Value) : Outcome (Option (Transition σ)) :=
  if kind.isKey then .ok (Entries.find? node.on kind) else .error .wrongType

/-- The state in which a service of the machine starts. -/
def initialState (m : Machine σ) : Outcome (State σ) := do
  let node ← m.node m.initial
  let (context, effects) ← Action.partition m.context Event.init node.entry
  return { value := m.initial, context := context, actions := effects }

/-- What is done while the state in which a service starts is computed. -/
def initialCalls (m : Machine σ) : Script σ :=
  match m.node m.initial with
  | .ok node => Action.calls m.context Event.init node.entry
  | .error _ => .done

/-- The state that follows a state when an event occurs. -/
def transition (m : Machine σ) (s : State σ) (event : Event) : Outcome (State σ) := do
  let node ← m.node s.value
  let unchanged : State σ := { value := s.value, context := s.context }
  match ← reaction node event.kind with
  | none => return unchanged
  | some t =>
    if ← t.allows s.context event then
      let target := t.target.getD s.value
      let targetNode ← m.node target
      let (context, effects) ←
        Action.partition s.context event (node.exit ++ t.actions ++ targetNode.entry)
      return { value := target, context := context, actions := effects, changed := true }
    else return unchanged

/-- What is done while the state that follows a state is computed: the guard is asked, and what it lets pass goes on
with the assignments. -/
def calls (m : Machine σ) (s : State σ) (event : Event) : Script σ :=
  match m.node s.value with
  | .error _ => .done
  | .ok node =>
    match reaction node event.kind with
    | .error _ | .ok none => .done
    | .ok (some t) =>
      (t.calls s.context event).andThen (match t.allows s.context event, m.node (t.target.getD s.value) with
        | .ok true, .ok targetNode => Action.calls s.context event (node.exit ++ t.actions ++ targetNode.entry)
        | _, _ => .done)

/-- The text that describes a machine. -/
def describe (m : Machine σ) : String :=
  "Machine(name=" ++ m.name.literal ++ ", initial=" ++ m.initial.literal ++ ")"

end Machine

end Statechart
