import Statechart.Failure
import Statechart.Value.Table

/-!
# Manifests

A manifest is a document that describes one machine: its states, their transitions and actions, with callables named
by references. The types here hold what a valid document says, with defaults filled in.
-/

set_option autoImplicit false
set_option relaxedAutoImplicit false

namespace Statechart

/-- An action of a document: the replacement of a context by a named function or by literal values, a named effect, or
a written line. A valid one has exactly one of these. -/
structure ActionSpec where
  assign : Option String := none
  assignValues : Option (List (String × Value)) := none
  effect : Option String := none
  log : Option String := none
  level : String := "INFO"
  /-- The kind of an effect or of a written line. -/
  kind : Option String := none
deriving Repr, Inhabited

structure TransitionSpec where
  target : Option String := none
  guard : Option String := none
  actions : List ActionSpec := []
deriving Repr, Inhabited

structure StateSpec where
  entry : List ActionSpec := []
  exit : List ActionSpec := []
  on : List (String × TransitionSpec) := []
deriving Repr, Inhabited

structure MachineSpec where
  initial : String
  context : List (String × Value) := []
  events : Option (List String) := none
  states : List (String × StateSpec)
deriving Repr, Inhabited

structure Manifest where
  version : String := "hexchart/v1"
  metadata : List (String × Value) := []
  spec : MachineSpec
deriving Repr, Inhabited

namespace ActionSpec

/-- Which of the four kinds of action are given. -/
def given (a : ActionSpec) : List String :=
  (if a.assign.isSome then ["assign"] else []) ++ (if a.assignValues.isSome then ["assign_values"] else [])
    ++ (if a.effect.isSome then ["effect"] else []) ++ (if a.log.isSome then ["log"] else [])

end ActionSpec

namespace Manifest

/-- The kind of document that describes a machine. -/
def documentKind : String := "Machine"

/-- The name of the machine. -/
def name (m : Manifest) : Outcome String := ((m.metadata.lookup "name").getD (.text "machine")).shown?

end Manifest

/-! ## Manifests as values -/

def textValue : Option String → Value
  | none => .null
  | some s => .text s

namespace ActionSpec

def toValue (a : ActionSpec) : Value :=
  .ofFields [("assign", textValue a.assign), ("assign_values", (a.assignValues.map Value.ofFields).getD .null),
    ("effect", textValue a.effect), ("log", textValue a.log), ("level", .text a.level),
    ("type", textValue a.kind)]

end ActionSpec

namespace TransitionSpec

def toValue (t : TransitionSpec) : Value :=
  .ofFields [("target", textValue t.target), ("cond", textValue t.guard),
    ("actions", .list (t.actions.map ActionSpec.toValue))]

end TransitionSpec

namespace StateSpec

def toValue (s : StateSpec) : Value :=
  .ofFields [("entry", .list (s.entry.map ActionSpec.toValue)), ("exit", .list (s.exit.map ActionSpec.toValue)),
    ("on", .ofFields (s.on.map fun (event, t) ↦ (event, t.toValue)))]

end StateSpec

namespace MachineSpec

def toValue (m : MachineSpec) : Value :=
  .ofFields [("initial", .text m.initial), ("context", .ofFields m.context),
    ("events", (m.events.map Value.ofTexts).getD .null),
    ("states", .ofFields (m.states.map fun (state, s) ↦ (state, s.toValue)))]

end MachineSpec

namespace Manifest

/-- Everything that a manifest says, defaults included. -/
def toValue (m : Manifest) : Value :=
  .ofFields [("api_version", .text m.version), ("kind", .text documentKind),
    ("metadata", .ofFields m.metadata), ("spec", m.spec.toValue)]

end Manifest

end Statechart
