import Statechart.Failure
import Statechart.Value.Table

/-!
# Events

An event has a kind and a payload. Callers may write it as an event, as a table with a `type` entry, whose other
entries are the payload, or as a bare kind.
-/

set_option autoImplicit false
set_option relaxedAutoImplicit false

namespace Statechart

structure Event where
  kind : Value
  data : Entries := []
deriving Repr, Inhabited

namespace Event

/-- The kind of the event with which a machine starts. -/
def initKind : Value := .text "STATE_MACHINE_INIT"

def init : Event := ⟨initKind, []⟩

/-- The event that a value stands for. -/
def ofValue (v : Value) : Outcome Event :=
  match v.opened with
  | .event kind data => .ok ⟨kind, data⟩
  | .table entries =>
    match Entries.get? entries "type" with
    | some kind => .ok ⟨kind, entries.filter fun e ↦ !e.1.same (.text "type")⟩
    | none => .error (.refusing "event" "mapping events need a 'type' key" v)
  | _ => .ok ⟨v, []⟩

def toValue (e : Event) : Value := .event e.kind e.data

/-- The payload under a key, or a default. -/
def get (e : Event) (key default : Value) : Outcome Value :=
  if key.isKey then .ok ((Entries.find? e.data key).getD default) else .error .wrongType

/-- The payload under a key that has to be there. -/
def item (e : Event) (key : Value) : Outcome Value :=
  if key.isKey then
    match Entries.find? e.data key with
    | some v => .ok v
    | none => .error .missingKey
  else .error .wrongType

/-- The payload under a text key, null if there is none. -/
def payload (e : Event) (key : String) : Value := (Entries.get? e.data key).getD .null

end Event

end Statechart
