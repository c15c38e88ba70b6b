import Statechart.Failure
import Statechart.Value.Table

/-!
# Failures from their parts

The library's own failures can be made from values, one for each part; the last part of some kinds may be left out.
What a failure says is settled while it is made, so parts that cannot be written are refused then.
-/

set_option autoImplicit false
set_option relaxedAutoImplicit false

namespace Statechart.Failure

/-- The kinds of the library's own failures that have parts. -/
inductive Kind where
  | general
  | configuration
  | validation
  | unresolved
  | notLoaded
  | unknownState
  | lifecycle
  | http
  | cancelled
deriving DecidableEq, Repr

namespace Kind

/-- The parts that are kept, by name. -/
def parts : Kind → List String
  | .general => []
  | .configuration => ["component", "reason"]
  | .validation => ["field", "constraint", "value"]
  | .unresolved => ["kind", "reason"]
  | .notLoaded => ["source", "reason"]
  | .unknownState => ["state", "available"]
  | .lifecycle => ["status", "operation"]
  | .http => ["status_code", "body"]
  | .cancelled => ["name", "reason"]

end Kind

/-- Texts in a sequence; anything else in it is a fault. -/
def textsIn (vs : List Value) : Outcome (List String) :=
  vs.mapM fun v ↦
    match v.asText? with
    | some s => .ok s
    | none => .error wrongType

/-- The names of declared states, of which only the first few have to be texts. -/
def declaredNames (available : Value) : Outcome (List String) := do
  if !available.isTruthy then return []
  let items ← match available with
    | .list vs | .tuple vs => pure vs
    | .text s | .symbol _ s => pure (s.toList.map fun c ↦ Value.text (String.ofList [c]))
    | _ => throw wrongType
  return (← textsIn (items.take listedStates)) ++ (items.drop listedStates).map Value.shown

/-- A failure of a kind from its parts. -/
def ofParts : Kind → List Value → Outcome Failure
  | .general, [] => .ok (.general "")
  | .general, [text] => do return .general (← text.shown?)
  | .general, many => do return .general (← (Value.tuple many).literal?)
  | .configuration, [component, reason] => do return .configuration (← component.shown?) (← reason.shown?)
  | .validation, [field, constraint] => do return .validation (← field.shown?) (← constraint.shown?) .null
  | .validation, [field, constraint, v] => do
    return refusing (← field.shown?) (← constraint.shown?) v
  | .unresolved, [reference, reason] => do return .unresolved (← reference.shown?) (← reason.shown?)
  | .notLoaded, [source, reason] => do return .notLoaded (← source.shown?) (← reason.shown?)
  | .unknownState, [state] => do
    let _ ← state.literal?
    return .unknownState state []
  | .unknownState, [state, available] => do
    let _ ← state.literal?
    return .unknownState state (← declaredNames available)
  | .lifecycle, [status, operation] => do return .lifecycle (← status.shown?) (← operation.shown?)
  | .http, [status, body] => do
    let _ ← status.shown?
    return .http status body ""
  | .http, [status, body, text] => do
    if text.isTruthy then return .http status body (← text.shown?)
    let _ ← status.shown?
    return .http status body ""
  | .cancelled, [name] => do return .cancelled (← name.shown?) .null
  | .cancelled, [name, reason] => do
    let _ ← if reason.isTruthy then reason.shown? else pure ""
    return .cancelled (← name.shown?) reason
  | _, _ => .error wrongType

end Statechart.Failure
