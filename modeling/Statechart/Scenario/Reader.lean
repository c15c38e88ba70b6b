import Statechart.Formula
import Statechart.Json.Tagged
import Statechart.Reference
import Statechart.Scenario

/-!
# Reading scenarios

Scenarios are written down as JSON: callables as formulas or as lists of commands, and machines as definitions that
hold such callables. Every command gets a number of its own while it is read.
-/

set_option autoImplicit false
set_option relaxedAutoImplicit false

namespace Statechart.Reader

open Tagged

/-- Reading gives out numbers. -/
abbrev Read := ExceptT Failure (StateM Nat)

namespace Read

def ofOutcome {α : Type} (o : Outcome α) : Read α := ExceptT.mk (pure o)

/-- A number that was not given out. -/
def fresh : Read Nat := do
  let n ← getThe Nat
  set (n + 1)
  return n

/-- What reading gives, numbers beginning at zero. -/
def result {α : Type} (r : Read α) : Outcome α := (ExceptT.run r 0).1

end Read

def value (v : Value) : Read Value := .ofOutcome (decode v)

def isTable : Value → Bool
  | .table _ => true
  | _ => false

/-! ### Callables -/

/-- A failure that a script raises. -/
def raised (v : Value) : Failure :=
  let message := textOf (member v "message")
  match (member? v "kind").map textOf with
  | some "RuntimeError" => .fault .runtime (some message)
  | some "KeyError" => .fault .missingKey (some message)
  | some "TypeError" => .fault .wrongType (some message)
  | some "ImportError" => .fault .importFailed (some message)
  | some "HexChartError" => .general message
  | some "KeyboardInterrupt" => .fault .interrupt (some message)
  | _ => .fault .badValue (some message)

def formula (v : Value) : Outcome Formula := do
  let arg (name : String) : Outcome Value := read v name
  match textOf (member v "fn") with
  | "inc" => return .inc (← arg "key") (← readOr v "by" (.int 1))
  | "mul" => return .mul (← arg "key") (← arg "by")
  | "append" => return .append (← arg "key") (← arg "item")
  | "take" => return .take (← arg "key") (← arg "from")
  | "take_or" => return .takeOr (← arg "key") (← arg "from") (← arg "default")
  | "event_type" => return .eventKind (← arg "key")
  | "const" => return .const (← arg "value")
  | "ctx_eq" => return .contextEq (← arg "key") (← arg "value")
  | "ctx_lt" => return .contextLt (← arg "key") (← arg "value")
  | "ctx_get" => return .contextGet (← arg "key")
  | "event_eq" => return .eventEq (← arg "key") (← arg "value")
  | "match" => return .agree (← arg "event") (← arg "key")
  | "raise" => return .raise (raised v)
  | _ => throw .missingKey

/-- The name of a callable; null takes the name away. -/
def nameOf (v : Value) (otherwise : String) : Option String :=
  match member? v "name" with
  | some .null => none
  | some n => some (textOf n)
  | none => some otherwise

section
variable {τ : Type}

def function (v : Value) (key : Option String) : Outcome (Callee (Memory τ)) := do
  let f ← formula v
  return .function (nameOf v (key.getD (textOf (member v "fn")))) f.eval

/-- The texts and numbers of a deed. -/
structure Words where
  of : Value

namespace Words

/-- A value that has to be there. -/
def value (w : Words) (name : String) : Outcome Value :=
  match member? w.of name with
  | some v => decode v
  | none => .error .missingKey

/-- A text that has to be there. -/
def text (w : Words) (name : String) : Outcome String :=
  match member? w.of name with
  | some v => .ok (textOf v)
  | none => .error .missingKey

def text? (w : Words) (name : String) : Option String := (member? w.of name).map textOf

def number (w : Words) (name : String) : Nat := (((member w.of name).asInt?).getD 0).toNat

/-- The service that is meant. -/
def service (w : Words) : String := (w.text? "svc").getD "main"

end Words

def request (v : Value) : Outcome (Request (Memory τ)) := do
  let w : Words := ⟨v⟩
  match ← w.text "do" with
  | "new" => return .create w.service
  | "new_host" => return .createHost w.service ((member? v "on_change").bind (·.asText?))
  | "start" => return .start w.service
  | "stop" => return .stop w.service
  | "enter" => return .enter w.service
  | "exit" => return .leave w.service
  | "send" => return .send w.service (← w.value "event")
  | "subscribe" =>
    let listener ← w.text "listener"
    return .subscribe w.service listener ((w.text? "sub").getD listener)
  | "sub_unsubscribe" => return .unsubscribe (← w.text "sub")
  | "sub_active" => return .isActive (← w.text "sub")
  | "sub_with" => return .scope (← w.text "sub")
  | "repr" => return .describe w.service
  | "matches" => return .matchesValue w.service (← w.value "value")
  | "show" => return .report w.service
  | "close" => return .close w.service
  | "tok_cancel" => return .cancel (← w.text "token") (← read v "reason")
  | "tok_callback" => return .onCancel (← w.text "token") (.named (← w.text "listener"))
  | "tok_check" => return .checkToken (← w.text "token")
  | "tok_show" => return .viewToken (← w.text "token")
  | "tok_repr" => return .describeToken (← w.text "token")
  | "reg_add" => return .register (w.text? "sub") (← w.text "listener")
  | "reg_notify" => return .notify (← w.value "value")
  | "reg_clear" => return .clear
  | "reg_contains" => return .isRegistered (← w.text "listener")
  | "reg_remove" => return .remove (← w.value "index")
  | "reg_has" => return .hasTicket (← w.value "index")
  | _ => throw .missingKey

def deed (v : Value) : Outcome (Deed τ) := do
  let w : Words := ⟨v⟩
  match ← w.text "do" with
  | "note" => return .say (← w.value "text")
  | "raise" => return .raise (raised v)
  | _ => return .request (← request v)

def command (v : Value) : Read (Command τ) := do
  let deed := match deed v with
    | .ok d => d
    | .error f => .broken f
  let onlyAt ← (member? v "if_value").mapM value
  return {
    word := textOf (member v "do")
    number := ← Read.fresh
    onlyAt := onlyAt
    skip := (Words.mk v).number "skip"
    times := (member? v "times").map fun _ ↦ (Words.mk v).number "times"
    deed := deed }

def commands (v : Value) : Read (List (Command τ)) := (listOf v).mapM command

/-- The commands of listeners by their names. -/
def listeners (v : Value) : Read (List (String × List (Command τ))) :=
  (fieldsOf v).mapM fun (name, c) ↦ do return (name, ← commands c)

def effect (v : Value) (name : String) (list : Value) : Read (Callee (Memory τ)) := do
  return Command.effect (nameOf v name) (← commands list)

/-- A function or an effect; anything else is a value that cannot be called. -/
def callee (v : Value) (key : Option String) : Read (Callee (Memory τ)) := do
  if (member? v "fn").isSome then Read.ofOutcome (function v key)
  else
    match member? v "effect" with
    | some list => effect v (key.getD "effect_fn") list
    | none =>
      match member? v "value", key with
      | some x, some _ => return .ofValue (← value x)
      | _, _ => return .ofValue (← value v)

/-- Callables by name. -/
def callables (v : Value) : Read (List (String × Callee (Memory τ))) :=
  (fieldsOf v).mapM fun (name, c) ↦ do return (name, ← callee c (some name))

def module (v : Value) : Read (Module (Memory τ)) := do
  match tag? v with
  | some ("$import_error", text) => return .broken (textOf text)
  | _ => return .attributes (← callables v)

/-- The callables of a registry and of modules. -/
def scope (registry modules : Value) : Read (Scope (Memory τ)) := do
  let entries ← callables registry
  return ⟨entries, ← (fieldsOf modules).mapM fun (name, m) ↦ do return (name, ← module m)⟩

/-! ### Actions -/

def message (v : Value) : Read Action.Message := do
  if (member? v "fn").isSome then
    match ← Read.ofOutcome (function (τ := Unit) v none) with
    | .function _ body => return .computed body
    | _ => return .fixed .null
  else
    let v ← value v
    match (Callee.ofValue v : Callee (Memory Unit)) with
    | .function _ body => return .computed body
    | _ => return .fixed v

/-- What is given in the place of an action. -/
def candidate (v : Value) : Read (Candidate (Memory τ)) := do
  let text? (name : String) : Option String := (member? v name).bind (·.asText?)
  if let some f := member? v "assign" then
    return .action (← Read.ofOutcome (Action.ofAssignment (← callee f none)))
  if let some x := member? v "assign_raw" then
    return .action (← Read.ofOutcome (Action.ofAssignment (.ofValue (← value x))))
  if let some x := member? v "assign_values" then
    return .action (.ofValues (← Read.ofOutcome (decodeMembers x)))
  if let some list := member? v "effect" then
    return .action (.ofEffect (text? "type") (← effect v "effect_fn" list))
  if let some list := member? v "bare" then
    return .callable (← effect v "effect_fn" list)
  if let some m := member? v "log" then
    let sink := if (member v "sink").isTruthy then Sink.given else .library
    return .action (.ofLog (← message m) sink ((text? "level").getD "INFO") ((text? "type").getD "log"))
  return .ofValue (← value v)

def action (v : Value) : Read (Action (Memory τ)) := do
  Read.ofOutcome (← candidate v).toAction

def actions (v : Option Value) : Read (ActionList (Memory τ)) := do
  match v with
  | none => return .empty
  | some (.list xs) => return .items (← xs.mapM candidate)
  | some x => return .value (← value x)

/-! ### Machines -/

def guard (v : Option Value) : Read (Option (Callee (Memory τ))) := do
  match v with
  | none | some .null => return none
  | some x => return some (← callee x none)

def transitionParts (v : Value) : Read (TransitionParts (Memory τ)) := do
  return {
    target := ← Read.ofOutcome (read v "target")
    guard := ← guard (member? v "cond")
    actions := ← actions (member? v "actions") }

/-- Parts under other names than the known ones are refused. -/
def noOthers (known : List String) (v : Value) : Read Unit := do
  if (fieldsOf v).any fun f ↦ !known.contains f.1 then throw .wrongType

def transition (v : Value) : Read (TransitionSource (Memory τ)) := do
  match tag? v with
  | some ("$transition", x) =>
    let parts ← transitionParts x
    noOthers ["target", "cond", "actions"] x
    return .built (← Read.ofOutcome (Transition.ofParts parts))
  | _ => if isTable v then return .parts (← transitionParts v) else return .value (← value v)

def transitions (v : Option Value) : Read (OnSource (Memory τ)) := do
  match v with
  | none => return .entries []
  | some x =>
    if isTable x then
      return .entries (← (← Read.ofOutcome (keyed x)).mapM fun (k, t) ↦ do return (k, ← transition t))
    else return .value (← value x)

def nodeParts (v : Value) : Read (NodeParts (Memory τ)) := do
  return {
    on := ← transitions (member? v "on")
    entry := ← actions (member? v "entry")
    exit := ← actions (member? v "exit") }

def node (v : Value) : Read (NodeSource (Memory τ)) := do
  match tag? v with
  | some ("$node", x) =>
    let parts ← nodeParts x
    noOthers ["on", "entry", "exit"] x
    return .built (← Read.ofOutcome (Node.ofParts parts))
  | _ => if isTable v then return .parts (← nodeParts v) else return .value (← value v)

def states (v : Value) : Read (StatesSource (Memory τ)) := do
  if isTable v then
    return .entries (← (← Read.ofOutcome (keyed v)).mapM fun (k, n) ↦ do return (k, ← node n))
  else return .value (← value v)

/-- The parts that a definition can have. -/
def knownParts : List String := ["initial", "states", "context", "events", "name"]

def description (d : Value) : Read (Machine.Description (Memory τ)) := do
  let initial ← (member? d "initial").mapM value
  return {
    initial := initial
    states := ← (member? d "states").mapM states
    context := ← (member? d "context").mapM value
    events := ← (member? d "events").mapM value
    name := ← (member? d "name").mapM value }

/-- A machine from a definition with no other parts than the known ones, of which two have to be there. -/
def definition (d : Value) : Read (Machine (Memory τ)) := do
  let parts ← description d
  noOthers knownParts d
  match parts.initial, parts.states with
  | some initial, some states =>
    Read.ofOutcome (Machine.ofParts initial states (parts.context.getD (.table [])) (parts.events.getD .null)
      (parts.name.getD (.text "machine")))
  | _, _ => throw .wrongType

/-- The machine of a newsletter form whose effects are scripted. -/
def newsletter (v : Value) : Read (Machine (Memory τ)) := do
  let effect? (name : String) : Read (Option (Callee (Memory τ))) := do
    match member? v name with
    | none | some .null => return none
    | some list => return some (Command.effect (some name) (← commands list))
  let start ← effect? "start"
  let clear ← effect? "clear"
  let sink := if (member v "sink").isTruthy then Sink.given else .library
  return Newsletter.machine (start.getD (Command.effect (some "start") [])) clear sink

end

end Statechart.Reader
