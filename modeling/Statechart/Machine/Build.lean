import Statechart.Machine.Basic
import Statechart.Text.Order

/-!
# Building machines

A machine is built from a description in which states and transitions may be written in several ways: as finished
nodes and transitions, as tables of their parts, or, for a transition, as the bare text of its target. The parts are
brought into one form in the order in which they stand; then the references between them are checked.
-/

set_option autoImplicit false
set_option relaxedAutoImplicit false

namespace Statechart

variable {σ : Type}

/-- What stands where actions are expected. -/
inductive ActionList (σ : Type) where
  | items (candidates : List (Candidate σ))
  | value (v : Value)

/-- The items that a value gives when gone through in order. -/
def Value.items (v : Value) : Outcome (List Value) :=
  match v.opened with
  | .list xs | .tuple xs | .set xs => .ok xs
  | .table entries => .ok (Entries.keys entries)
  | .text s | .symbol _ s => .ok (s.toList.map fun c ↦ .text (String.ofList [c]))
  | .bytes b => .ok (b.map fun n ↦ .int n.toNat)
  | .event _ _ => .error .missingKey
  | _ => .error .wrongType

namespace ActionList

def empty : ActionList σ := .items []

/-- The actions of a list; what counts as false is an empty list. -/
def toActions : ActionList σ → Outcome (List (Action σ))
  | .items candidates => candidates.mapM Candidate.toAction
  | .value v => if v.isTruthy then do (← v.items).mapM fun x ↦ (Candidate.ofValue x).toAction else .ok []

end ActionList

/-- The parts of a transition. -/
structure TransitionParts (σ : Type) where
  target : Value := .null
  guard : Option (Callee σ) := none
  actions : ActionList σ := .empty

/-- A transition as it is written. -/
inductive TransitionSource (σ : Type) where
  | built (t : Transition σ)
  | parts (p : TransitionParts σ)
  | value (v : Value)

namespace Transition

/-- A reference to a state; null refers to the current one. -/
def targetOf : Value → Option Value
  | .null => none
  | v => some v

def ofParts (p : TransitionParts σ) : Outcome (Transition σ) := do
  return ⟨targetOf p.target, p.guard, ← p.actions.toActions⟩

def ofSource : TransitionSource σ → Outcome (Transition σ)
  | .built t => .ok t
  | .parts p => ofParts p
  | .value v =>
    match v.asText? with
    | some _ => .ok ⟨some v, none, []⟩
    | none => .error (.refusing "on" "transitions must be TransitionDefinition or mappings" v)

end Transition

/-- What stands where a table of transitions is expected. -/
inductive OnSource (σ : Type) where
  | entries (es : List (Value × TransitionSource σ))
  | value (v : Value)

/-- The parts of a node. -/
structure NodeParts (σ : Type) where
  on : OnSource σ := .entries []
  entry : ActionList σ := .empty
  exit : ActionList σ := .empty

/-- A node as it is written. -/
inductive NodeSource (σ : Type) where
  | built (n : Node σ)
  | parts (p : NodeParts σ)
  | value (v : Value)

namespace Node

/-- Transitions in the order of their events. -/
def transitionsOf : List (Value × TransitionSource σ) → Outcome (List (Value × Transition σ))
  | [] => .ok []
  | (event, source) :: rest => do
    let t ← Transition.ofSource source
    return (event, t) :: (← transitionsOf rest)

/-- A node from its parts: transitions before entry, entry before exit. -/
def ofParts (p : NodeParts σ) : Outcome (Node σ) := do
  let on ← match p.on with
    | .entries es => transitionsOf es
    | .value _ => .error (.plain .missingAttribute)
  let entry ← p.entry.toActions
  let exit ← p.exit.toActions
  return ⟨on, entry, exit⟩

/-- A node from a table of its parts, where an empty or missing table of transitions is none. -/
def ofTable (p : NodeParts σ) : Outcome (Node σ) :=
  match p.on with
  | .value v => if v.isTruthy then ofParts p else ofParts { p with on := .entries [] }
  | .entries _ => ofParts p

def ofSource : NodeSource σ → Outcome (Node σ)
  | .built n => .ok n
  | .parts p => ofTable p
  | .value v => .error (.refusing "states" "state nodes must be StateNode or mappings" v)

end Node

/-- What stands where the states are expected. -/
inductive StatesSource (σ : Type) where
  | entries (es : List (Value × NodeSource σ))
  | value (v : Value)

/-- The distinct keys of a list, in order. -/
def distinctKeys (vs : List Value) : Outcome (List Value) :=
  if vs.all Value.isKey then
    .ok (vs.foldl (fun seen v ↦ if seen.any fun k ↦ k.alike v then seen else seen ++ [v]) [])
  else .error .wrongType

/-- A closed set of event kinds, none for null. -/
def eventSet : Value → Outcome (Option (List Value))
  | .null => .ok none
  | v => do return some (← distinctKeys (← v.items))

/-- A list of quoted texts. -/
def textsLiteral (texts : List String) : String := (Value.ofTexts texts).literal

/-- The texts of values, sorted and quoted. -/
def sortedLiteral (vs : List Value) : Outcome String := do
  return textsLiteral (Text.sorted (← vs.mapM Value.shown?))

namespace Machine

def nodesOf : List (Value × NodeSource σ) → Outcome (List (Value × Node σ))
  | [] => .ok []
  | (state, source) :: rest => do
    let n ← Node.ofSource source
    return (state, n) :: (← nodesOf rest)

/-- Whether a state is declared; what cannot be a key is a fault. -/
def declares (states : List (Value × Node σ)) (value : Value) : Outcome Bool :=
  if value.isKey then .ok (Entries.contains states value) else .error .wrongType

/-- Checks the event and the target of one transition of a state. -/
def checkTransition (states : List (Value × Node σ)) (events : Option (List Value)) (state event : Value)
    (t : Transition σ) : Outcome Unit := do
  match events with
  | none => pure ()
  | some kinds =>
    if kinds.any fun k ↦ k.alike event then pure ()
    else throw (.refusing "on" ("event of state " ++ (← state.literal?) ++ " not in events: "
      ++ (← sortedLiteral kinds)) event)
  match t.target with
  | none => pure ()
  | some target =>
    if ← declares states target then pure ()
    else throw (.refusing "target" ("transition " ++ (← state.literal?) ++ " --" ++ (← event.shown?)
      ++ "--> is not a declared state") target)

/-- Checks the transitions of a list of states against all states. -/
def checkStates (states : List (Value × Node σ)) (events : Option (List Value)) :
    List (Value × Node σ) → Outcome Unit
  | [] => .ok ()
  | (state, node) :: rest => do
    node.on.forM fun (event, t) ↦ checkTransition states events state event t
    checkStates states events rest

/-- Checks that there is a state, that the initial one is declared, and all references of transitions. -/
def check (m : Machine σ) : Outcome Unit := do
  if m.states.isEmpty then throw (.validation "states" "at least one state is required" .null)
  if !(← declares m.states m.initial) then
    throw (.refusing "initial" ("not in states: " ++ (← sortedLiteral (Entries.keys m.states))) m.initial)
  checkStates m.states m.events m.states

/-- A machine from states as they are written, a closed set of events being given as a value. -/
def ofParts (initial : Value) (states : StatesSource σ) (context events name : Value) :
    Outcome (Machine σ) := do
  let nodes ← match states with
    | .entries es => nodesOf es
    | .value _ => .error (.plain .missingAttribute)
  let events ← eventSet events
  let m : Machine σ := ⟨initial, nodes, context, events, name⟩
  m.check
  return m

/-- The parts of a machine in a description, each of which may be missing. -/
structure Description (σ : Type) where
  initial : Option Value := none
  states : Option (StatesSource σ) := none
  context : Option Value := none
  events : Option Value := none
  name : Option Value := none

/-- A machine from a description; a missing or null context is an empty table. -/
def ofDescription (d : Description σ) : Outcome (Machine σ) :=
  match d.initial, d.states with
  | some initial, some states => do
    let context := match d.context with
      | none | some .null => Value.table []
      | some v => v
    let events ← eventSet (d.events.getD .null)
    let events := match events with
      | none => Value.null
      | some kinds => .set kinds
    ofParts initial states context events (d.name.getD (.text "machine"))
  | _, _ => .error (.validation "definition" "'initial' and 'states' are required" .null)

end Machine

end Statechart
