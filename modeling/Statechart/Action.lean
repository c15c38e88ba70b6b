import Statechart.Script

/-!
# Actions

A callable is a pure function of context and event, or an effect, whose script runs when it is called. An action
either assigns a new context, computed with the next state, or is an effect left for a service to perform.
`Action.partition` folds the assignments of a list and keeps its effects in order; an effect that stands where a
function is expected gives nothing as its value, and `Action.calls` says what it does meanwhile.
-/

set_option autoImplicit false
set_option relaxedAutoImplicit false

namespace Statechart

variable {σ : Type}

/-- Something that stands where a callable is expected. -/
inductive Callee (σ : Type) where
  | function (name : Option String) (body : Value → Event → Outcome Value)
  | effect (name : Option String) (body : Value → Event → Script σ)
  /-- A value that cannot be called. -/
  | inert (v : Value)

namespace Callee

def name? : Callee σ → Option String
  | .function name _ => name
  | .effect name _ => name
  | .inert _ => none

def isCallable : Callee σ → Bool
  | .inert _ => false
  | _ => true

/-- What a value stands for where a callable is expected: a class of records makes one of context and event. -/
def ofValue : Value → Callee σ
  | .type name fields => .function (some name) fun context event ↦
      match Value.recordOf? name fields [context, event.toValue] with
      | some v => .ok v
      | none => .error .wrongType
  | v => .inert v

/-- The value that the call gives; an effect gives none. -/
def apply (c : Callee σ) (context : Value) (event : Event) : Outcome Value :=
  match c with
  | .function _ body => body context event
  | .effect _ _ => .ok .null
  | .inert _ => .error .wrongType

/-- What the call does besides giving its value: functions do nothing, an effect runs its script. -/
def calls (c : Callee σ) (context : Value) (event : Event) : Script σ :=
  match c with
  | .effect _ body => body context event
  | .function _ _ | .inert _ => .done

/-- What the call does. -/
def script (c : Callee σ) (context : Value) (event : Event) : Script σ :=
  match c with
  | .function _ body => .ofOutcome (body context event)
  | .effect _ body => body context event
  | .inert _ => .fail .wrongType

end Callee

/-- An effect with its kind, for a service to perform. -/
structure Effect (σ : Type) where
  kind : String
  exec : Callee σ

inductive Action (σ : Type) where
  | assign (assignment : Callee σ)
  | effect (e : Effect σ)

namespace Action

/-- The kind of every assignment. -/
def assignKind : String := "ASSIGN_CONTEXT"

def kind : Action σ → String
  | .assign _ => assignKind
  | .effect e => e.kind

/-- The kind of an effect: as asked for, else the name of its callable. -/
def effectKind (kind : Option String) (c : Callee σ) : String :=
  match kind with
  | some k => if k == "" then c.name?.getD "effect" else k
  | none => c.name?.getD "effect"

/-- An assignment, which has to be callable. -/
def ofAssignment : Callee σ → Outcome (Action σ)
  | .inert v => .error (.refusing "assign" "assignment must be callable" v)
  | c => .ok (.assign c)

/-- A callable as an effect of a kind. -/
def ofEffect (kind : Option String) (c : Callee σ) : Action σ := .effect ⟨effectKind kind c, c⟩

/-- The fields of a record with new values; every name has to be a field. -/
def replaceFields (fields : List (String × Value)) : List (String × Value) → Outcome (List (String × Value))
  | [] => .ok fields
  | (name, v) :: rest =>
    if fields.any fun f ↦ f.1 == name then
      replaceFields (fields.map fun f ↦ if f.1 == name then (name, v) else f) rest
    else .error .wrongType

/-- Literal values laid over a context that is a table, or that has fields. -/
def overlay (values : List (String × Value)) (context : Value) : Outcome Value :=
  match context.opened with
  | .table entries => .ok (.table (Entries.overlay entries (values.map fun (k, v) ↦ (.text k, v))))
  | v =>
    match v.asRecord? with
    | some (name, fields) => (replaceFields fields values).map (.withFields name)
    | none => .error
        (.validation "assign_values" "context must be a mapping or dataclass" (.text v.kindName))

/-- An assignment of literal values. -/
def ofValues (values : List (String × Value)) : Action σ :=
  .assign (.function (some "_overlay") fun context _ ↦ overlay values context)

/-- What a written line says: a fixed text, or a value computed from context and event. -/
inductive Message where
  | fixed (v : Value)
  | computed (body : Value → Event → Outcome Value)

/-- An effect that writes a line. -/
def ofLog (message : Message) (sink : Sink) (level kind : String) : Action σ :=
  .effect ⟨kind, .effect (some "_log") fun context event ↦
    .request (.write sink level fun picture ↦
      match message with
      | .fixed v => .ok v
      | .computed body =>
        body (picture context) ⟨picture event.kind, event.data.map fun e ↦ (e.1, picture e.2)⟩)⟩

/-- What taking an action by itself does. -/
def script (a : Action σ) (context : Value) (event : Event) : Script σ :=
  match a with
  | .assign f => f.calls context event
  | .effect e => e.exec.script context event

/-- What taking an action by itself gives: the new context of an assignment. -/
def value (a : Action σ) (context : Value) (event : Event) : Outcome Value :=
  match a with
  | .assign f => f.apply context event
  | .effect _ => .ok .null

/-- The context after the assignments of a list, and its effects in order. -/
def partition (context : Value) (event : Event) : List (Action σ) → Outcome (Value × List (Effect σ))
  | [] => .ok (context, [])
  | .assign f :: rest => do
    partition (← f.apply context event) event rest
  | .effect e :: rest => do
    let (context, effects) ← partition context event rest
    return (context, e :: effects)

/-- What the assignments of a list do while the context is computed; what fails ends it. -/
def calls (context : Value) (event : Event) : List (Action σ) → Script σ
  | [] => .done
  | .assign f :: rest =>
    (f.calls context event).andThen (match f.apply context event with
      | .ok context => calls context event rest
      | .error _ => .done)
  | .effect _ :: rest => calls context event rest

end Action

/-- A candidate for an action as it stands in a list. -/
inductive Candidate (σ : Type) where
  | action (a : Action σ)
  | callable (c : Callee σ)

namespace Candidate

/-- Callables become effects; what is no callable is refused. -/
def toAction : Candidate σ → Outcome (Action σ)
  | .action a => .ok a
  | .callable (.inert v) => .error (.refusing "actions" "entries must be actions or callables" v)
  | .callable c => .ok (.ofEffect none c)

def ofValue (v : Value) : Candidate σ := .callable (.ofValue v)

end Candidate

end Statechart
