import Statechart.CommandLine.Machines
import Statechart.Text.Blank
import Statechart.Yaml.Document

/-!
# Running a machine

A service of the machine is started, every event is sent to it in order, and each state that it publishes becomes a
row of a table, the first one being the state it started in.
-/

set_option autoImplicit false
set_option relaxedAutoImplicit false

namespace Statechart.CommandLine.Run

variable {σ : Type}

/-! ### Events -/

/-- An event as it is written in an argument: a word is its type, a mapping carries data too. -/
def parseEvent (raw : String) : Outcome Event :=
  let text := Text.trim raw
  if !text.startsWith "\x7b" then .ok ⟨.text text, []⟩
  else
    match Yaml.load text with
    | .error (.fault .badYaml _) =>
      .error (.usage (some ("invalid event mapping " ++ Text.quoted raw)))
    | .error f => .error f
    | .ok v =>
      match Event.ofValue v with
      | .ok e => .ok e
      | .error f => .error (if f.isOwn then .usage f.message? else f)

/-! ### The table -/

/-- A context in a cell: the entries of a table, any other value as it is written. -/
def formatContext (context : Value) : Outcome String :=
  match context.opened with
  | .table es => do
    if es.isEmpty then return "\x7b\x7d"
    return ", ".intercalate (← es.mapM fun (k, v) ↦ do return (← k.shown?) ++ "=" ++ (← v.literal?))
  | _ => context.literal?

/-- A state that was published, with what brought it about. -/
structure Moment where
  label : String
  state : Snapshot
deriving Repr

def row (number : Nat) (m : Moment) : Outcome (List String) := do
  return [toString number, m.label, ← m.state.value.shown?, if m.state.changed then "[green]✓[/green]" else "-",
    ← formatContext m.state.context]

def historyTable (machine : Value) (history : List Moment) : Outcome Display := do
  return .table ("Machine: " ++ (← machine.shown?)) ["#", "Event", "State", "Changed", "Context"]
    (← history.zipIdx.mapM fun (m, i) ↦ row i m)

/-! ### The run -/

/-- The name under which the run knows its service, and the listener that it subscribes. -/
def serviceName : String := "service"

def recorder : String := "recorder"

/-- The states that the recorder was called with, in order. -/
def recorded (journal : List Entry) : List Snapshot :=
  journal.reverse.filterMap fun e ↦
    match e with
    | .milestone _ _ (.replayed (.named name) s) | .milestone _ _ (.notified (.named name) s) =>
      if name == recorder then some s else none
    | _ => none

/-- A world with nothing in it but the machine. -/
def emptyWorld (m : Machine σ) (memory : σ) : World σ :=
  { machine := some m, behaviour := fun _ _ ↦ .done, memory := memory }

/-- The outcome of a request with the states that were published meanwhile, and the world with its whole journal. -/
def ask (w : World σ) (r : Request σ) (label : String) : World σ × Outcome (List Moment) :=
  let (next, signal) := { w with journal := [] }.ask r
  let history := (recorded next.journal).map (Moment.mk label)
  let outcome := match signal with
    | .returning _ => .ok history
    | .failing f => .error f
  ({ next with journal := next.journal ++ w.journal }, outcome)

/-- The labelled requests of a run, up to the first that fails. -/
def askAll (w : World σ) : List (Outcome String × Request σ) → World σ × Outcome (List Moment)
  | [] => (w, .ok [])
  | (.error f, _) :: _ => (w, .error f)
  | (.ok label, r) :: rest =>
    match ask w r label with
    | (w, .error f) => (w, .error f)
    | (w, .ok history) =>
      let (w, outcome) := askAll w rest
      (w, outcome.map (history ++ ·))

/-- What a label for an event says. -/
def eventLabel (e : Event) : Outcome String := e.kind.shown?

def startLabel : String := "(start)"

/-- What is asked of a service once it runs. -/
def requests (events : List Event) : List (Outcome String × Request σ) :=
  (.ok startLabel, .subscribe serviceName recorder recorder)
    :: events.map fun e ↦ (eventLabel e, .send serviceName e.toValue)

/-- A moment with the tokens in it as they are in a world. -/
def Moment.picture (w : World σ) (m : Moment) : Moment := { m with state := w.pictureSnapshot m.state }

/-- The history of a service of the machine, with tokens as they are in the end. The service is stopped in the end,
also after a failure, unless it could not be started. -/
def history (m : Machine σ) (memory : σ) (events : List Event) : World σ × Outcome (List Moment) :=
  match askAll (emptyWorld m memory) [(.ok startLabel, .create serviceName), (.ok startLabel, .enter serviceName)] with
  | (w, .error f) => (w, .error f)
  | (w, .ok _) =>
    let (w, outcome) := askAll w (requests events)
    let w := (ask w (.leave serviceName) startLabel).1
    (w, outcome.map (List.map (Moment.picture w)))

/-- Plays the events on a machine, in a session. -/
def play (m : Machine σ) (events : List Event) : Act σ (Outcome (List Moment)) := do
  let s ← get
  let (w, outcome) := history m s.memory events
  set { s with memory := w.memory, project := { s.project with journal := w.journal ++ s.project.journal } }
  return outcome

def failedText : String := "[red]✗ Run failed:[/red]"

/-- The events of arguments, each a document of its own beside that of the machine. -/
def parseEvents (events : List String) : Outcome (List Event) :=
  events.zipIdx.mapM fun (raw, i) ↦ do
    let e ← parseEvent raw
    return ⟨e.kind.inDocument (i + 1), e.data.map fun (k, v) ↦ (k.inDocument (i + 1), v.inDocument (i + 1))⟩

def run (file : Option Path) (events : List String) : Act σ Unit := do
  let events ← Act.ofOutcome (parseEvents events)
  match ← machineFiles file with
  | [path] =>
    let m ← Act.reporting failedText (← loadMachine path)
    let history ← Act.reporting failedText (← play m events)
    Act.display (← Act.ofOutcome (historyTable m.name history))
  | paths =>
    Act.complain ("[red]✗ Several machines are configured,[/red] pass one of: "
      ++ ", ".intercalate (paths.map (·.text)))

end Statechart.CommandLine.Run
