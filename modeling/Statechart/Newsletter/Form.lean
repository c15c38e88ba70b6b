import Statechart.Newsletter.Submission
import Statechart.Scenario

/-!
# The signup form

A form has an input field and a host for the signup machine. Entering the submitting state begins a submission; leaving it
cancels the token of the submission, which aborts it unless it is the one that reports back. Submissions go on only while
the form settles, in the order in which they became ready, and one whose token is cancelled reports nothing.
-/

set_option autoImplicit false
set_option relaxedAutoImplicit false

namespace Statechart.Newsletter

/-- What the effects of a form work on. -/
structure Desk where
  input : Value := .text ""
  /-- Whether submissions can be begun at all. -/
  canBegin : Bool := true
  submissions : List Submission := []
  /-- The numbers of submissions that can go on, in order. -/
  ready : List Nat := []
  /-- The submission that is going on. -/
  current : Option Nat := none
  /-- How many tokens were made. -/
  tokens : Nat := 0

/-- The memory of a form's scripts. -/
abbrev FormMemory := Memory Desk

namespace Desk

def clearInput (d : Desk) : Desk := { d with input := .text "" }

/-- Begins a submission and gives its number. -/
def begin? (email token : Value) (d : Desk) : Option Nat × Desk :=
  if d.canBegin then
    let n := d.submissions.length
    (some n, { d with submissions := d.submissions ++ [⟨email, token, .fresh, false⟩], ready := d.ready ++ [n] })
  else (none, d)

def update (n : Nat) (f : Submission → Submission) (d : Desk) : Desk :=
  { d with submissions := d.submissions.modify n f }

/-- A submission can go on; it is not queued twice. -/
def wake (n : Nat) (d : Desk) : Desk :=
  if d.ready.contains n then d else { d with ready := d.ready ++ [n] }

/-- Aborts a submission, unless it is the one that is going on or has ended. -/
def abort (n : Nat) (d : Desk) : Desk :=
  match d.submissions[n]? with
  | some s =>
    if d.current == some n || s.isFinished then d
    else (d.update n fun s ↦ { s with aborted := true }).wake n
  | none => d

/-- Wakes the submissions that wait for a gate. -/
def openGate (gate : String) (d : Desk) : Desk :=
  d.submissions.zipIdx.foldl (fun d (s, n) ↦ if s.isWaitingFor gate then d.wake n else d) d

/-- How many submissions have not ended. -/
def pending (d : Desk) : Nat := (d.submissions.filter fun s ↦ !s.isFinished).length

/-- The name under which the next token is made. -/
def nextToken (d : Desk) : String × Desk :=
  ("newsletter-submit/" ++ toString d.tokens, { d with tokens := d.tokens + 1 })

end Desk

/-! ### Effects and calls as scripts -/

/-- A change of the desk as a request. -/
def onDesk (f : Desk → Answer × Desk) : Request FormMemory :=
  .change fun m ↦
    let (a, own) := f m.own
    (a, { m with own := own })

def clearInput : Callee FormMemory :=
  .effect (some "_clear_input") fun _ _ ↦ .request (onDesk fun d ↦ (.null, d.clearInput))

/-- Begins a submission for the context and has it aborted when its token is cancelled. -/
def startSubmission : Callee FormMemory :=
  .effect (some "_start_submission") fun context _ ↦
    match field context "email", field context "token" with
    | .ok email, .ok token =>
      .call (onDesk fun d ↦
        match d.begin? email token with
        | (some n, d) => (.value (.int n), d)
        | (none, d) => (.null, d)) fun a ↦
      match a, token with
      | .value (.int n), .token id => .request (.onCancel id (.numbered n.toNat))
      | .value (.int _), token => if token.isTruthy then .fail (.plain .missingAttribute) else .done
      | _, _ => .fail (.plain .runtime)
    | _, _ => .fail (.plain .missingAttribute)

/-- What callbacks do: numbered ones abort submissions, named ones are given. -/
def behaviour (named : String → Published → Script FormMemory) : Listener → Published → Script FormMemory
  | .numbered n, _ => .request (onDesk fun d ↦ (.null, d.abort n))
  | .named name, what => named name what
  | .keeper _, _ => .done

namespace Form

/-- The name of the form's host. -/
def host : String := "form"

/-- The name that tokens of submissions show. -/
def tokenName : String := "newsletter-submit"

def event (kind : Value) (data : List (String × Value)) : Value :=
  .event kind (data.map fun (name, v) ↦ (.text name, v))

/-- Submits an address, or what the input holds, with a token of its own. -/
def submit (email : Option Value) : Script FormMemory :=
  .call (onDesk fun d ↦ (.value (.tuple [.bool d.canBegin, email.getD d.input]), d)) fun a ↦
    match a with
    | .value (.tuple [.bool true, email]) =>
      .call (onDesk fun d ↦
        let (id, d) := d.nextToken
        (.value (.text id), d)) fun a ↦
      match a with
      | .value (.text id) =>
        .call (.createToken id tokenName) fun _ ↦
          .request (.send host (event submitEvent [("email", email), ("token", .token id)]))
      | _ => .done
    | _ => .fail (.plain .runtime)

def send (e : Value) : Script FormMemory := .request (.send host e)

def cancel : Script FormMemory := send cancelEvent

def reset : Script FormMemory := send resetEvent

def setInput (v : Value) : Script FormMemory := .request (onDesk fun d ↦ (.null, { d with input := v }))

def close : Script FormMemory := .request (.close host)

end Form

/-! ### Forms -/

structure Form where
  world : World FormMemory
  submitter : Submitter
  /-- Gates that were opened. -/
  gates : List String := []

namespace Form

def desk (f : Form) : Desk := f.world.memory.own

def changeDesk (change : Desk → Desk) (f : Form) : Form :=
  { f with world := { f.world with memory := { f.world.memory with own := change f.desk } } }

/-- Plays a script in the form's world. -/
def play (f : Form) (s : Script FormMemory) : Form × Outcome Unit :=
  let (w, signal) := f.world.play s
  ({ f with world := w }, match signal with
    | .returning _ => .ok ()
    | .failing e => .error e)

/-- A form with its host, whose listener is called with the first state. -/
def create (submitter : Submitter) (sink : Sink) (canBegin : Bool) (onChange : Option String)
    (named : String → Published → Script FormMemory) : Form × Outcome Unit :=
  let w : World FormMemory :=
    { machine := some (machine startSubmission (some clearInput) sink)
      behaviour := behaviour named
      memory := { own := { canBegin := canBegin } } }
  ({ world := w, submitter } : Form).play (.request (.createHost host onChange))

/-- Whether the token of a submission is cancelled; what is no token cannot be asked. -/
def isCancelled (f : Form) (token : Value) : Outcome Bool :=
  match token with
  | .token id => .ok (f.world.token id).cancelled
  | v => if v.isTruthy then .error (.plain .missingAttribute) else .ok false

def note (f : Form) (e : Entry) : Form := { f with world := f.world.note e }

/-- The part of the library that logs about submissions. -/
def part : String := "hexchart.stdlib.newsletter"

def failureRecord (email : Value) (e : Failure) : Entry :=
  .record part "DEBUG" ("Submission for " ++ email.shown ++ " failed: " ++ e.said)

/-- Reports how a submission ended, unless it was cancelled. -/
def report (f : Form) (s : Submission) (outcome : Outcome Value) : Form × Outcome Unit :=
  match outcome, f.isCancelled s.token with
  | .error e, cancelled =>
    if !e.isOrdinary then (f, .error e)
    else
      match cancelled with
      | .error e => (f, .error e)
      | .ok true => (f, .ok ())
      | .ok false =>
        (f.note (failureRecord s.email e)).play
          (send (event logErrorEvent [("message", .text e.said)]))
  | .ok _, .error e => (f, .error e)
  | .ok _, .ok true => (f, .ok ())
  | .ok message, .ok false => f.play (send (event logSuccessEvent [("message", message)]))

/-- Ends a submission. A failure while it reports ends with it, unless it is an interrupt. -/
def finish (f : Form) (n : Nat) (s : Submission) (outcome : Option (Outcome Value)) : Form × Outcome Unit :=
  let (f, reported) : Form × Outcome Unit := match outcome with
    | none => (f, .ok ())
    | some o => (f.changeDesk fun d ↦ { d with current := some n }).report s o
  let f := f.changeDesk fun d ↦ { d.update n fun s ↦ { s with phase := .finished } with current := none }
  (f, match reported with
    | .error e => if e.isOrdinary then .ok () else .error e
    | .ok () => .ok ())

/-- Lets a submission go on that has taken a course: it ends, or waits for its gate. -/
def follow (f : Form) (n : Nat) (s : Submission) (c : Course) : Form × Outcome Unit :=
  match c.gate with
  | none => f.finish n s (some c.outcome)
  | some gate =>
    if f.gates.contains gate then f.finish n s (some c.outcome)
    else (f.changeDesk (·.update n fun s ↦ { s with phase := .waiting c }), .ok ())

/-- Asks the submitter. -/
def begin (f : Form) (n : Nat) (s : Submission) : Form × Outcome Unit :=
  let f := (f.submitter.records s.email).foldl note f
  let (submitter, course) := f.submitter.ask
  { f with submitter }.follow n s course

/-- Lets a submission go on. -/
def advance (f : Form) (n : Nat) (s : Submission) : Form × Outcome Unit :=
  match s.phase, s.aborted with
  | .finished, _ => (f, .ok ())
  | .fresh, true => f.finish n s none
  | .fresh, false => f.begin n s
  | .waiting c, true => (f.note (.abandoned s.email)).finish n s c.whenAborted
  | .waiting c, false => f.follow n s c

/-- Lets submissions go on until none can, or the fuel is used up. -/
def settleFor : Nat → Form → Form × Outcome Unit
  | 0, f => (f, .ok ())
  | fuel + 1, f =>
    match f.desk.ready with
    | [] => (f, .ok ())
    | n :: rest =>
      let f := f.changeDesk fun d ↦ { d with ready := rest }
      match f.desk.submissions[n]? with
      | none => settleFor fuel f
      | some s =>
        match f.advance n s with
        | (f, .ok ()) => settleFor fuel f
        | (f, .error e) => (f, .error e)

/-- More turns than submissions take that end in practice. -/
def turns : Nat := 1000000000000

/-- Lets submissions go on until none can. -/
def settle (f : Form) : Form × Outcome Unit := settleFor turns f

/-- Opens a gate. -/
def openGate (f : Form) (gate : String) : Form :=
  { f with gates := gate :: f.gates }.changeDesk (·.openGate gate)

/-- Closes the form and what its submitter holds. -/
def closeAll (f : Form) : Form × Outcome Unit :=
  let (f, outcome) := f.play close
  match outcome with
  | .ok () => ({ f with submitter := f.submitter.close }, .ok ())
  | .error e => (f, .error e)

/-- The state that the form shows, which is that of its host. -/
def current? (f : Form) : Option Snapshot :=
  match World.lookup? f.world.names host with
  | some (.host id) => f.world.hosts[id]?.map fun h ↦ f.world.pictureSnapshot h.current
  | _ => none

/-- The state that its service is in, which a call answers with. -/
def answered? (f : Form) : Option Snapshot :=
  match f.world.serviceOf host with
  | .ok id => f.world.services[id]?.map fun s ↦ f.world.pictureSnapshot s.state.snapshot
  | .error _ => none

/-- Whether a submission is under way. -/
def isBusy (f : Form) : Bool := f.current?.any fun s ↦ s.value.same submitting

end Form

end Statechart.Newsletter
