import Statechart.Service.World

/-!
# Runs in single steps

A run is a world with a stack of frames, each saying what is to be done next when what stands above it has come to
an end, and a signal that tells how that end came: with an answer, or with a failure that unwinds the stack.

An event is handled to completion before the next: `Frame.drain` takes one event from the queue and calls the
callables that take part, `Frame.moving` stores the new state, performs the effects, then notifies the listeners.
Events sent meanwhile wait in the queue. An ordinary failure empties the queue on its way through the handling frames;
an interrupt does not.
-/

set_option autoImplicit false
set_option relaxedAutoImplicit false

namespace Statechart

inductive Frame (σ : Type) where
  /-- A script that goes on with the answer. -/
  | awaiting (next : Answer → Script σ)
  /-- A script that goes on with the answer or with the failure. -/
  | attempting (next : Outcome Answer → Script σ)
  /-- Gives an answer of its own. -/
  | reply (a : Answer)
  /-- Effects still to be performed. -/
  | effects (service : Nat) (context : Value) (event : Event) (rest : List (Effect σ))
  /-- The start of a service, whose first effects are being performed. -/
  | opening (service : Nat)
  /-- Takes the next event from the queue. -/
  | drain (service : Nat)
  /-- Leaves a state by an event once the callables that take part have been called. -/
  | moving (service : Nat) (source : State σ) (event : Event)
  /-- Makes a service once the callables of its first state have been called. -/
  | creating (name : String)
  | creatingHost (name : String) (onChange : Option String)
  /-- Begins the round of notifications. -/
  | announce (service : Nat) (event : Event)
  /-- A round of notifications over the registrations at its beginning. -/
  | round (owner : Option Nat) (what : Published) (rest : List (Nat × Listener))
  /-- Answers with the state of a service. -/
  | sent (service : Nat)
  /-- Keeps a subscription under a name. -/
  | keep (subscription : String) (handle : Handle)
  /-- A host whose service has started. -/
  | hostStarted (host : Nat) (name : String)
  | hostReady (host : Nat) (name : String)
  /-- Callbacks of a cancelled token still to be called. -/
  | cancelling (token : String) (rest : List Listener)

inductive Signal where
  | returning (a : Answer)
  | failing (f : Failure)
deriving Inhabited

structure Run (σ : Type) where
  world : World σ
  stack : List (Frame σ)
  signal : Signal

namespace Run

variable {σ : Type}

def answer (w : World σ) (stack : List (Frame σ)) (a : Answer) : Run σ := ⟨w, stack, .returning a⟩

def fail (w : World σ) (stack : List (Frame σ)) (f : Failure) : Run σ :=
  ⟨w, stack, .failing (w.pictureFailure f)⟩

/-- Goes on with a script. -/
def script (w : World σ) (stack : List (Frame σ)) (s : Script σ) : Run σ :=
  ⟨w, .awaiting (fun _ ↦ s) :: stack, .returning .null⟩

/-- Answers with what an evaluation gives. -/
def ofOutcome (w : World σ) (stack : List (Frame σ)) : Outcome Answer → Run σ
  | .ok a => answer w stack a
  | .error f => fail w stack f

/-- Calls a listener; a keeper stores the state with its host before it passes it on. -/
def call (w : World σ) (stack : List (Frame σ)) (l : Listener) (what : Published) : Run σ :=
  match l with
  | .keeper id =>
    match w.hosts[id]? with
    | none => answer w stack .null
    | some h =>
      let w := match what with
        | .state s => w.updateHost id fun h ↦ { h with current := s }
        | _ => w
      match h.onChange with
      | none => answer w stack .null
      | some name => script w stack (w.behaviour (.named name) what)
  | l => script w stack (w.behaviour l what)

/-- Runs what needs the service behind a name. -/
def withService (w : World σ) (stack : List (Frame σ)) (name : String)
    (k : Nat → Service σ → Run σ) : Run σ :=
  match w.serviceOf name with
  | .error f => fail w stack f
  | .ok id =>
    match w.services[id]? with
    | none => fail w stack .missingKey
    | some s => k id s

/-- Runs what needs a service itself, for which a host does not do. -/
def withOwnService (w : World σ) (stack : List (Frame σ)) (name : String)
    (k : Nat → Service σ → Run σ) : Run σ :=
  match World.lookup? w.names name with
  | some (.host _) => fail w stack (.plain .missingAttribute)
  | _ => withService w stack name k

/-- Starts a service that has not been started: the effects of its first state are performed. -/
def start (w : World σ) (stack : List (Frame σ)) (id : Nat) (s : Service σ) : Run σ :=
  match s.status with
  | .running => answer w stack .yes
  | .stopped => fail w stack (.lifecycle s.status.text "start")
  | .notStarted =>
    let w := (w.mark id (.started s.state.value)).updateService id fun s ↦
      { s with status := .running, processing := true, state := s.state.settled }
    answer w (.effects id s.state.context Event.init s.state.actions :: .opening id :: .reply .yes :: stack)
      .null

/-- Stops a service and drops its listeners and waiting events. -/
def stop (w : World σ) (id : Nat) : World σ :=
  match w.services[id]? with
  | none => w
  | some s =>
    let w := if s.status == .stopped then w else w.mark id (.stopped s.state.value)
    w.updateService id fun s ↦
      { s with status := .stopped, listeners := s.listeners.clear, queue := [] }

/-- Closes a host, which stops its service once. -/
def close (w : World σ) (id : Nat) : World σ :=
  match w.hosts[id]? with
  | none => w
  | some h =>
    if h.closed then w
    else
      let w := stop (w.updateHost id fun h ↦ { h with closed := true }) h.service
      match w.services[h.service]? with
      | none => w
      | some s => w.note (.record "hexchart.drivers.host" "DEBUG"
          ("Host for machine " ++ (w.picture s.machine.name).shown ++ " closed"))

/-- Sends an event: handled at once, or after the one that is being handled. -/
def send (w : World σ) (stack : List (Frame σ)) (id : Nat) (s : Service σ) (v : Value) : Run σ :=
  match Event.ofValue v with
  | .error f => fail w stack f
  | .ok event =>
    if s.status != .running then
      answer (w.mark id (.dropped event s.status)) stack (.state s.state.snapshot)
    else
      let w := (w.mark id (.accepted event)).updateService id fun s ↦ { s with queue := s.queue ++ [event] }
      if s.processing then
        answer (w.mark id (.queued event)) stack (.state s.state.snapshot)
      else
        let w := w.updateService id fun s ↦ { s with processing := true }
        answer w (.drain id :: .sent id :: stack) .null

/-- Subscribes a listener and calls it with the current state. -/
def subscribe (w : World σ) (stack : List (Frame σ)) (id : Nat) (s : Service σ) (l : Listener)
    (after : Handle → List (Frame σ)) : Run σ :=
  let (listeners, ticket) := s.listeners.add l
  let w := (w.updateService id fun s ↦ { s with listeners := listeners }).mark id
    (.replayed l s.state.snapshot)
  call w (after ⟨some id, ticket⟩ ++ stack) l (.state s.state.snapshot)

/-- What is done before a new service of the machine is there. -/
def initialCalls (w : World σ) : Script σ :=
  match w.machine with
  | none => .done
  | some m => m.initialCalls

/-- A new service of the machine. -/
def newService (w : World σ) : Outcome (World σ × Nat) :=
  match w.machine with
  | none => .error .missingKey
  | some m => do
    let state ← m.initialState
    return ({ w with services := w.services ++ [{ machine := m, state := state }] }, w.services.length)

/-- Cancels a token: its callbacks are called in order. -/
def cancel (w : World σ) (stack : List (Frame σ)) (id : String) (reason : Value) : Run σ :=
  let t := w.token id
  if t.cancelled then answer w stack (.value (.bool false))
  else
    let (t, callbacks) := t.cancel reason
    answer (w.setToken id t) (.cancelling id callbacks :: .reply .yes :: stack) .null

/-- Levels that the library's logger knows. -/
def levels : List String := ["TRACE", "DEBUG", "INFO", "SUCCESS", "WARNING", "ERROR", "CRITICAL"]

/-- Writes a line; the library's logger writes text at known levels only. -/
def write (w : World σ) (stack : List (Frame σ)) (sink : Sink) (level : String)
    (text : (Value → Value) → Outcome Value) : Run σ :=
  match text w.picture with
  | .error f => fail w stack f
  | .ok v =>
    match sink with
    | .given => answer (w.note (.written .given level v)) stack .null
    | .library =>
      if levels.contains level then
        answer (w.note (.written .library level (.text (w.picture v).shown))) stack .null
      else fail w stack .badValue

def handleOf (w : World σ) (subscription : String) : Outcome Handle :=
  match World.lookup? w.subscriptions subscription with
  | some h => .ok h
  | none => .error .missingKey

/-- Ends a registration. -/
def unsubscribe (w : World σ) (h : Handle) : World σ × Bool :=
  let (r, removed) := (w.registryOf h.owner).remove h.ticket
  (w.setRegistry h.owner r, removed)

/-- Makes a service under a name. -/
def create (w : World σ) (stack : List (Frame σ)) (name : String) : Run σ :=
  match newService w with
  | .error f => fail w stack f
  | .ok (w, id) => answer { w with names := World.bind w.names name (.service id) } stack .yes

/-- Makes a host, which starts a service of its own. -/
def createHost (w : World σ) (stack : List (Frame σ)) (name : String) (onChange : Option String) : Run σ :=
  match newService w with
  | .error f => fail w stack f
  | .ok (w, id) =>
    match w.services[id]? with
    | none => fail w stack .missingKey
    | some s =>
      let host := w.hosts.length
      let w := { w with hosts := w.hosts ++ [⟨id, onChange, s.state.snapshot, false⟩] }
      start w (.hostStarted host name :: stack) id s

/-- Does what a script requests. -/
def perform (w : World σ) (stack : List (Frame σ)) : Request σ → Run σ
  | .create name => script w (.creating name :: stack) (initialCalls w)
  | .createHost name onChange => script w (.creatingHost name onChange :: stack) (initialCalls w)
  | .start name => withOwnService w stack name fun id s ↦ start w stack id s
  | .stop name => withOwnService w stack name fun id _ ↦ answer (stop w id) stack .yes
  | .enter name =>
    match World.lookup? w.names name with
    | some (.host _) => answer w stack .yes
    | _ => withService w stack name fun id s ↦ start w stack id s
  | .leave name =>
    match World.lookup? w.names name with
    | some (.host h) => answer (close w h) stack .null
    | _ => withService w stack name fun id _ ↦ answer (stop w id) stack .null
  | .send name event => withService w stack name fun id s ↦ send w stack id s event
  | .subscribe name listener subscription =>
    withOwnService w stack name fun id s ↦
      subscribe w stack id s (.named listener) fun h ↦ [.keep subscription h]
  | .unsubscribe subscription =>
    match handleOf w subscription with
    | .error f => fail w stack f
    | .ok h =>
      let (w, removed) := unsubscribe w h
      answer w stack (.value (.bool removed))
  | .isActive subscription =>
    ofOutcome w stack ((handleOf w subscription).map fun h ↦
      .value (.bool ((w.registryOf h.owner).hasTicket h.ticket)))
  | .scope subscription =>
    match handleOf w subscription with
    | .error f => fail w stack f
    | .ok h =>
      let active := (w.registryOf h.owner).hasTicket h.ticket
      answer (unsubscribe w h).1 stack (.value (.bool active))
  | .describe name => withService w stack name fun _ s ↦
      ofOutcome w stack (do return .value (.text ("MachineService(machine=" ++ (← s.machine.name.literal?)
        ++ ", status=" ++ s.status.text ++ ", state=" ++ (← (w.picture s.state.value).literal?) ++ ")")))
  | .matchesValue name v =>
    match (World.lookup? w.names name).bind w.report with
    | some r => answer w stack (.value (.bool (r.state.value.same v)))
    | none => fail w stack .missingKey
  | .report name =>
    match (World.lookup? w.names name).bind w.report with
    | some r => answer w stack (.report r)
    | none => fail w stack .missingKey
  | .close name =>
    match World.lookup? w.names name with
    | some (.host h) => answer (close w h) stack .null
    | some (.service _) => fail w stack (.plain .missingAttribute)
    | none => fail w stack .missingKey
  | .createToken token name => answer (w.setToken token { name := name }) stack .null
  | .cancel token reason => cancel w stack token reason
  | .onCancel token callback =>
    let t := w.token token
    if t.cancelled then call w (.reply .null :: stack) callback (.token token)
    else answer (w.setToken token { t with callbacks := t.callbacks ++ [callback] }) stack .null
  | .checkToken token => ofOutcome w stack ((w.token token).check.map fun _ ↦ .null)
  | .viewToken token => answer w stack (.value (w.token token).view)
  | .describeToken token => answer w stack (.value (.text (w.token token).view.literal))
  | .register subscription listener =>
    let (r, ticket) := w.registry.add (.named listener)
    let w := { w with registry := r }
    match subscription with
    | none => fail w stack .missingKey
    | some name => answer { w with subscriptions := World.bind w.subscriptions name ⟨none, ticket⟩ } stack .yes
  | .notify v => answer w (.round none (.value v) w.registry.entries :: stack) .null
  | .clear => answer { w with registry := w.registry.clear } stack .null
  | .isRegistered listener => answer w stack (.value (.bool (w.registry.contains (.named listener))))
  | .remove ticket =>
    if !ticket.isKey then fail w stack .wrongType
    else
      match w.registry.ticket? ticket with
      | none => answer w stack (.value (.bool false))
      | some n => answer (unsubscribe w ⟨none, n⟩).1 stack .yes
  | .hasTicket ticket =>
    if !ticket.isKey then fail w stack .wrongType
    else answer w stack (.value (.bool (w.registry.ticket? ticket).isSome))
  | .journal entry => answer (w.note entry) stack .null
  | .write sink level text => write w stack sink level text
  | .change f =>
    let (a, memory) := f w.memory
    answer { w with memory := memory } stack a

/-- Takes the next event of a running service, or ends the handling of events. -/
def drain (w : World σ) (stack : List (Frame σ)) (id : Nat) (s : Service σ) : Run σ :=
  match s.status, s.queue with
  | .running, event :: queue =>
    script (w.updateService id fun s ↦ { s with queue := queue }) (.moving id s.state event :: .drain id :: stack)
      (s.machine.calls s.state event)
  | _, _ =>
    answer (w.updateService id fun s ↦ { s with processing := false, queue := [] }) stack .null

/-- Stores the state that follows a state, whose effects are performed before the listeners are called. -/
def move (w : World σ) (stack : List (Frame σ)) (id : Nat) (s : Service σ) (source : State σ) (event : Event) :
    Run σ :=
  match s.machine.transition source event with
  | .error f => fail w stack f
  | .ok next =>
    let w := (w.mark id (.committed source.value event next.snapshot)).updateService id fun s ↦
      { s with state := next.settled }
    answer w (.effects id next.context event next.actions :: .announce id event :: stack) .null

/-- Takes up a script: it ends, or its first request is performed. -/
def proceed (w : World σ) (stack : List (Frame σ)) : Script σ → Run σ
  | .done => answer w stack .null
  | .fail f => fail w stack f
  | .call r next => perform w (.awaiting next :: stack) r
  | .attempt r next => perform w (.attempting next :: stack) r

/-- Goes on below a frame whose upper part has ended with an answer. -/
def resume (w : World σ) (stack : List (Frame σ)) (a : Answer) : Frame σ → Run σ
  | .awaiting next => proceed w stack (next a)
  | .attempting next => proceed w stack (next (.ok a))
  | .reply a => answer w stack a
  | .effects _ _ _ [] => answer w stack .null
  | .effects id context event (e :: rest) =>
    script (w.mark id (.performed e.kind context event)) (.effects id context event rest :: stack)
      (e.exec.script context event)
  | .opening id => answer w (.drain id :: stack) .null
  | .drain id =>
    match w.services[id]? with
    | none => answer w stack .null
    | some s => drain w stack id s
  | .moving id source event =>
    match w.services[id]? with
    | none => answer w stack .null
    | some s => move w stack id s source event
  | .creating name => create w stack name
  | .creatingHost name onChange => createHost w stack name onChange
  | .announce id event =>
    match w.services[id]? with
    | none => answer w stack .null
    | some s =>
      answer (w.mark id (.announced event))
        (.round (some id) (.state s.state.snapshot) s.listeners.entries :: stack) .null
  | .round _ _ [] => answer w stack .null
  | .round owner what ((ticket, l) :: rest) =>
    if (w.registryOf owner).hasTicket ticket then
      let w := match owner, what with
        | some id, .state s => w.mark id (.notified l s)
        | _, _ => w
      call w (.round owner what rest :: stack) l what
    else answer w (.round owner what rest :: stack) .null
  | .sent id =>
    match w.services[id]? with
    | none => answer w stack .null
    | some s => answer w stack (.state s.state.snapshot)
  | .keep subscription handle =>
    answer { w with subscriptions := World.bind w.subscriptions subscription handle } stack .yes
  | .hostStarted host name =>
    match w.hosts[host]? with
    | none => answer w stack .null
    | some h =>
      match w.services[h.service]? with
      | none => answer w stack .null
      | some s =>
        let w := w.updateHost host fun h ↦ { h with current := s.state.snapshot }
        subscribe w stack h.service s (.keeper host) fun _ ↦ [.hostReady host name]
  | .hostReady host name =>
    answer { w with names := World.bind w.names name (.host host) } stack .yes
  | .cancelling _ [] => answer w stack .null
  | .cancelling token (l :: rest) => call w (.cancelling token rest :: stack) l (.token token)

/-- Passes a failure on below a frame, which may have to put its service in order first. -/
def unwind (w : World σ) (stack : List (Frame σ)) (f : Failure) : Frame σ → Run σ
  | .attempting next => proceed w stack (next (.error f))
  | .opening id =>
    if f.isOrdinary then
      ⟨w.updateService id fun s ↦ { s with queue := [], processing := false }, stack, .failing f⟩
    else ⟨w, stack, .failing f⟩
  | .drain id =>
    let queue (s : Service σ) := if f.isOrdinary then [] else s.queue
    ⟨w.updateService id fun s ↦ { s with queue := queue s, processing := false }, stack, .failing f⟩
  | _ => ⟨w, stack, .failing f⟩

/-- One step of a run; a run with an empty stack has ended. -/
def step (r : Run σ) : Run σ :=
  match r.stack with
  | [] => r
  | frame :: stack =>
    match r.signal with
    | .returning a => resume r.world stack a frame
    | .failing f => unwind r.world stack f frame

/-- The run after its last step; a run that goes on forever has none. -/
def last? (r : Run σ) : Option (Run σ) :=
  if r.stack.isEmpty then some r else r.step |>.last?
partial_fixpoint

/-- The world in which a run ends, and how; a run that goes on forever leaves its world as it was. -/
def ending (r : Run σ) : World σ × Signal :=
  match r.last? with
  | some last => (last.world, last.signal)
  | none => (r.world, r.signal)

end Run

namespace World

variable {σ : Type}

/-- The run of a script from a world with nothing under way, to its end. -/
def play (w : World σ) (s : Script σ) : World σ × Signal := (Run.script w [] s).ending

/-- The run of a single request, which ends with the answer. -/
def ask (w : World σ) (r : Request σ) : World σ × Signal := (Run.perform w [] r).ending

/-- The outcome of a computation that calls callables: one of them may fail before it. -/
def compute {α : Type} (w : World σ) (calls : Script σ) (o : Outcome α) : World σ × Outcome α :=
  match w.play calls with
  | (w, .returning _) => (w, o.mapError w.pictureFailure)
  | (w, .failing f) => (w, .error f)

end World

end Statechart
