import Statechart.Machine.Transition
import Statechart.Registry
import Statechart.Token

/-!
# The world of a run

A world holds the services, hosts, subscriptions and tokens that a run works on, the journal, latest entry first,
and the memory of the scripts. Callbacks are known by their listeners; a world says what each of them does.
-/

set_option autoImplicit false
set_option relaxedAutoImplicit false

namespace Statechart

/-- A running instance of a machine. -/
structure Service (σ : Type) where
  machine : Machine σ
  status : Status := .notStarted
  state : State σ
  listeners : Registry := {}
  /-- Events accepted and not yet processed, in order. -/
  queue : List Event := []
  /-- Whether an event, or the start, is being handled. -/
  processing : Bool := false

/-- A host keeps the latest state that its service published to it. -/
structure Host where
  service : Nat
  onChange : Option String
  current : Snapshot
  closed : Bool := false
deriving Inhabited

/-- What a name stands for. -/
inductive Subject where
  | service (id : Nat)
  | host (id : Nat)
deriving DecidableEq, Repr, Inhabited

/-- A registration, in the registry of a service or in the free one. -/
structure Handle where
  owner : Option Nat
  ticket : Nat
deriving DecidableEq, Repr, Inhabited

structure World (σ : Type) where
  /-- The machine of the services that the run makes. -/
  machine : Option (Machine σ)
  /-- What a callback does with what it is called with. -/
  behaviour : Listener → Published → Script σ
  services : List (Service σ) := []
  hosts : List Host := []
  names : List (String × Subject) := []
  subscriptions : List (String × Handle) := []
  tokens : List (String × Token) := []
  registry : Registry := {}
  journal : List Entry := []
  memory : σ

namespace World

variable {σ : Type}

/-- A value written under a name, over the one that was there. -/
def bind {α : Type} (names : List (String × α)) (name : String) (a : α) : List (String × α) :=
  match names with
  | [] => [(name, a)]
  | (n, b) :: rest => if n == name then (name, a) :: rest else (n, b) :: bind rest name a

def lookup? {α : Type} (names : List (String × α)) (name : String) : Option α :=
  (names.find? fun n ↦ n.1 == name).map (·.2)

def updateService (w : World σ) (id : Nat) (f : Service σ → Service σ) : World σ :=
  { w with services := w.services.modify id f }

def updateHost (w : World σ) (id : Nat) (f : Host → Host) : World σ :=
  { w with hosts := w.hosts.modify id f }

/-- The token of a name; a new one on first use. -/
def token (w : World σ) (id : String) : Token := (lookup? w.tokens id).getD { name := id }

def setToken (w : World σ) (id : String) (t : Token) : World σ := { w with tokens := bind w.tokens id t }

/-- The picture of a value, with its tokens as they are now. -/
def picture (w : World σ) (v : Value) : Value := v.picture fun id ↦ (w.token id).view

def pictureSnapshot (w : World σ) (s : Snapshot) : Snapshot :=
  { s with value := w.picture s.value, context := w.picture s.context }

def pictureEvent (w : World σ) (e : Event) : Event :=
  ⟨w.picture e.kind, e.data.map fun d ↦ (w.picture d.1, w.picture d.2)⟩

def pictureAnswer (w : World σ) : Answer → Answer
  | .value v => .value (w.picture v)
  | .state s => .state (w.pictureSnapshot s)
  | .report r => .report { r with state := w.pictureSnapshot r.state }

def picturePublished (w : World σ) : Published → Published
  | .state s => .state (w.pictureSnapshot s)
  | .token id => .value (w.token id).view
  | .value v => .value (w.picture v)

def pictureEntry (w : World σ) : Entry → Entry
  | .effect name context kind => .effect name (w.picture context) (w.picture kind)
  | .listener name what => .listener name (w.picturePublished what)
  | .answered word answer => .answered word (w.pictureAnswer answer)
  | .written sink level text => .written sink level (w.picture text)
  | .asked email => .asked (w.picture email)
  | .abandoned email => .abandoned (w.picture email)
  | e => e

def pictureFailure (w : World σ) : Failure → Failure
  | .validation field constraint value => .validation field constraint (w.picture value)
  | .unknownState state declared => .unknownState (w.picture state) declared
  | .http status body text => .http (w.picture status) (w.picture body) text
  | .cancelled name reason => .cancelled name (w.picture reason)
  | f => f

/-- The world with an entry in its journal. -/
def note (w : World σ) (e : Entry) : World σ := { w with journal := w.pictureEntry e :: w.journal }

/-- The world with a milestone of a service in its journal. -/
def mark (w : World σ) (id : Nat) (what : Milestone) : World σ :=
  match w.services[id]? with
  | some s => { w with journal := .milestone id s.machine.name what :: w.journal }
  | none => w

/-- The registry of an owner. -/
def registryOf (w : World σ) : Option Nat → Registry
  | none => w.registry
  | some id => (w.services[id]?.map (·.listeners)).getD {}

def setRegistry (w : World σ) (owner : Option Nat) (r : Registry) : World σ :=
  match owner with
  | none => { w with registry := r }
  | some id => w.updateService id fun s ↦ { s with listeners := r }

/-! ### Services under the changes of a world -/

@[simp] theorem services_mark (w : World σ) (id : Nat) (what : Milestone) :
    (w.mark id what).services = w.services := by
  unfold mark
  split <;> rfl

@[simp] theorem memory_mark (w : World σ) (id : Nat) (what : Milestone) : (w.mark id what).memory = w.memory := by
  unfold mark
  split <;> rfl

@[simp] theorem services_note (w : World σ) (e : Entry) : (w.note e).services = w.services := rfl

@[simp] theorem services_setToken (w : World σ) (id : String) (t : Token) :
    (w.setToken id t).services = w.services := rfl

@[simp] theorem services_updateHost (w : World σ) (id : Nat) (f : Host → Host) :
    (w.updateHost id f).services = w.services := rfl

theorem getElem?_updateService (w : World σ) (i id : Nat) (f : Service σ → Service σ) :
    (w.updateService i f).services[id]? = if i = id then w.services[id]?.map f else w.services[id]? := by
  simp only [updateService, List.getElem?_modify]
  split
  · simp
  · simp

@[simp] theorem getElem?_updateService_self (w : World σ) (id : Nat) (f : Service σ → Service σ) :
    (w.updateService id f).services[id]? = w.services[id]?.map f := by
  rw [getElem?_updateService, if_pos rfl]

theorem getElem?_updateService_of_ne (w : World σ) {i id : Nat} (h : i ≠ id) (f : Service σ → Service σ) :
    (w.updateService i f).services[id]? = w.services[id]? := by
  rw [getElem?_updateService, if_neg h]

/-! ### What names stand for -/

/-- What a service, or a host with the state it keeps, shows. -/
def report (w : World σ) : Subject → Option Report
  | .service id => w.services[id]?.map fun s ↦ ⟨s.state.snapshot, s.status, s.listeners.size, none⟩
  | .host id => do
    let h ← w.hosts[id]?
    let s ← w.services[h.service]?
    return ⟨h.current, s.status, s.listeners.size, some h.closed⟩

/-- The service behind a name. -/
def serviceOf (w : World σ) (name : String) : Outcome Nat :=
  match lookup? w.names name with
  | none => .error .missingKey
  | some (.service id) => .ok id
  | some (.host id) =>
    match w.hosts[id]? with
    | some h => .ok h.service
    | none => .error .missingKey

end World

end Statechart
