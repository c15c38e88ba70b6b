import Statechart.Event

/-!
# Scripts

What a callback does is a script: a tree of requests to the services around it, each followed by what the script
does with the answer, ending normally or in a failure; a script may also go on after the failure of a request.
Scripts are data, so a run of services whose callbacks call back into them is one finite computation. A script may
also read and change a memory of its own, of type `σ`.

Everything that happens in a run is written to a journal of entries.
-/

set_option autoImplicit false
set_option relaxedAutoImplicit false

namespace Statechart

/-- The picture of a state: its value and context, the kinds of its pending effects, and whether an event changed it. -/
structure Snapshot where
  value : Value
  context : Value
  actions : List String
  changed : Bool
deriving Repr, Inhabited

/-- Life of a service. -/
inductive Status where
  | notStarted
  | running
  | stopped
deriving DecidableEq, Repr, Inhabited

def Status.text : Status → String
  | .notStarted => "not_started"
  | .running => "running"
  | .stopped => "stopped"

/-- A callback, told from others by its name or number. A keeper belongs to a host. -/
inductive Listener where
  | named (name : String)
  | keeper (host : Nat)
  | numbered (n : Nat)
deriving DecidableEq, Repr, Inhabited

/-- What a callback is called with. -/
inductive Published where
  | state (s : Snapshot)
  | token (id : String)
  | value (v : Value)
deriving Repr, Inhabited

/-- What a service shows of itself; a host adds whether it is closed. -/
structure Report where
  state : Snapshot
  status : Status
  listeners : Nat
  closed : Option Bool
deriving Repr, Inhabited

/-- The answer to a request. -/
inductive Answer where
  | value (v : Value)
  | state (s : Snapshot)
  | report (r : Report)
deriving Repr, Inhabited

namespace Answer

def null : Answer := .value .null

def yes : Answer := .value (.bool true)

end Answer

/-- Where a written line goes: to the library's logger or to one given by the caller. -/
inductive Sink where
  | library
  | given
deriving DecidableEq, Repr, Inhabited

/-- Something that happened to a service. -/
inductive Milestone where
  | started (state : Value)
  | stopped (state : Value)
  | dropped (event : Event) (status : Status)
  | accepted (event : Event)
  | queued (event : Event)
  /-- A transition was computed and its state stored. -/
  | committed (source : Value) (event : Event) (state : Snapshot)
  /-- An effect was begun with the context and event of the state it belongs to. -/
  | performed (kind : String) (context : Value) (event : Event)
  /-- All effects of an event are done and its round of notifications begins. -/
  | announced (event : Event)
  | notified (listener : Listener) (state : Snapshot)
  | replayed (listener : Listener) (state : Snapshot)
deriving Repr, Inhabited

/-- An entry of the journal. -/
inductive Entry where
  | effect (name : Option String) (context kind : Value)
  | listener (name : String) (what : Published)
  | began (word : String)
  | answered (word : String) (answer : Answer)
  | written (sink : Sink) (level : String) (text : Value)
  /-- A record of the library about itself: part of the library, level and text. -/
  | record (part level text : String)
  | milestone (service : Nat) (machine : Value) (what : Milestone)
  | asked (email : Value)
  | abandoned (email : Value)
deriving Repr, Inhabited

/-- A request of a script. Services, hosts, subscriptions and tokens go by name. -/
inductive Request (σ : Type) where
  /-- Makes a service under a name. -/
  | create (service : String)
  /-- Makes a host, which starts a service and listens to it. -/
  | createHost (service : String) (onChange : Option String)
  | start (service : String)
  | stop (service : String)
  | enter (service : String)
  | leave (service : String)
  | send (service : String) (event : Value)
  | subscribe (service listener subscription : String)
  | unsubscribe (subscription : String)
  | isActive (subscription : String)
  /-- Whether the subscription is active while used as a scope, at whose end it is given up. -/
  | scope (subscription : String)
  | describe (service : String)
  | matchesValue (service : String) (value : Value)
  | report (service : String)
  | close (service : String)
  /-- Makes a token with a name to be shown. -/
  | createToken (token name : String)
  | cancel (token : String) (reason : Value)
  | onCancel (token : String) (callback : Listener)
  | checkToken (token : String)
  | viewToken (token : String)
  | describeToken (token : String)
  /-- Registers a listener, and keeps the registration under a name, which has to be there. -/
  | register (subscription : Option String) (listener : String)
  | notify (value : Value)
  | clear
  | isRegistered (listener : String)
  | remove (ticket : Value)
  | hasTicket (ticket : Value)
  | journal (entry : Entry)
  /-- Writes a line; the text may show tokens, which the given function pictures. -/
  | write (sink : Sink) (level : String) (text : (Value → Value) → Outcome Value)
  /-- Reads and changes the memory. -/
  | change (f : σ → Answer × σ)

/-- What a callback does. -/
inductive Script (σ : Type) where
  | done
  | fail (f : Failure)
  /-- Goes on with the answer; a failure of the request ends the script. -/
  | call (r : Request σ) (next : Answer → Script σ)
  /-- Goes on with the answer or with the failure of the request. -/
  | attempt (r : Request σ) (next : Outcome Answer → Script σ)

namespace Script

variable {σ : Type}

/-- One script after the other. -/
def andThen : Script σ → Script σ → Script σ
  | .done, t => t
  | .fail f, _ => .fail f
  | .call r next, t => .call r fun a ↦ (next a).andThen t
  | .attempt r next, t => .attempt r fun o ↦ (next o).andThen t

/-- A single request whose answer is not looked at. -/
def request (r : Request σ) : Script σ := .call r fun _ ↦ .done

/-- The script of an evaluation whose value is not looked at. -/
def ofOutcome {α : Type} : Outcome α → Script σ
  | .ok _ => .done
  | .error f => .fail f

end Script

end Statechart
