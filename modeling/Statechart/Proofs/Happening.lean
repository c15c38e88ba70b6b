import Statechart.Service.Step

/-!
# What a step does to a service

A run is watched from one of its services. `Frame.serves` tells the frames that belong to the service: those of its
start and of the handling of its events. `View` is what a run shows of the service: the service itself, the stack from
the topmost of these frames down, and what comes next for that frame. `Happening` names what a single step can do to
the service, and `Run.happening` reads it off the run that is about to make the step: off the frame on top, and off
the request where the frame is that of a script. `Run.Happens` lists the runs in which something happens, so that what
a happening says of its run is read off by cases (`Run.happens_of_happening`).
-/

set_option autoImplicit false
set_option relaxedAutoImplicit false

namespace Statechart

variable {σ : Type}

/-- Whether a frame belongs to the start of a service or to its handling of events. -/
def Frame.serves (id : Nat) : Frame σ → Bool
  | .effects i _ _ _ | .opening i | .drain i | .moving i _ _ | .announce i _ | .round (some i) _ _ => i == id
  | _ => false

section

variable (i id : Nat)

@[simp] theorem Frame.serves_effects (context : Value) (event : Event) (rest : List (Effect σ)) :
    (Frame.effects i context event rest).serves id = (i == id) := rfl

@[simp] theorem Frame.serves_opening : (Frame.opening i : Frame σ).serves id = (i == id) := rfl

@[simp] theorem Frame.serves_drain : (Frame.drain i : Frame σ).serves id = (i == id) := rfl

@[simp] theorem Frame.serves_moving (source : State σ) (event : Event) :
    (Frame.moving i source event).serves id = (i == id) := rfl

@[simp] theorem Frame.serves_announce (event : Event) :
    (Frame.announce i event : Frame σ).serves id = (i == id) := rfl

@[simp] theorem Frame.serves_round (what : Published) (rest : List (Nat × Listener)) :
    (Frame.round (some i) what rest : Frame σ).serves id = (i == id) := rfl

@[simp] theorem Frame.serves_sent : (Frame.sent i : Frame σ).serves id = false := rfl

@[simp] theorem Frame.serves_reply (a : Answer) : (Frame.reply a : Frame σ).serves id = false := rfl

@[simp] theorem Frame.serves_keep (subscription : String) (handle : Handle) :
    (Frame.keep subscription handle : Frame σ).serves id = false := rfl

@[simp] theorem Frame.serves_hostReady (host : Nat) (name : String) :
    (Frame.hostReady host name : Frame σ).serves id = false := rfl

@[simp] theorem Frame.serves_hostStarted (host : Nat) (name : String) :
    (Frame.hostStarted host name : Frame σ).serves id = false := rfl

end

/-- The stack from the topmost frame that serves a service down. -/
def handling (id : Nat) (stack : List (Frame σ)) : List (Frame σ) := stack.dropWhile fun f ↦ !f.serves id

/-- What comes next for the topmost frame that serves a service. -/
inductive Exposure where
  /-- What stands above it has not come to an end. -/
  | covered
  /-- The frame goes on. -/
  | resuming
  /-- A failure leaves the frame. -/
  | failing (f : Failure)

/-- The failure that a signal carries. -/
def Signal.failure? : Signal → Option Failure
  | .returning _ => none
  | .failing f => some f

@[simp] theorem Signal.failure?_returning (a : Answer) : (Signal.returning a).failure? = none := rfl

@[simp] theorem Signal.failure?_failing (f : Failure) : (Signal.failing f).failure? = some f := rfl

def Exposure.ofFailure? : Option Failure → Exposure
  | none => .resuming
  | some f => .failing f

/-- What comes next for a service in a stack, with the failure that the stack is met by, if there is one. -/
def exposure (id : Nat) (stack : List (Frame σ)) (f : Option Failure) : Exposure :=
  match stack with
  | [] => .covered
  | frame :: _ => if frame.serves id then .ofFailure? f else .covered

section

variable (id : Nat) (frame : Frame σ) (stack : List (Frame σ))

@[simp] theorem handling_nil : handling id ([] : List (Frame σ)) = [] := rfl

@[simp] theorem handling_cons :
    handling id (frame :: stack) = if frame.serves id then frame :: stack else handling id stack := by
  cases h : frame.serves id <;> simp [handling, h]

theorem handling_cons_self {id : Nat} {frame : Frame σ} {stack : List (Frame σ)} (h : frame.serves id = true) :
    handling id (frame :: stack) = frame :: stack := by
  rw [handling_cons, if_pos h]

theorem handling_append (above : List (Frame σ)) (h : ∀ frame ∈ above, frame.serves id = false) :
    handling id (above ++ stack) = handling id stack := by
  induction above with
  | nil => rfl
  | cons frame above ih =>
    rw [List.cons_append, handling_cons, h frame (by simp)]
    exact ih fun frame hframe ↦ h frame (by simp [hframe])

@[simp] theorem exposure_nil (f : Option Failure) : exposure id ([] : List (Frame σ)) f = .covered := rfl

@[simp] theorem exposure_cons (f : Option Failure) :
    exposure id (frame :: stack) f = if frame.serves id then .ofFailure? f else .covered := rfl

@[simp] theorem Exposure.ofFailure?_none : Exposure.ofFailure? none = .resuming := rfl

@[simp] theorem Exposure.ofFailure?_some (f : Failure) : Exposure.ofFailure? (some f) = .failing f := rfl

end

/-- What a run shows of one service. -/
structure View (σ : Type) where
  service : Option (Service σ)
  /-- What is under way, from the topmost frame that serves the service down. -/
  frames : List (Frame σ)
  next : Exposure

/-- What a world and a stack show of a service while a request is performed. -/
@[simp] def View.of (id : Nat) (w : World σ) (stack : List (Frame σ)) : View σ :=
  ⟨w.services[id]?, handling id stack, .covered⟩

def Run.view (id : Nat) (r : Run σ) : View σ :=
  ⟨r.world.services[id]?, handling id r.stack, exposure id r.stack r.signal.failure?⟩

/-- What a single step does to one service. -/
inductive Happening (σ : Type) where
  /-- The service is started in its first state, whose effects are still to be performed. -/
  | started (initial : State σ)
  | stopped
  /-- An event is sent to the running service. -/
  | accepted (event : Event)
  /-- An event leaves the queue; what follows the state is computed from now on. -/
  | taken (source : State σ) (event : Event)
  /-- What follows the state cannot be computed. -/
  | refused (f : Failure)
  | committed (source : State σ) (event : Event) (next : State σ)
  /-- An effect is begun. -/
  | performed (e : Effect σ) (context : Value) (event : Event)
  /-- The effects are done and the round of notifications begins. -/
  | announced (event : Event)
  | notified (l : Listener) (s : Snapshot)
  | replayed (l : Listener) (s : Snapshot)
  /-- The round of notifications, or the start, has come to its end. -/
  | completed
  /-- An effect or a listener of a round has failed. -/
  | failed (f : Failure)
  /-- A failure leaves what stood below the one that failed. -/
  | abandoned (f : Failure)

/-- What a request can do at once. -/
def Happening.isRequest : Happening σ → Bool
  | .started _ | .stopped | .accepted _ | .replayed _ _ => true
  | _ => false

/-- What happens when a service looks for its next event. -/
def Service.drains (s : Service σ) : Option (Happening σ) :=
  match s.status, s.queue with
  | .running, event :: _ => some (.taken s.state event)
  | _, _ => none

namespace World

variable (w : World σ)

/-- The service that a name stands for itself. -/
def own? (name : String) : Option Nat :=
  match lookup? w.names name with
  | some (.service i) => some i
  | _ => none

/-- The service that is stopped when a host is closed. -/
def hosted? (h : Nat) : Option Nat := (w.hosts[h]?).bind fun h ↦ if h.closed then none else some h.service

/-- The service that is stopped when a name is closed. -/
def closing? (name : String) : Option Nat :=
  match lookup? w.names name with
  | some (.host h) => w.hosted? h
  | _ => none

/-- What happens when the state that follows is computed. -/
def moves (s : Service σ) (source : State σ) (event : Event) : Happening σ :=
  match s.machine.transition source event with
  | .ok next => .committed source event next
  | .error f => .refused (w.pictureFailure f)

/-- What a request does to a service at once. -/
def requested (id : Nat) (q : Request σ) : Option (Happening σ) :=
  (w.services[id]?).bind fun s ↦
    match q with
    | .start name | .enter name =>
      if w.own? name = some id ∧ s.status = .notStarted then some (.started s.state) else none
    | .stop name => if w.own? name = some id then some .stopped else none
    | .leave name => if w.own? name = some id ∨ w.closing? name = some id then some .stopped else none
    | .close name => if w.closing? name = some id then some .stopped else none
    | .send name v =>
      match w.serviceOf name, Event.ofValue v with
      | .ok i, .ok event => if i = id ∧ s.status = .running then some (.accepted event) else none
      | _, _ => none
    | .subscribe name l _ =>
      if w.own? name = some id then some (.replayed (.named l) s.state.snapshot) else none
    | _ => none

/-- What the first request of a script does to a service. -/
def begun (id : Nat) : Script σ → Option (Happening σ)
  | .call q _ | .attempt q _ => w.requested id q
  | .done | .fail _ => none

theorem isRequest_requested (id : Nat) (q : Request σ) : ∀ h ∈ w.requested id q, h.isRequest = true := by
  intro h hh
  unfold requested at hh
  simp only [Option.mem_def, Option.bind_eq_some_iff] at hh
  obtain ⟨s, -, hh⟩ := hh
  repeat' split at hh
  all_goals first | cases hh; rfl | simp at hh

theorem isRequest_begun (id : Nat) (s : Script σ) : ∀ h ∈ w.begun id s, h.isRequest = true := by
  cases s with
  | done => simp [begun]
  | fail f => simp [begun]
  | call q next => exact isRequest_requested w id q
  | attempt q next => exact isRequest_requested w id q

/-- What happens to a service when a frame is resumed. -/
def resumed (id : Nat) (a : Answer) : Frame σ → Option (Happening σ)
  | .awaiting next => w.begun id (next a)
  | .attempting next => w.begun id (next (.ok a))
  | .effects i context event (e :: _) => if i = id then some (.performed e context event) else none
  | .opening i => if i = id then some .completed else none
  | .drain i => if i = id then (w.services[id]?).bind Service.drains else none
  | .moving i source event => if i = id then (w.services[id]?).map fun s ↦ w.moves s source event else none
  | .creatingHost _ _ =>
    if w.services.length = id then
      w.machine.bind fun m ↦
        match m.initialState with
        | .ok initial => some (.started initial)
        | .error _ => none
    else none
  | .announce i event => if i = id then (w.services[id]?).map fun _ ↦ .announced event else none
  | .round (some i) (.state s) ((ticket, l) :: _) =>
    if i = id ∧ (w.registryOf (some i)).hasTicket ticket then some (.notified l s) else none
  | .round (some i) _ [] => if i = id then some .completed else none
  | .hostStarted host _ =>
    (w.hosts[host]?).bind fun h ↦
      if h.service = id then (w.services[id]?).map fun s ↦ .replayed (.keeper host) s.state.snapshot
      else none
  | _ => none

/-- What happens to a service when a failure leaves a frame. -/
def unwound (id : Nat) (f : Failure) : Frame σ → Option (Happening σ)
  | .attempting next => w.begun id (next (.error f))
  | .effects i _ _ _ | .round (some i) _ _ => if i = id then some (.failed f) else none
  | .moving i _ _ => if i = id then some (.refused f) else none
  | .opening i | .drain i | .announce i _ => if i = id then some (.abandoned f) else none
  | _ => none

end World

/-- What the next step of a run does to a service. -/
def Run.happening (id : Nat) (r : Run σ) : Option (Happening σ) :=
  match r.stack, r.signal with
  | [], _ => none
  | frame :: _, .returning a => r.world.resumed id a frame
  | frame :: _, .failing f => r.world.unwound id f frame

namespace Run

/-- What the next step of a run does to a service, told by the frame on top and by what meets it. -/
inductive Happens (id : Nat) : Run σ → Happening σ → Prop
  | awaiting {w next stack a h} (hbegun : w.begun id (next a) = some h) :
      Happens id ⟨w, .awaiting next :: stack, .returning a⟩ h
  | attempting {w next stack a h} (hbegun : w.begun id (next (.ok a)) = some h) :
      Happens id ⟨w, .attempting next :: stack, .returning a⟩ h
  | caught {w next stack f h} (hbegun : w.begun id (next (.error f)) = some h) :
      Happens id ⟨w, .attempting next :: stack, .failing f⟩ h
  | hosted {w name onChange stack a m initial} (hid : w.services.length = id) (hm : w.machine = some m)
      (hinitial : m.initialState = .ok initial) :
      Happens id ⟨w, .creatingHost name onChange :: stack, .returning a⟩ (.started initial)
  | kept {w host name stack a found s} (hhost : w.hosts[host]? = some found) (hid : found.service = id)
      (hs : w.services[id]? = some s) :
      Happens id ⟨w, .hostStarted host name :: stack, .returning a⟩ (.replayed (.keeper host) s.state.snapshot)
  | performed {w context event e rest stack a} :
      Happens id ⟨w, .effects id context event (e :: rest) :: stack, .returning a⟩ (.performed e context event)
  | opened {w stack a} : Happens id ⟨w, .opening id :: stack, .returning a⟩ .completed
  | taken {w stack a s event queue} (hs : w.services[id]? = some s) (hr : s.status = .running)
      (hq : s.queue = event :: queue) :
      Happens id ⟨w, .drain id :: stack, .returning a⟩ (.taken s.state event)
  | committed {w source event stack a s next} (hs : w.services[id]? = some s)
      (hnext : s.machine.transition source event = .ok next) :
      Happens id ⟨w, .moving id source event :: stack, .returning a⟩ (.committed source event next)
  | refused {w source event stack a s f} (hs : w.services[id]? = some s)
      (hnext : s.machine.transition source event = .error f) :
      Happens id ⟨w, .moving id source event :: stack, .returning a⟩ (.refused (w.pictureFailure f))
  | announced {w event stack a s} (hs : w.services[id]? = some s) :
      Happens id ⟨w, .announce id event :: stack, .returning a⟩ (.announced event)
  | notified {w snapshot ticket l rest stack a} (hticket : (w.registryOf (some id)).hasTicket ticket = true) :
      Happens id ⟨w, .round (some id) (.state snapshot) ((ticket, l) :: rest) :: stack, .returning a⟩
        (.notified l snapshot)
  | completed {w what stack a} : Happens id ⟨w, .round (some id) what [] :: stack, .returning a⟩ .completed
  | effectFailed {w context event rest stack f} :
      Happens id ⟨w, .effects id context event rest :: stack, .failing f⟩ (.failed f)
  | listenerFailed {w what rest stack f} : Happens id ⟨w, .round (some id) what rest :: stack, .failing f⟩ (.failed f)
  | calculationFailed {w source event stack f} :
      Happens id ⟨w, .moving id source event :: stack, .failing f⟩ (.refused f)
  | openingAbandoned {w stack f} : Happens id ⟨w, .opening id :: stack, .failing f⟩ (.abandoned f)
  | drainAbandoned {w stack f} : Happens id ⟨w, .drain id :: stack, .failing f⟩ (.abandoned f)
  | announceAbandoned {w event stack f} : Happens id ⟨w, .announce id event :: stack, .failing f⟩ (.abandoned f)

variable {id : Nat} {w : World σ} {stack : List (Frame σ)} {frame : Frame σ} {h : Happening σ}

theorem happens_of_resumed {a : Answer} (hh : w.resumed id a frame = some h) :
    Happens id ⟨w, frame :: stack, .returning a⟩ h := by
  cases frame with
  | awaiting next => exact .awaiting hh
  | attempting next => exact .attempting hh
  | effects i context event rest =>
    cases rest with
    | nil => cases hh
    | cons e rest =>
      obtain ⟨rfl, rfl⟩ := Option.ite_some_none_eq_some.mp hh
      exact .performed
  | opening i =>
    obtain ⟨rfl, rfl⟩ := Option.ite_some_none_eq_some.mp hh
    exact .opened
  | drain i =>
    obtain ⟨rfl, hbind⟩ := Option.ite_none_right_eq_some.mp hh
    obtain ⟨s, hs, hdrains⟩ := Option.bind_eq_some_iff.mp hbind
    unfold Service.drains at hdrains
    split at hdrains
    · next hr hq =>
      cases hdrains
      exact .taken hs hr hq
    · cases hdrains
  | moving i source event =>
    obtain ⟨rfl, hmap⟩ := Option.ite_none_right_eq_some.mp hh
    obtain ⟨s, hs, rfl⟩ := Option.map_eq_some_iff.mp hmap
    cases hnext : s.machine.transition source event with
    | ok next =>
      rw [World.moves, hnext]
      exact .committed hs hnext
    | error f =>
      rw [World.moves, hnext]
      exact .refused hs hnext
  | creatingHost name onChange =>
    obtain ⟨hid, hbind⟩ := Option.ite_none_right_eq_some.mp hh
    obtain ⟨m, hm, hstarted⟩ := Option.bind_eq_some_iff.mp hbind
    split at hstarted
    · next initial hinitial =>
      cases hstarted
      exact .hosted hid hm hinitial
    · cases hstarted
  | announce i event =>
    obtain ⟨rfl, hmap⟩ := Option.ite_none_right_eq_some.mp hh
    obtain ⟨s, hs, rfl⟩ := Option.map_eq_some_iff.mp hmap
    exact .announced hs
  | round owner what rest =>
    cases owner with
    | none => cases hh
    | some i =>
      cases rest with
      | nil =>
        have hcompleted : (if i = id then some Happening.completed else none) = some h := by
          cases what <;> exact hh
        obtain ⟨rfl, rfl⟩ := Option.ite_some_none_eq_some.mp hcompleted
        exact .completed
      | cons entry rest =>
        cases what with
        | state snapshot =>
          obtain ⟨⟨rfl, hticket⟩, rfl⟩ := Option.ite_some_none_eq_some.mp hh
          exact .notified hticket
        | token name => cases hh
        | value v => cases hh
  | hostStarted host name =>
    obtain ⟨found, hhost, hfound⟩ := Option.bind_eq_some_iff.mp hh
    obtain ⟨hid, hmap⟩ := Option.ite_none_right_eq_some.mp hfound
    obtain ⟨s, hs, rfl⟩ := Option.map_eq_some_iff.mp hmap
    exact .kept hhost hid hs
  | _ => cases hh

theorem happens_of_unwound {f : Failure} (hh : w.unwound id f frame = some h) :
    Happens id ⟨w, frame :: stack, .failing f⟩ h := by
  cases frame with
  | attempting next => exact .caught hh
  | effects i context event rest =>
    obtain ⟨rfl, rfl⟩ := Option.ite_some_none_eq_some.mp hh
    exact .effectFailed
  | round owner what rest =>
    cases owner with
    | none => cases hh
    | some i =>
      obtain ⟨rfl, rfl⟩ := Option.ite_some_none_eq_some.mp hh
      exact .listenerFailed
  | moving i source event =>
    obtain ⟨rfl, rfl⟩ := Option.ite_some_none_eq_some.mp hh
    exact .calculationFailed
  | opening i =>
    obtain ⟨rfl, rfl⟩ := Option.ite_some_none_eq_some.mp hh
    exact .openingAbandoned
  | drain i =>
    obtain ⟨rfl, rfl⟩ := Option.ite_some_none_eq_some.mp hh
    exact .drainAbandoned
  | announce i event =>
    obtain ⟨rfl, rfl⟩ := Option.ite_some_none_eq_some.mp hh
    exact .announceAbandoned
  | _ => cases hh

/-- What a step does to a service is done by the frame on top. -/
theorem happens_of_happening {r : Run σ} (hh : r.happening id = some h) : r.Happens id h := by
  obtain ⟨w, stack, signal⟩ := r
  cases stack with
  | nil => cases hh
  | cons frame stack =>
    cases signal with
    | returning a => exact happens_of_resumed hh
    | failing f => exact happens_of_unwound hh

end Run

end Statechart
