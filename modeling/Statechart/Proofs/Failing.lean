import Statechart.Proofs.Call
import Statechart.Proofs.Ledger

/-!
# What a failure leaves behind

An ordinary failure of a guard, an assignment, an effect or a listener leaves the frames of its service, which put the
service in order on its way, and reaches the caller of the send or the start that was made from outside
(`failure_reaches_caller`). The state that is kept is the one that the failing event was met in, or, once that was
stored, the one that it led to; the events that waited are dropped, and nothing of the service is left on the stack.
-/

set_option autoImplicit false
set_option relaxedAutoImplicit false

namespace Statechart

variable {σ : Type}

/-! ### The call that is under way -/

/-- The stack in which the caller of a service waits, below the frames of the service and the one they stand on. -/
def callerOf (id : Nat) (frames : List (Frame σ)) : List (Frame σ) := (frames.dropWhile (·.serves id)).tail

@[simp] theorem callerOf_cons {id : Nat} {frame : Frame σ} (h : frame.serves id = true) (k : List (Frame σ)) :
    callerOf id (frame :: k) = callerOf id k := by
  simp [callerOf, h]

/-- The frame on which a service stands, and the stack of its caller. -/
theorem Root.split {id : Nat} {k : List (Frame σ)} (h : Root id k) :
    ∃ root, k = root :: callerOf id k ∧ Statechart.handling id (callerOf id k) = [] ∧
      (root = .sent id ∨ root = .reply .yes) := by
  cases h with
  | sent h => exact ⟨_, rfl, h, .inl rfl⟩
  | started h => exact ⟨_, rfl, h, .inr rfl⟩

theorem length_callerOf (id : Nat) (frames : List (Frame σ)) (hframes : frames ≠ []) :
    (callerOf id frames).length < frames.length := by
  cases frames with
  | nil => exact absurd rfl hframes
  | cons frame k =>
    have hdrop := (List.dropWhile_sublist (l := k) (·.serves id)).length_le
    cases h : frame.serves id with
    | true => simp [callerOf, h]; omega
    | false => simp [callerOf, h]

/-- The next step of a run begins a send or a start of a service of which nothing is under way; what called it waits
in the stack below. -/
def Run.Enters (id : Nat) (below : List (Frame σ)) (p : Run σ) : Prop :=
  p.Idle id ∧ (p.step.stack = .drain id :: .sent id :: below ∨
    ∃ initial : State σ, p.step.stack =
      .effects id initial.context Event.init initial.actions :: .opening id :: .reply .yes :: below)

/-- A send to a running service that is not processing enters it. -/
theorem Run.enters_of_send {id : Nat} {below : List (Frame σ)} {p : Run σ} {name : String} {v : Value} {event : Event}
    {s : Service σ} (h : p.request? = some (.send name v, below)) (hname : p.world.serviceOf name = .ok id)
    (hs : p.world.services[id]? = some s) (hv : Event.ofValue v = .ok event) (hr : s.status = .running)
    (hp : s.processing = false) (hidle : p.Idle id) : p.Enters id below := by
  refine ⟨hidle, .inl ?_⟩
  rw [step_of_request h]
  simp [perform, withService, hname, hs, send, hv, hr, hp, answer]

/-- A start of a service that has not been started enters it. -/
theorem Run.enters_of_start {id : Nat} {below : List (Frame σ)} {p : Run σ} {name : String} {s : Service σ}
    (h : p.request? = some (.start name, below)) (hname : World.lookup? p.world.names name = some (.service id))
    (hs : p.world.services[id]? = some s) (hr : s.status = .notStarted) (hidle : p.Idle id) : p.Enters id below := by
  refine ⟨hidle, .inr ⟨s.state, ?_⟩⟩
  rw [step_of_request h]
  simp [perform, withOwnService, withService, World.serviceOf, hname, hs, start, hr, answer]

/-- Below the topmost frame of a service stands another one, or none at all. -/
theorem Course.handling_below {id : Nat} {hs : List (Happening σ)} {s : Service σ} {frame : Frame σ}
    {k : List (Frame σ)} {e : Exposure} (h : Course id hs s (frame :: k) e) :
    handling id k = [] ∨ handling id k = k := by
  cases h.standsOn with
  | drain hk | opening hk => exact .inl hk
  | starting | effects | moving | announce | round => exact .inr (by simp)

/-- While something of a service is under way, its caller stays the same. -/
theorem Turn.callerOf {id : Nat} {hs : List (Happening σ)} {v v' : View σ} {o : Option (Happening σ)}
    (hturn : Turn id v o v') (hcourse : v.Course id hs) (hk : v.frames ≠ []) (hk' : v'.frames ≠ []) :
    Statechart.callerOf id v'.frames = Statechart.callerOf id v.frames := by
  have hpop {o : Option (Service σ)} {frame k e} (h : View.Course id hs ⟨o, frame :: k, e⟩)
      (hserves : frame.serves id = true) (hne : handling id k ≠ []) :
      Statechart.callerOf id (handling id k) = Statechart.callerOf id (frame :: k) := by
    cases o with
    | none => exact absurd h.2 (List.cons_ne_nil _ _)
    | some s =>
      rw [callerOf_cons hserves, Or.resolve_left (Course.handling_below h) hne]
  cases hturn with
  | hosted => exact absurd hcourse.2 hk
  | started hstatus => exact absurd hstatus (Course.status_ne_notStarted hcourse hk)
  | sent hr hp => exact absurd (Course.frames_eq_nil hcourse hp) hk
  | performed | opened | taken | committed | announced | notified | passedOver => simp
  | allPerformed => exact hpop hcourse (by simp) hk'
  | drained => exact hpop hcourse (by simp) hk'
  | refused => exact hpop hcourse (by simp) hk'
  | completed => exact hpop hcourse (by simp) hk'
  | effectFailed => exact hpop hcourse (by simp) hk'
  | listenerFailed => exact hpop hcourse (by simp) hk'
  | announceAbandoned => exact hpop hcourse (by simp) hk'
  | openingAbandoned => exact hpop hcourse (by simp) hk'
  | openingInterrupted => exact hpop hcourse (by simp) hk'
  | drainAbandoned => exact hpop hcourse (by simp) hk'
  | orphaned => exact absurd hcourse.2 hk
  | _ => rfl

/-- Where something of a service gets under way, a call has entered it. -/
theorem Turn.entered {id : Nat} {v v' : View σ} {o : Option (Happening σ)} (hturn : Turn id v o v')
    (hk : v.frames = []) (hk' : v'.frames ≠ []) :
    v'.next = .resuming ∧ (v'.frames = .drain id :: .sent id :: Statechart.callerOf id v'.frames ∨
      ∃ initial : State σ, v'.frames = .effects id initial.context Event.init initial.actions :: .opening id ::
        .reply .yes :: Statechart.callerOf id v'.frames) := by
  cases hturn with
  | @hosted k m initial hinitial => exact ⟨rfl, .inr ⟨initial, by simp [Statechart.callerOf]⟩⟩
  | @started k s hstatus => exact ⟨rfl, .inr ⟨s.state, by simp [Statechart.callerOf]⟩⟩
  | sent => exact ⟨rfl, .inl (by simp [Statechart.callerOf])⟩
  | quiet | created | stopped | queued | subscribed | unsubscribed => exact absurd hk hk'
  | _ => cases hk

/-- A frame of a service that is not covered is on top. -/
theorem handling_of_exposure {id : Nat} {stack : List (Frame σ)} {f : Option Failure}
    (h : exposure id stack f ≠ .covered) : handling id stack = stack := by
  cases stack with
  | nil => rfl
  | cons frame stack =>
    cases hserves : frame.serves id with
    | true => simp [hserves]
    | false => simp [hserves] at h

/-- A frame of a service that goes on is on top. -/
theorem Run.stack_of_resuming {id : Nat} {r : Run σ} (hnext : (r.view id).next = .resuming) :
    handling id r.stack = r.stack ∧ r.Calm := by
  obtain ⟨w, stack, signal⟩ := r
  have hopen : exposure id stack signal.failure? = .resuming := hnext
  refine ⟨handling_of_exposure (f := signal.failure?) (by simp [hopen]), ?_⟩
  cases signal with
  | returning a => exact ⟨a, rfl⟩
  | failing f =>
    cases stack with
    | nil => cases hopen
    | cons frame stack =>
      rw [exposure_cons] at hopen
      split at hopen <;> cases hopen

theorem length_handling_le (id : Nat) (stack : List (Frame σ)) : (handling id stack).length ≤ stack.length :=
  (List.dropWhile_sublist _).length_le

/-- What is under way of a service was begun by a call that entered it and has not ended since. -/
theorem History.entered {w : World σ} {past : List (Run σ)} {r : Run σ} (h : History (.idle w) past r)
    (hnew : w.services = []) (id : Nat) (hk : handling id r.stack ≠ []) :
    ∃ p ∈ past, p.Enters id (callerOf id (handling id r.stack)) ∧
      Run.Above (callerOf id (handling id r.stack)) p.step r := by
  induction h with
  | begin => exact absurd rfl hk
  | call h hidle s ih => exact absurd rfl hk
  | @step past r h ih =>
    have hturn := r.step_turn id
    by_cases hbefore : handling id r.stack = []
    · obtain ⟨hnext, hframes⟩ := hturn.entered hbefore hk
      obtain ⟨htop, -⟩ := Run.stack_of_resuming hnext
      refine ⟨r, by simp, ⟨hbefore, ?_⟩, .begin⟩
      rw [htop]
      simpa [Run.view, htop] using hframes
    · obtain ⟨p, hp, henters, habove⟩ := ih hbefore
      have hcaller : callerOf id (handling id r.step.stack) = callerOf id (handling id r.stack) :=
        hturn.callerOf (h.view_course hnew id) hbefore hk
      rw [hcaller]
      refine ⟨p, List.mem_append_left _ hp, henters, habove.step ?_⟩
      exact Nat.lt_of_lt_of_le (length_callerOf id _ hbefore) (length_handling_le id r.stack)

/-! ### Where a failure strikes -/

section

variable {id : Nat} {f : Failure}

/-- Where a failure strikes, it leaves the frame that it strikes for what stands below. -/
theorem Run.step_of_fault {r : Run σ} {h : Happening σ} (hh : r.happening id = some h)
    (hfault : h = .refused f ∨ h = .failed f) :
    ∃ frame rest, r.stack = frame :: rest ∧ r.step = ⟨r.world, rest, .failing f⟩ ∧
      ((h = .refused f ∧ ∃ source event, frame = .moving id source event) ∨
        (h = .failed f ∧ ((∃ context event left, frame = .effects id context event left) ∨
          ∃ what left, frame = .round (some id) what left))) := by
  rcases hfault with rfl | rfl
  · cases happens_of_happening hh with
    | awaiting hbegun | attempting hbegun | caught hbegun => cases World.isRequest_begun _ id _ _ hbegun
    | refused hs hnext =>
      exact ⟨_, _, rfl, by simp [step, resume, move, hs, hnext, fail], .inl ⟨rfl, _, _, rfl⟩⟩
    | calculationFailed => exact ⟨_, _, rfl, rfl, .inl ⟨rfl, _, _, rfl⟩⟩
  · cases happens_of_happening hh with
    | awaiting hbegun | attempting hbegun | caught hbegun => cases World.isRequest_begun _ id _ _ hbegun
    | effectFailed => exact ⟨_, _, rfl, rfl, .inr ⟨rfl, .inl ⟨_, _, _, rfl⟩⟩⟩
    | listenerFailed => exact ⟨_, _, rfl, rfl, .inr ⟨rfl, .inr ⟨_, _, rfl⟩⟩⟩

/-! ### The way to the caller -/

/-- A service with nothing left to handle. -/
def Service.clear (s : Service σ) : Service σ := { s with queue := [], processing := false }

variable {w : World σ} {k below : List (Frame σ)}

/-- A failure passes the frame on which a service stands. -/
theorem Run.ends_of_root {root : Frame σ} (hroot : root = .sent id ∨ root = .reply .yes) :
    Run.Ends below ⟨w, root :: below, .failing f⟩ ⟨w, below, .failing f⟩ := by
  refine .step (Nat.lt_succ_self _) ?_
  rcases hroot with rfl | rfl
  · exact .here rfl
  · exact .here rfl

/-- An ordinary failure clears the service on its way through the frames that handle events or start it. -/
theorem Run.ends_of_failing {frame root : Frame σ} (hf : f.isOrdinary = true)
    (hframe : frame = .drain id ∨ frame = .opening id) (hroot : root = .sent id ∨ root = .reply .yes) :
    Run.Ends below ⟨w, frame :: root :: below, .failing f⟩
      ⟨w.updateService id Service.clear, below, .failing f⟩ := by
  have hstep : Run.step ⟨w, frame :: root :: below, .failing f⟩ =
      ⟨w.updateService id Service.clear, root :: below, .failing f⟩ := by
    rcases hframe with rfl | rfl
    · simp only [Run.step, Run.unwind, hf, if_true]
      rfl
    · simp only [Run.step, Run.unwind, hf, if_true]
      rfl
  refine .step (by simp only [List.length_cons]; omega) ?_
  rw [hstep]
  exact Run.ends_of_root hroot

/-- A failure that has left a frame of a service clears the service on its way to the caller. -/
theorem Run.ends_of_struck {r : Run σ} {frame base root : Frame σ} {rest : List (Frame σ)} (hf : f.isOrdinary = true)
    (hstack : r.stack = frame :: rest) (hstep : r.step = ⟨r.world, rest, .failing f⟩)
    (hbase : base = .drain id ∨ base = .opening id) (hroot : root = .sent id ∨ root = .reply .yes)
    (hrest : rest = base :: root :: below ∨ ∃ event, rest = .announce id event :: base :: root :: below) :
    Run.Ends below r ⟨r.world.updateService id Service.clear, below, .failing f⟩ := by
  have hlow : Run.Ends below ⟨r.world, base :: root :: below, .failing f⟩
      ⟨r.world.updateService id Service.clear, below, .failing f⟩ := Run.ends_of_failing hf hbase hroot
  have hrun : Run.Ends below ⟨r.world, rest, .failing f⟩
      ⟨r.world.updateService id Service.clear, below, .failing f⟩ := by
    rcases hrest with rfl | ⟨event, rfl⟩
    · exact hlow
    · exact .step (by simp only [List.length_cons]; omega) hlow
  refine .step ?_ (hstep ▸ hrun)
  rw [hstack]
  rcases hrest with rfl | ⟨event, rfl⟩
  · simp only [List.length_cons]
    omega
  · simp only [List.length_cons]
    omega

end

/-- The state that a service keeps when a failure strikes, told by the episode that it ends. -/
inductive Kept (m : Machine σ) (hs : List (Happening σ)) : Happening σ → State σ → Prop
  /-- What follows cannot be computed: the state before the event is kept. -/
  | refused {before source event f} (h : episodic hs = before ++ [.taken source event]) :
      Kept m hs (.refused f) source
  /-- An effect of the first state fails. -/
  | opening {initial done f} (hinitial : m.initialState = .ok initial) (h : episodic hs = opening initial done) :
      Kept m hs (.failed f) initial.settled
  /-- An effect of an event fails: the state that the event led to is kept. -/
  | effect {before source event next done f} (hnext : m.transition source event = .ok next)
      (h : episodic hs = before ++ handled source event next done) : Kept m hs (.failed f) next.settled
  | listener {before source event next told f} (hnext : m.transition source event = .ok next)
      (h : episodic hs = before ++ announced source event next told) : Kept m hs (.failed f) next.settled

/-- How a service stands when the failure that struck it has reached its caller. -/
structure Recovered (id : Nat) (past : List (Run σ)) (r last : Run σ) (s : Service σ) (h : Happening σ)
    (f : Failure) : Prop where
  /-- The caller is met by the same failure. -/
  raised : last.signal = .failing f
  /-- Nothing of the service is under way. -/
  idle : last.Idle id
  /-- Nothing else has changed on the way. -/
  world : last.world = r.world.updateService id Service.clear
  /-- The service is one that has just begun to wait for events, with its state and its listeners. -/
  fresh : last.world.services[id]? = some
    { machine := s.machine, status := s.status, state := s.state, listeners := s.listeners, queue := [],
      processing := false }
  running : .stopped ∉ happenings id past → s.status = .running
  stopped : .stopped ∈ happenings id past → s.status = .stopped
  kept : Kept s.machine (happenings id past) h s.state
  /-- What was committed before stays committed. -/
  folded : ∃ initial final, s.machine.initialState = .ok initial ∧
    (committedEvents (happenings id past)).foldlM s.machine.transition initial = .ok final ∧
    s.state.settled = final.settled
  /-- Only events that are accepted later are taken later. -/
  later : ∀ {later z}, History last later z →
    (takenEvents (happenings id later)).Sublist (acceptedEvents (happenings id later))

section

variable {id : Nat} {hs : List (Happening σ)} {s : Service σ} {rest : List (Frame σ)} {e : Exposure} {f : Failure}

/-- A refused event leaves the state in which it was taken. -/
theorem Course.kept_of_moving {source : State σ} {event : Event}
    (h : Course id hs s (.moving id source event :: rest) e) :
    Kept s.machine hs (.refused f) s.state ∧ ∃ k, Root id k ∧ rest = .drain id :: k := by
  obtain ⟨current, hunder, hserving⟩ := h.handles (by nofun)
  obtain ⟨first, handlings, -, -, hhs⟩ := hunder.finished
  cases hserving with
  | moving hk => exact ⟨.refused hhs, _, hk, rfl⟩

/-- A failed effect leaves the state that it belongs to. -/
theorem Course.kept_of_effects {context : Value} {event : Event} {left : List (Effect σ)}
    (h : Course id hs s (.effects id context event left :: rest) e) :
    Kept s.machine hs (.failed f) s.state ∧ ∃ k, Root id k ∧
      (rest = .opening id :: k ∨ ∃ event, rest = .announce id event :: .drain id :: k) := by
  rcases h.underway with ⟨-, -, hstart⟩ | ⟨current, hunder, hserving⟩
  · generalize hcurrent : episodic hs = current at hstart
    cases hstart with
    | effects hk hinitial hstate ha he =>
      rw [hstate]
      exact ⟨.opening hinitial hcurrent, _, hk, .inl rfl⟩
  · obtain ⟨first, handlings, -, -, hhs⟩ := hunder.finished
    cases hserving with
    | effects hk hnext hstate ha he =>
      rw [hstate]
      exact ⟨.effect hnext hhs, _, hk, .inr ⟨_, rfl⟩⟩

/-- A failed listener leaves the state that it was told. -/
theorem Course.kept_of_round {what : Published} {left : List (Nat × Listener)}
    (h : Course id hs s (.round (some id) what left :: rest) e) :
    Kept s.machine hs (.failed f) s.state ∧ ∃ k, Root id k ∧ rest = .drain id :: k := by
  obtain ⟨current, hunder, hserving⟩ := h.handles (by nofun)
  obtain ⟨first, handlings, -, -, hhs⟩ := hunder.finished
  cases hserving with
  | round hk hnext hstate =>
    rw [hstate]
    exact ⟨.listener hnext hhs, _, hk, rfl⟩

/-- A failure that strikes a frame of a service keeps its state, and meets the frames that put the service in order,
below which the caller waits. -/
theorem Course.struck {frame : Frame σ} {h : Happening σ} (hcourse : Course id hs s (frame :: rest) e)
    (hframe : (h = .refused f ∧ ∃ source event, frame = .moving id source event) ∨
      (h = .failed f ∧ ((∃ context event left, frame = .effects id context event left) ∨
        ∃ what left, frame = .round (some id) what left))) :
    Kept s.machine hs h s.state ∧ ∃ base k, Root id k ∧ (base = .drain id ∨ base = .opening id) ∧
      (rest = base :: k ∨ ∃ event, rest = .announce id event :: base :: k) := by
  rcases hframe with ⟨rfl, source, event, rfl⟩ | ⟨rfl, ⟨context, event, left, rfl⟩ | ⟨what, left, rfl⟩⟩
  · obtain ⟨hkept, k, hk, rfl⟩ := hcourse.kept_of_moving (f := f)
    exact ⟨hkept, _, k, hk, .inl rfl, .inl rfl⟩
  · obtain ⟨hkept, k, hk, rfl | ⟨event', rfl⟩⟩ := hcourse.kept_of_effects (f := f)
    · exact ⟨hkept, _, k, hk, .inr rfl, .inl rfl⟩
    · exact ⟨hkept, _, k, hk, .inl rfl, .inr ⟨event', rfl⟩⟩
  · obtain ⟨hkept, k, hk, rfl⟩ := hcourse.kept_of_round (f := f)
    exact ⟨hkept, _, k, hk, .inl rfl, .inl rfl⟩

end

/-- An ordinary failure of a guard, an assignment, an effect or a listener reaches the caller of the service and
leaves the service in order. Assumes: a history of a world that began without services, with any callbacks, whose next
step lets an ordinary failure refuse the event that a service handles or fail an effect or a listener of it. Then the
service was entered by a send or a start that is still under way, which ends with the same failure; what it leaves is a
service that waits for events, with nothing of it under way, in the state that was kept. -/
theorem failure_reaches_caller {w : World σ} (hnew : w.services = []) {past : List (Run σ)} {r : Run σ}
    (hpast : History (.idle w) past r) {id : Nat} {h : Happening σ} (hh : r.happening id = some h) {f : Failure}
    (hfault : h = .refused f ∨ h = .failed f) (hf : f.isOrdinary = true) :
    ∃ s below last, r.world.services[id]? = some s ∧ (∃ p ∈ past, p.Enters id below ∧ p.step.Ends below last) ∧
      Recovered id past r last s h f := by
  obtain ⟨frame, rest, hstack, hstep, hframe⟩ := r.step_of_fault hh hfault
  have hserves : frame.serves id = true := by
    rcases hframe with ⟨-, source, event, rfl⟩ | ⟨-, ⟨context, event, left, rfl⟩ | ⟨what, left, rfl⟩⟩ <;> simp
  have htop : handling id r.stack = frame :: rest := by
    rw [hstack, handling_cons, hserves]
    rfl
  have hview := hpast.view_course hnew id
  cases hs : r.world.services[id]? with
  | none =>
    rw [View.Course, Run.view, hs] at hview
    exact absurd (htop.symm.trans hview.2) (List.cons_ne_nil _ _)
  | some s =>
    have hcourse := hpast.course hnew hs
    rw [htop] at hcourse
    obtain ⟨hkept, base, k, hk, hbase, hrest⟩ := hcourse.struck hframe
    obtain ⟨root, hroot, hbelow, hkind⟩ := hk.split
    have hledger := hpast.ledger hnew hs
    obtain ⟨p, hp, henters, habove⟩ := hpast.entered hnew id (by rw [htop]; exact List.cons_ne_nil _ _)
    have hcaller : callerOf id (handling id r.stack) = callerOf id k := by
      have hbaseserves : base.serves id = true := by rcases hbase with rfl | rfl <;> simp
      rw [htop, callerOf_cons hserves]
      rcases hrest with rfl | ⟨event, rfl⟩
      · exact callerOf_cons hbaseserves k
      · rw [callerOf_cons (by simp), callerOf_cons hbaseserves]
    rw [hcaller] at henters habove
    rw [hroot] at hrest
    have hends := Run.ends_of_struck hf hstack hstep hbase hkind hrest
    have hfresh : (r.world.updateService id Service.clear).services[id]? = some s.clear := by
      rw [World.getElem?_updateService_self, hs]
      rfl
    refine ⟨s, callerOf id k, _, rfl, ⟨p, hp, henters, hends.of_above habove⟩, ?_⟩
    refine
      { raised := rfl
        idle := hbelow
        world := rfl
        fresh := hfresh
        running := hledger.running (hcourse.status_ne_notStarted (List.cons_ne_nil _ _))
        stopped := hledger.stopped.mpr
        kept := hkept
        folded := hledger.folded
        later := fun hlater ↦ ?_ }
    obtain ⟨s', -, hordered⟩ := hlater.ordered hfresh
    exact (List.sublist_append_left _ _).trans hordered

/-- A lamp that breaks when it is lit: its send ends with the failure of the effect, and the lamp is on. -/
theorem failure_reaches_caller_of_lamp :
    let broken : Run Unit := pressed fun _ _ ↦ .error .badValue
    ∃ s below last, (broken.after 14).world.services[0]? = some s ∧ s.state.value = .text "on" ∧
      (∃ p ∈ .idle (World.ofLamp fun _ _ ↦ .error .badValue) :: broken.trail 14,
        p.Enters 0 below ∧ p.step.Ends below last) ∧ last.signal = .failing .badValue := by
  have hfailed : ((pressed fun _ _ ↦ .error .badValue).after 14).happening 0 = some (.failed .badValue) := rfl
  obtain ⟨s, below, last, hs, henters, hrecovered⟩ := failure_reaches_caller rfl
    (History.ofLamp (fun _ _ ↦ .error .badValue) 14) hfailed (.inr rfl) rfl
  refine ⟨s, below, last, hs, ?_, henters, hrecovered.raised⟩
  cases hs
  rfl

end Statechart
