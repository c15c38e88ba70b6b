import Statechart.Proofs.Failing
import Statechart.Proofs.Interruption

/-!
# The life of a service

A service is made, started at most once, and stopped for good. Its status moves in three ways only (`Status.Moves`).
Until it is started it holds its first state and performs nothing; each effect that it ever performs is either one of
its start or one of the event committed last (`Due`). A service that does not run has no event waiting.

While what follows a state is computed, the service runs (`History.prompt`), if guards and assignments call nothing.
So a service that is stopped computes and stores nothing any more: what is left to perform are the effects of the
episode that it was stopped in (`Over.turn`, `History.over_of_stopped`). `lifecycle_safe` puts this together.
-/

set_option autoImplicit false
set_option relaxedAutoImplicit false

namespace Statechart

variable {σ : Type}

/-! ### The status -/

/-- The moves of a status. -/
inductive Status.Moves : Status → Status → Prop
  | start : Moves .notStarted .running
  | giveUp : Moves .notStarted .stopped
  | stop : Moves .running .stopped

section

variable {id : Nat} {v v' : View σ} {o : Option (Happening σ)} {hs : List (Happening σ)}

/-- A turn keeps the status of a service or makes one of its moves. -/
theorem Turn.moves (hturn : Turn id v o v') {s : Service σ} (hs : v.service = some s) :
    ∃ s', v'.service = some s' ∧ (s'.status = s.status ∨ s.status.Moves s'.status) := by
  cases hturn with
  | created | hosted | orphaned => cases hs
  | started hstatus =>
    cases hs
    exact ⟨_, rfl, .inr (by rw [hstatus]; exact .start)⟩
  | stopped =>
    cases hs
    refine ⟨_, rfl, ?_⟩
    cases hstatus : s.status with
    | notStarted => exact .inr .giveUp
    | running => exact .inr .stop
    | stopped => exact .inl rfl
  | queued | sent | subscribed | unsubscribed | taken | drained | committed | announced | notified
  | openingAbandoned | drainAbandoned =>
    cases hs
    exact ⟨_, rfl, .inl rfl⟩
  | _ => exact ⟨s, hs, .inl rfl⟩

/-- Events wait only for a service that runs. -/
def View.Empty (v : View σ) : Prop := ∀ s, v.service = some s → s.status ≠ .running → s.queue = []

theorem View.Empty.turn (h : v.Empty) (hturn : Turn id v o v') : v'.Empty := by
  cases hturn with
  | created | stopped | drained =>
    rintro s' ⟨⟩ -
    rfl
  | hosted | started =>
    rintro s' ⟨⟩ hstatus
    exact absurd rfl hstatus
  | queued hr | sent hr | taken hr =>
    rintro s' ⟨⟩ hstatus
    exact absurd hr hstatus
  | @subscribed k s | @unsubscribed k s | @committed k s =>
    rintro s' ⟨⟩ hstatus
    exact h s rfl hstatus
  | openingAbandoned hf =>
    intro s' hs' _
    obtain ⟨s, -, rfl⟩ := Option.map_eq_some_iff.mp hs'
    rfl
  | @drainAbandoned o k f =>
    intro s' hs' hstatus
    obtain ⟨s, hs, rfl⟩ := Option.map_eq_some_iff.mp hs'
    have hqueue : s.queue = [] := h s hs hstatus
    simp [hqueue]
  | _ => exact h

/-- A state passed on to a new subscriber. -/
def Happening.isReplay : Happening σ → Bool
  | .replayed _ _ => true
  | _ => false

/-- Until its start, nothing happens to a service but replays. -/
def View.Fresh (hs : List (Happening σ)) (v : View σ) : Prop :=
  ∀ s, v.service = some s → s.status = .notStarted → ∀ h ∈ hs, h.isReplay = true

theorem View.Fresh.turn (hcourse : v.Course id hs) (h : v.Fresh hs) (hturn : Turn id v o v') :
    v'.Fresh (hs ++ o.toList) := by
  cases hturn with
  | quiet => simpa using! h
  | created =>
    rintro s' ⟨⟩ -
    simp [hcourse.1]
  | hosted | started | stopped =>
    rintro s' ⟨⟩ hstatus
    cases hstatus
  | queued hr | sent hr =>
    rintro s' ⟨⟩ hstatus
    cases hr.symm.trans hstatus
  | @subscribed k s =>
    rintro s' ⟨⟩ hstatus happened hh
    rcases List.mem_append.mp hh with hbefore | hlast
    · exact h s rfl hstatus happened hbefore
    · rw [Option.toList_some, List.mem_singleton] at hlast
      rw [hlast]
      rfl
  | @unsubscribed k s =>
    rintro s' ⟨⟩ hstatus
    simpa using h s rfl hstatus
  -- from here on something of the service is under way
  | taken | drained | committed | announced | notified =>
    rintro s' ⟨⟩ hstatus
    exact (Course.status_ne_notStarted hcourse (List.cons_ne_nil _ _) hstatus).elim
  | openingAbandoned | drainAbandoned =>
    intro s' hs' hstatus
    obtain ⟨s, rfl, rfl⟩ := Option.map_eq_some_iff.mp hs'
    exact (Course.status_ne_notStarted hcourse (List.cons_ne_nil _ _) hstatus).elim
  | orphaned => nofun
  | _ =>
    intro s' hs' hstatus
    dsimp only at hs'
    subst hs'
    exact (Course.status_ne_notStarted hcourse (List.cons_ne_nil _ _) hstatus).elim

end

/-! ### What effects are due -/

/-- The effects that a service performs: those of its start, before it has taken any event, and those of the event
committed last. -/
inductive Due (m : Machine σ) (hs : List (Happening σ)) (e : Effect σ) : Value → Event → Prop
  | opening {initial done rest} (h : m.initialState = .ok initial) (ha : initial.actions = done ++ e :: rest)
      (hhs : episodic hs = opening initial done) : Due m hs e initial.context Event.init
  | handling {source event next done rest} {first : List (Happening σ)} {handlings : List (List (Happening σ))}
      (hfirst : Opening m first) (hhandlings : ∀ h ∈ handlings, Handling m h)
      (h : m.transition source event = .ok next) (ha : next.actions = done ++ e :: rest)
      (hhs : episodic hs = first ++ handlings.flatten ++ handled source event next done) :
      Due m hs e next.context event

section

variable {id : Nat} {v v' : View σ} {hs : List (Happening σ)} {s : Service σ}

theorem Turn.due {e : Effect σ} {context : Value} {event : Event}
    (hturn : Turn id v (some (.performed e context event)) v') (hcourse : v.Course id hs)
    (hservice : v.service = some s) : Due s.machine hs e context event := by
  cases hturn with
  | performed =>
    cases hservice
    rcases Course.underway hcourse with ⟨-, -, hstart⟩ | ⟨current, hunder, hserving⟩
    · dsimp only at hstart
      generalize hcurrent : episodic hs = current at hstart
      cases hstart with
      | effects hk hinitial hstate ha he => exact .opening hinitial ha hcurrent
    · obtain ⟨first, handlings, hfirst, hhandlings, hhs⟩ := hunder.finished
      cases hserving with
      | effects hk hnext hstate ha he => exact .handling hfirst hhandlings hnext ha hhs

/-- An event is taken once the start has come to its end, and every event before it. -/
theorem Turn.finished_of_taken {source : State σ} {event : Event}
    (hturn : Turn id v (some (.taken source event)) v') (hcourse : v.Course id hs) (hservice : v.service = some s) :
    s.status = .running ∧ ∃ (first : List (Happening σ)) (handlings : List (List (Happening σ))),
      Opening s.machine first ∧ (∀ h ∈ handlings, Handling s.machine h) ∧
        episodic hs = first ++ handlings.flatten := by
  cases hturn with
  | taken hr hq =>
    cases hservice
    obtain ⟨current, hunder, hserving⟩ := Course.handles hcourse (by nofun)
    obtain ⟨first, handlings, hfirst, hhandlings, hhs⟩ := hunder.finished
    cases hserving with
    | drain => exact ⟨hr, first, handlings, hfirst, hhandlings, by simpa using hhs⟩

/-- A start is the first thing that happens to a service, replays apart, and performs the first effects next. -/
theorem Turn.begun {initial : State σ} (hturn : Turn id v (some (.started initial)) v') (hcourse : v.Course id hs)
    (hfresh : v.Fresh hs) :
    (∀ h ∈ hs, h.isReplay = true) ∧ (∀ s, v.service = some s → s.status = .notStarted) ∧
      ∃ s' below, v'.service = some s' ∧ s'.status = .running ∧ s'.machine.initialState = .ok initial ∧
        v'.frames = .effects id initial.context Event.init initial.actions :: .opening id :: below ∧
        v'.next = .resuming := by
  cases hturn with
  | hosted hinitial =>
    refine ⟨?_, by simp, _, _, rfl, rfl, hinitial, rfl, rfl⟩
    rw [hcourse.1]
    simp
  | @started k s hstatus =>
    refine ⟨hfresh s rfl hstatus, ?_, _, _, rfl, rfl, ?_, rfl, rfl⟩
    · rintro s' ⟨⟩
      exact hstatus
    · cases hcourse with
      | untouched _ hinitial _ _ _ _ => exact hinitial
      | starting hstarted _ _ => exact absurd hstatus hstarted
      | serving hstarted _ _ _ _ _ => exact absurd hstatus hstarted

end

/-! ### What follows a state is computed by a running service -/

/-- Where the state that follows is about to be computed. -/
def Moving (id : Nat) (frames : List (Frame σ)) : Prop :=
  ∃ source event below, frames = .moving id source event :: below

/-- Below the topmost frame of a service its queue is drained, its round announced or its start finished. -/
theorem View.below {id : Nat} {hs : List (Happening σ)} {o : Option (Service σ)} {frame : Frame σ}
    {k : List (Frame σ)} {e : Exposure} (h : View.Course id hs ⟨o, frame :: k, e⟩) :
    ∀ below ∈ (handling id k).head?, below = .drain id ∨ below = .opening id ∨ ∃ event, below = .announce id event := by
  cases View.standsOn h with
  | drain hk | opening hk => simp [hk]
  | starting | effects | moving | announce | round => simp

theorem View.not_moving_below {id : Nat} {hs : List (Happening σ)} {o : Option (Service σ)} {frame : Frame σ}
    {k : List (Frame σ)} {e : Exposure} (h : View.Course id hs ⟨o, frame :: k, e⟩) : ¬ Moving id (handling id k) := by
  rintro ⟨source, event, below, hframes⟩
  have hbelow := View.below h (.moving id source event) (by rw [hframes]; rfl)
  simp at hbelow

/-- A turn after which the state that follows is about to be computed either takes an event or finds it so. -/
theorem Turn.moving {id : Nat} {hs : List (Happening σ)} {v v' : View σ} {o : Option (Happening σ)}
    (hturn : Turn id v o v') (hcourse : v.Course id hs) (hmoving : Moving id v'.frames) :
    (∃ source event, o = some (.taken source event)) ∨ v.frames = v'.frames ∧ v.next = .covered := by
  cases hturn with
  | taken => exact .inl ⟨_, _, rfl⟩
  | quiet | created | stopped | queued | subscribed | unsubscribed => exact .inr ⟨rfl, rfl⟩
  | hosted | started | sent | performed | opened | committed | announced | notified | passedOver =>
    obtain ⟨source, event, below, hframes⟩ := hmoving
    cases hframes
  | _ => exact absurd hmoving (View.not_moving_below hcourse)

/-- Where an event is taken, what guards and assignments call is called next. -/
theorem Run.step_of_taken {r : Run σ} {id : Nat} {source : State σ} {event : Event}
    (h : r.happening id = some (.taken source event)) :
    ∃ s queue below, r.world.services[id]? = some s ∧ s.status = .running ∧
      r.step = .script (r.world.updateService id fun s ↦ { s with queue := queue })
        (.moving id source event :: .drain id :: below) (s.machine.calls source event) := by
  cases happens_of_happening h with
  | awaiting hbegun | attempting hbegun | caught hbegun => cases World.isRequest_begun _ id _ _ hbegun
  | @taken w stack a s event queue hs hr hq =>
    exact ⟨s, queue, stack, hs, hr, by simp [step, resume, drain, hs, hr, hq]⟩

/-- Nothing is done between taking an event and computing what follows, while the service runs. -/
def Run.Prompt (id : Nat) (r : Run σ) : Prop :=
  Moving id (handling id r.stack) → (∃ s, r.world.services[id]? = some s ∧ s.status = .running) ∧ r.Calm ∧
    (r.stack = handling id r.stack ∨ r.stack = .awaiting (fun _ ↦ .done) :: handling id r.stack)

theorem Run.Prompt.step {id : Nat} {hs : List (Happening σ)} {r : Run σ} (h : r.Prompt id)
    (hcourse : (r.view id).Course id hs)
    (hsilent : ∀ s, r.world.services[id]? = some s → s.machine.Silent) : r.step.Prompt id := by
  intro hmoving
  rcases (r.step_turn id).moving hcourse hmoving with ⟨source, event, htaken⟩ | ⟨hframes, hcovered⟩
  · obtain ⟨s, queue, below, hs, hr, hstep⟩ := Run.step_of_taken htaken
    rw [Machine.calls_eq_done (hsilent s hs)] at hstep
    rw [hstep]
    refine ⟨⟨{ s with queue := queue }, by simp [Run.script, hs], hr⟩, ⟨_, rfl⟩, .inr ?_⟩
    simp [Run.script, Frame.serves]
  · have hbefore : Moving id (handling id r.stack) := by
      rw [show handling id r.stack = handling id r.step.stack from hframes]
      exact hmoving
    obtain ⟨hrunning, ⟨a, hsignal⟩, htop | hwaiting⟩ := h hbefore
    · -- the frame is covered
      obtain ⟨source, event, below, hk⟩ := hbefore
      rw [Run.view, htop, hk] at hcovered
      simp [hsignal] at hcovered
    · obtain ⟨w, stack, signal⟩ := r
      obtain rfl : signal = _ := hsignal
      dsimp only at hwaiting
      have hstep : Run.step ⟨w, stack, .returning a⟩ = ⟨w, handling id stack, .returning .null⟩ := by
        generalize handling id stack = below at hwaiting
        rw [hwaiting]
        rfl
      rw [hstep]
      refine ⟨hrunning, ⟨_, rfl⟩, .inl ?_⟩
      obtain ⟨source, event, below, hk⟩ := hbefore
      dsimp only at hk ⊢
      rw [hk]
      simp

/-- Where guards and assignments call nothing, a service runs while the state that follows is computed. -/
theorem History.prompt {w : World σ} {past : List (Run σ)} {r : Run σ} (h : History (.idle w) past r)
    (hnew : w.services = []) (id : Nat) (hsilent : ∀ s, r.world.services[id]? = some s → s.machine.Silent) :
    r.Prompt id := by
  induction h with
  | begin =>
    rintro ⟨source, event, below, hframes⟩
    cases hframes
  | call h hidle s ih =>
    rintro ⟨source, event, below, hframes⟩
    cases hframes
  | @step past r h ih =>
    have hbefore (s : Service σ) (hs : r.world.services[id]? = some s) : s.machine.Silent := by
      obtain ⟨s', hs', hmachine⟩ := History.machine (.step .begin) hs
      exact hmachine ▸ hsilent s' hs'
    exact (ih hbefore).step (h.view_course hnew id) hbefore

/-! ### After the stop -/

/-- The effects that are left to perform in the episode under way. -/
def pending : List (Frame σ) → List (Happening σ)
  | .effects _ context event rest :: _ => performances context event rest
  | _ => []

/-- An effect is begun. -/
def Happening.isPerformance : Happening σ → Bool
  | .performed _ _ _ => true
  | _ => false

/-- What only a service that is not stopped does: it starts, accepts events, and computes and stores what follows. -/
def Happening.isLively : Happening σ → Bool
  | .started _ | .accepted _ | .taken _ _ | .refused _ | .committed _ _ _ => true
  | _ => false

/-- The effects performed, in order. -/
def performed (hs : List (Happening σ)) : List (Happening σ) := hs.filter Happening.isPerformance

@[simp] theorem performed_append (hs hs' : List (Happening σ)) :
    performed (hs ++ hs') = performed hs ++ performed hs' :=
  List.filter_append ..

/-- Nothing is left to perform below the topmost frame of a service. -/
theorem View.pending_below {id : Nat} {hs : List (Happening σ)} {o : Option (Service σ)} {frame : Frame σ}
    {k : List (Frame σ)} {e : Exposure} (h : View.Course id hs ⟨o, frame :: k, e⟩) : pending (handling id k) = [] := by
  have hbelow := View.below h
  cases hk : handling id k with
  | nil => rfl
  | cons below frames =>
    rcases hbelow below (by simp [hk]) with rfl | rfl | ⟨event, rfl⟩ <;> rfl

/-- A service that was stopped in a state, with effects left to perform, and what has happened to it since. -/
structure Over (id : Nat) (left : List (Happening σ)) (state : State σ) (hs : List (Happening σ)) (v : View σ) :
    Prop where
  service : ∃ s, v.service = some s ∧ s.status = .stopped ∧ s.state = state
  still : ¬ Moving id v.frames
  quiet : ∀ h ∈ hs, h.isLively = false
  effects : performed hs ++ pending v.frames <+: left

namespace Over

variable {id : Nat} {left hs : List (Happening σ)} {state : State σ} {v v' : View σ} {o : Option (Happening σ)}

/-- What a turn adds to the effects performed is taken from those that were left. -/
theorem next (h : Over id left state hs v)
    (hservice : ∃ s, v'.service = some s ∧ s.status = .stopped ∧ s.state = state) (hstill : ¬ Moving id v'.frames)
    (ho : ∀ h ∈ o, h.isLively = false) (heffects : performed o.toList ++ pending v'.frames <+: pending v.frames) :
    Over id left state (hs ++ o.toList) v' where
  service := hservice
  still := hstill
  quiet := by
    intro happened hh
    rcases List.mem_append.mp hh with hbefore | hlast
    · exact h.quiet happened hbefore
    · exact ho happened (Option.mem_toList.mp hlast)
  effects := by
    rw [performed_append, List.append_assoc]
    exact ((List.prefix_append_right_inj _).mpr heffects).trans h.effects

/-- A frame of the service has come to its end. -/
theorem pop {hs' : List (Happening σ)} {before after : Option (Service σ)} {frame : Frame σ} {k : List (Frame σ)}
    {e e' : Exposure} (h : Over id left state hs ⟨before, frame :: k, e⟩)
    (hcourse : View.Course id hs' ⟨before, frame :: k, e⟩)
    (hservice : ∃ s, after = some s ∧ s.status = .stopped ∧ s.state = state) (ho : ∀ h ∈ o, h.isLively = false)
    (hperformed : performed o.toList = []) : Over id left state (hs ++ o.toList) ⟨after, handling id k, e'⟩ := by
  refine h.next hservice (View.not_moving_below hcourse) ho ?_
  rw [hperformed, View.pending_below hcourse]
  exact List.nil_prefix

/-- Every turn leaves a service stopped that was stopped. -/
theorem turn {hs' : List (Happening σ)} (hcourse : v.Course id hs') (h : Over id left state hs v)
    (hturn : Turn id v o v') : Over id left state (hs ++ o.toList) v' := by
  obtain ⟨s, hservice, hstopped, hstate⟩ := h.service
  have hnone : ∀ happened ∈ (none : Option (Happening σ)), happened.isLively = false := by simp
  cases hturn with
  | created | hosted | orphaned => cases hservice
  | started hr | queued hr | sent hr | taken hr =>
    cases hservice
    cases hr.symm.trans hstopped
  | committed | refused => exact absurd ⟨_, _, _, rfl⟩ h.still
  | quiet => exact h.next ⟨s, hservice, hstopped, hstate⟩ h.still hnone (List.prefix_refl _)
  | stopped =>
    cases hservice
    exact h.next ⟨_, rfl, rfl, hstate⟩ h.still (by simp [Happening.isLively]) (List.prefix_refl _)
  | subscribed | unsubscribed =>
    cases hservice
    exact h.next ⟨_, rfl, hstopped, hstate⟩ h.still (by simp [Happening.isLively]) (List.prefix_refl _)
  | performed =>
    exact h.next ⟨s, hservice, hstopped, hstate⟩ (by simp [Moving]) (by simp [Happening.isLively]) (List.prefix_refl _)
  | opened | announced | notified | passedOver =>
    exact h.next ⟨s, hservice, hstopped, hstate⟩ (by simp [Moving]) (by simp [Happening.isLively]) (List.prefix_refl _)
  | drained =>
    cases hservice
    exact h.pop hcourse ⟨_, rfl, hstopped, hstate⟩ hnone rfl
  | openingAbandoned | drainAbandoned =>
    cases hservice
    exact h.pop hcourse ⟨_, rfl, hstopped, hstate⟩ (by simp [Happening.isLively]) rfl
  | allPerformed => exact h.pop hcourse ⟨s, hservice, hstopped, hstate⟩ hnone rfl
  | completed | effectFailed | listenerFailed | announceAbandoned | openingInterrupted =>
    exact h.pop hcourse ⟨s, hservice, hstopped, hstate⟩ (by simp [Happening.isLively]) rfl

end Over

/-- Whatever comes after the stop of a service, it stays stopped in its state and performs no effects but those of
the episode that it was stopped in. -/
theorem History.over_of_stopped {w : World σ} {past later : List (Run σ)} {r last : Run σ}
    (h : History (.idle w) past r) (hnew : w.services = []) {id : Nat} {s : Service σ}
    (hs : r.world.services[id]? = some s) (hsilent : s.machine.Silent) (hstopped : s.status = .stopped)
    (hlater : History r later last) :
    Over id (pending (handling id r.stack)) s.state (happenings id later) (last.view id) := by
  have hprompt : r.Prompt id := h.prompt hnew id fun s' hs' ↦ by
    cases hs.symm.trans hs'
    exact hsilent
  have hstill : ¬ Moving id (handling id r.stack) := by
    intro hmoving
    obtain ⟨⟨s', hs', hrunning⟩, -⟩ := hprompt hmoving
    cases hs.symm.trans hs'
    cases hrunning.symm.trans hstopped
  have hall := hlater.turns id
    (P := fun hs v ↦ v.Course id (happenings id past ++ hs) ∧ Over id (pending (handling id r.stack)) s.state hs v)
    ⟨by simpa using h.view_course hnew id, ⟨s, hs, hstopped, rfl⟩, hstill, by simp, List.prefix_refl _⟩
    fun {hs v o v'} hover hturn ↦ ⟨by
      rw [← List.append_assoc]
      exact Course.turn hover.1 hturn, hover.2.turn hover.1 hturn⟩
  exact hall.2

/-- A service that was stopped cannot be started: the start fails, and nothing changes. -/
theorem Run.step_of_restart {id : Nat} {r : Run σ} {s : Service σ} {q : Request σ} {name : String}
    {below : List (Frame σ)} (hrequest : r.request? = some (q, below)) (hq : q = .start name ∨ q = .enter name)
    (hname : World.lookup? r.world.names name = some (.service id)) (hs : r.world.services[id]? = some s)
    (hstopped : s.status = .stopped) : r.step = ⟨r.world, below, .failing (.lifecycle "stopped" "start")⟩ := by
  rw [Run.step_of_request hrequest]
  rcases hq with rfl | rfl
  · simp [perform, withOwnService, withService, World.serviceOf, hname, hs, start, hstopped, fail, Status.text,
      World.pictureFailure]
  · simp [perform, withService, World.serviceOf, hname, hs, start, hstopped, fail, Status.text, World.pictureFailure]

/-! ### Lifecycle safety -/

/-- Where a service is started: never before, and not after a stop or an event; the first effects come next. -/
structure Begins (id : Nat) (past : List (Run σ)) (r : Run σ) (initial : State σ) : Prop where
  first : ∀ h ∈ happenings id past, h.isReplay = true
  status : ∀ s, r.world.services[id]? = some s → s.status = .notStarted
  effects : ∃ s' below, r.step.world.services[id]? = some s' ∧ s'.status = .running ∧
    s'.machine.initialState = .ok initial ∧
    r.step.stack = .effects id initial.context Event.init initial.actions :: .opening id :: below

/-- How a service stands in its life at the end of a history, and what its next step and all later ones can do. -/
structure Lifecycle (id : Nat) (past : List (Run σ)) (r : Run σ) (s : Service σ) : Prop where
  moves : ∃ s', r.step.world.services[id]? = some s' ∧ (s'.status = s.status ∨ s.status.Moves s'.status)
  fresh : s.status = .notStarted → s.machine.initialState = .ok s.state ∧
    ∀ e context event, .performed e context event ∉ happenings id past
  due : ∀ e context event, r.happening id = some (.performed e context event) →
    Due s.machine (happenings id past) e context event
  taken : ∀ source event, r.happening id = some (.taken source event) → s.status = .running ∧
    ∃ (first : List (Happening σ)) (handlings : List (List (Happening σ))), Opening s.machine first ∧
      (∀ h ∈ handlings, Handling s.machine h) ∧ episodic (happenings id past) = first ++ handlings.flatten
  empty : s.status ≠ .running → s.queue = []
  stays_over : s.machine.Silent → s.status = .stopped → ∀ later last, History r later last →
    Over id (pending (handling id r.stack)) s.state (happenings id later) (last.view id)
  restart : s.status = .stopped → ∀ q name below, r.request? = some (q, below) → (q = .start name ∨ q = .enter name) →
    World.lookup? r.world.names name = some (.service id) →
    r.step = ⟨r.world, below, .failing (.lifecycle "stopped" "start")⟩

section

variable {w : World σ} {past : List (Run σ)} {r : Run σ} {id : Nat}

theorem History.fresh (h : History (.idle w) past r) (hnew : w.services = []) (id : Nat) :
    (r.view id).Fresh (happenings id past) :=
  (h.turns id (P := fun hs v ↦ v.Course id hs ∧ v.Fresh hs)
    (by simp [View.Course, View.Fresh, Run.idle, Run.view, hnew])
    fun h hturn ↦ ⟨Course.turn h.1 hturn, h.2.turn h.1 hturn⟩).2

theorem History.empty (h : History (.idle w) past r) (hnew : w.services = []) (id : Nat) : (r.view id).Empty :=
  h.turns id (P := fun _ v ↦ v.Empty) (by simp [View.Empty, Run.idle, Run.view, hnew]) fun h hturn ↦ h.turn hturn

theorem History.begins (h : History (.idle w) past r) (hnew : w.services = []) {initial : State σ}
    (hstarted : r.happening id = some (.started initial)) : Begins id past r initial := by
  have hturn := r.step_turn id
  rw [hstarted] at hturn
  obtain ⟨hfirst, hstatus, s', below, hs', hrunning, hinitial, hframes, hnext⟩ :=
    hturn.begun (h.view_course hnew id) (h.fresh hnew id)
  obtain ⟨htop, -⟩ := Run.stack_of_resuming hnext
  exact ⟨hfirst, hstatus, s', below, hs', hrunning, hinitial, htop.symm.trans hframes⟩

theorem History.lifecycle (h : History (.idle w) past r) (hnew : w.services = []) {s : Service σ}
    (hs : r.world.services[id]? = some s) : Lifecycle id past r s where
  moves := (r.step_turn id).moves hs
  fresh := by
    intro hstatus
    refine ⟨?_, fun e context event hmem ↦ ?_⟩
    · cases h.course hnew hs with
      | untouched _ hinitial _ _ _ _ => exact hinitial
      | starting hstarted _ _ => exact absurd hstatus hstarted
      | serving hstarted _ _ _ _ _ => exact absurd hstatus hstarted
    · cases h.fresh hnew id s hs hstatus _ hmem
  due := by
    intro e context event hperformed
    have hturn := r.step_turn id
    rw [hperformed] at hturn
    exact hturn.due (h.view_course hnew id) hs
  taken := by
    intro source event htaken
    have hturn := r.step_turn id
    rw [htaken] at hturn
    exact hturn.finished_of_taken (h.view_course hnew id) hs
  empty := h.empty hnew id s hs
  stays_over := fun hsilent hstopped later last hlater ↦ h.over_of_stopped hnew hs hsilent hstopped hlater
  restart := fun hstopped q name below hrequest hq hname ↦ Run.step_of_restart hrequest hq hname hs hstopped

/-- A service is started at most once and stopped for good. Assumes: a history of a world that began without services,
with any callbacks, which may call the service back at any point and fail in any way. A start comes before everything
else but replays and performs the effects of the first state next, with the event of the start. Of a service, at every
point of the history: the next step keeps its status or makes one of its moves; while it is not started it holds its
first state and has performed nothing; an effect is performed only in its start, before any event is taken, or for the
event committed last, and an event is taken only by a running service whose start has come to its end; no event waits
while it does not run. Once it is stopped, if its guards and assignments call nothing, whatever comes later leaves it
stopped in its state, takes, computes and commits nothing, and performs at most what was left of the episode that it
was stopped in; and a start fails and leaves the whole world as it was. -/
theorem lifecycle_safe (hnew : w.services = []) (hpast : History (.idle w) past r) :
    (∀ initial, r.happening id = some (.started initial) → Begins id past r initial) ∧
      ∀ s, r.world.services[id]? = some s → Lifecycle id past r s :=
  ⟨fun _ hstarted ↦ hpast.begins hnew hstarted, fun _ hs ↦ hpast.lifecycle hnew hs⟩

end

/-- A lamp that trips a fuse whenever it is lit: the first effect of its entry stops it. -/
def fuse : Machine Unit where
  initial := .text "off"
  states := [(.text "off", ⟨[(.text "press", ⟨some (.text "on"), none, []⟩)], [], []⟩),
    (.text "on", ⟨[], [.effect ⟨"trip", .effect none fun _ _ ↦ .request (.stop "lamp")⟩,
      .effect ⟨"shine", .function none shines⟩], []⟩)]
  context := .null
  events := none
  name := .text "lamp"

theorem silent_fuse : fuse.Silent := by
  intro p hp
  simp only [fuse, List.mem_cons, List.not_mem_nil, or_false] at hp
  rcases hp with rfl | rfl
  · simp
  · simp [Action.silent_effect]

/-- A lamp is made, started, pressed twice, and started again. -/
def fused : Run Unit :=
  .script { World.ofLamp shines with machine := some fuse } [] (.call (.create "lamp") fun _ ↦
    .call (.start "lamp") fun _ ↦ .call (.send "lamp" (.text "press")) fun _ ↦
      .call (.send "lamp" (.text "press")) fun _ ↦ .request (.start "lamp"))

theorem History.ofFused (n : Nat) :
    History (.idle { World.ofLamp shines with machine := some fuse })
      (.idle { World.ofLamp shines with machine := some fuse } :: fused.trail n) (fused.after n) :=
  .trans (.call .begin rfl _) (.steps fused n)

/-- The lamp that stopped itself while it was lit still shines once, and is not started again. -/
theorem lifecycle_safe_of_fuse :
    Over 0 [.performed ⟨"shine", .function none shines⟩ .null ⟨.text "press", []⟩] ⟨.text "on", .null, [], true⟩
        (happenings 0 ((fused.after 14).trail 9)) (((fused.after 14).after 9).view 0) ∧
      (fused.after 23).step = ⟨(fused.after 23).world, [.awaiting fun _ ↦ .done],
        .failing (.lifecycle "stopped" "start")⟩ := by
  have hs : (fused.after 14).world.services[0]? = some _ := rfl
  have hs' : (fused.after 23).world.services[0]? = some _ := rfl
  exact ⟨((lifecycle_safe rfl (History.ofFused 14)).2 _ hs).stays_over silent_fuse rfl _ _ (.steps _ 9),
    ((lifecycle_safe rfl (History.ofFused 23)).2 _ hs').restart rfl _ "lamp" _ rfl (.inl rfl) rfl⟩

end Statechart
