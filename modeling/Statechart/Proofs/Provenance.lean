import Statechart.Proofs.Compilation
import Statechart.Proofs.Lifecycle
import Statechart.Proofs.Publication

/-!
# Where events and effects come from

What a service does goes back to something before. A state that is stored follows the state that the service held
(`Turn.transition_of_committed`), and for an event that was accepted (`History.accepted_of_committed`). Effects still to be performed are the last ones of the first
state or of a state that was stored (`View.effects_left`); the first of them are about to be performed in the step after
that state was stored, and at no other time (`Turn.effects_due`).
-/

set_option autoImplicit false
set_option relaxedAutoImplicit false

namespace Statechart

variable {σ : Type}

/-! ### Where events come from -/

section

variable {id : Nat} {v v' : View σ} {o : Option (Happening σ)} {hs : List (Happening σ)}

/-- A state is stored for an event that was taken from the queue. -/
theorem Turn.taken_of_committed {source next : State σ} {event : Event}
    (hturn : Turn id v (some (.committed source event next)) v') (hcourse : v.Course id hs) :
    .taken source event ∈ hs := by
  cases hturn with
  | @committed k s source event next hnext =>
    obtain ⟨current, hunder, hserving⟩ := Course.handles hcourse (by nofun)
    obtain ⟨first, handlings, -, -, hhs⟩ := hunder.finished
    cases hserving with
    | moving hk =>
      have hmem : .taken s.state event ∈ episodic hs := by simp [hhs]
      exact (List.mem_filter.mp hmem).1

/-- Events that were taken or wait have been accepted. -/
def View.Backed (hs : List (Happening σ)) (v : View σ) : Prop :=
  ∀ s, v.service = some s → ∀ event ∈ takenEvents hs ++ s.queue, event ∈ acceptedEvents hs

theorem View.Backed.turn (hcourse : v.Course id hs) (h : v.Backed hs) (hturn : Turn id v o v') :
    v'.Backed (hs ++ o.toList) := by
  intro s' hs' event hevent
  cases hservice : v.service with
  | some s =>
    obtain ⟨after, hafter, hsub⟩ := hturn.ordered hservice
    cases hafter.symm.trans hs'
    rw [takenEvents_append, List.append_assoc, List.mem_append] at hevent
    rw [acceptedEvents_append, List.mem_append]
    rcases hevent with hbefore | hlater
    · exact .inl (h s hservice event (List.mem_append_left _ hbefore))
    · rcases List.mem_append.mp (hsub.subset hlater) with hwaits | haccepted
      · exact .inl (h s hservice event (List.mem_append_right _ hwaits))
      · exact .inr haccepted
  | none =>
    have hnothing : hs = [] := by
      rw [View.Course, hservice] at hcourse
      exact hcourse.1
    subst hnothing
    -- a new service has no events
    cases hturn with
    | created | hosted =>
      cases hs'
      cases hevent
    | _ => cases hservice <;> cases hs'

end

section

variable {w : World σ} {past : List (Run σ)} {r : Run σ} {id : Nat} {source next : State σ} {event : Event}

theorem History.accepted_of_taken (h : History (.idle w) past r) (hnew : w.services = []) {s : Service σ}
    (hs : r.world.services[id]? = some s) (htaken : .taken source event ∈ happenings id past) :
    event ∈ acceptedEvents (happenings id past) := by
  have hbacked := h.turns id (P := fun hs v ↦ v.Course id hs ∧ v.Backed hs)
    (by simp [View.Course, View.Backed, Run.idle, Run.view, hnew])
    fun h hturn ↦ ⟨Course.turn h.1 hturn, h.2.turn h.1 hturn⟩
  have hevent : event ∈ takenEvents (happenings id past) := List.mem_filterMap.mpr ⟨_, htaken, rfl⟩
  exact hbacked.2 s hs event (List.mem_append_left _ hevent)

/-- What has happened to a service was done by a step of the past. -/
theorem History.exists_of_happened {happened : Happening σ} (h : History (.idle w) past r)
    (hmem : happened ∈ happenings id past) : ∃ earlier p later, past = earlier ++ p :: later ∧
      History (.idle w) earlier p ∧ History p (p :: later) r ∧ p.happening id = some happened := by
  obtain ⟨p, hp, hhappened⟩ := List.mem_filterMap.mp hmem
  obtain ⟨earlier, later, hpast, hearlier, hlater⟩ := h.split hp
  exact ⟨earlier, p, later, hpast, hearlier, hlater, hhappened⟩

/-- An event whose state was stored has been accepted. -/
theorem History.accepted_of_committed (h : History (.idle w) past r) (hnew : w.services = []) {s : Service σ}
    (hs : r.world.services[id]? = some s) (hcommitted : .committed source event next ∈ happenings id past) :
    event ∈ acceptedEvents (happenings id past) := by
  obtain ⟨earlier, p, later, rfl, hearlier, -, hp⟩ := h.exists_of_happened hcommitted
  have hturn := p.step_turn id
  rw [hp] at hturn
  have htaken := hturn.taken_of_committed (hearlier.view_course hnew id)
  have hmem : .taken source event ∈ happenings id (earlier ++ p :: later) := by
    rw [happenings_append]
    exact List.mem_append_left _ htaken
  exact h.accepted_of_taken hnew hs hmem

end

/-! ### Where effects are about to be performed -/

section

variable {id : Nat} {r : Run σ}

/-- Where a state is stored, its effects are performed next. -/
theorem Run.step_of_committed {source next : State σ} {event : Event}
    (h : r.happening id = some (.committed source event next)) :
    ∃ below, r.step.stack = .effects id next.context event next.actions :: below ∧ r.step.Calm := by
  have hturn := r.step_turn id
  rw [h] at hturn
  generalize r.view id = v at hturn
  generalize hview : r.step.view id = v' at hturn
  cases hturn with
  | committed hnext =>
    have hresuming : (r.step.view id).next = .resuming := congrArg View.next hview
    obtain ⟨htop, hcalm⟩ := Run.stack_of_resuming hresuming
    exact ⟨_, htop.symm.trans (congrArg View.frames hview), hcalm⟩

/-- Where an effect is the next one, its script is the next to run. -/
theorem Run.step_of_due {context : Value} {event : Event} {e : Effect σ} {rest : List (Effect σ)}
    {below : List (Frame σ)} (hstack : r.stack = .effects id context event (e :: rest) :: below) (hcalm : r.Calm) :
    r.happening id = some (.performed e context event) ∧ ∃ w,
      r.step = .script w (.effects id context event rest :: below) (e.exec.script context event) := by
  obtain ⟨w, stack, signal⟩ := r
  obtain ⟨a, rfl : signal = _⟩ := hcalm
  dsimp only at hstack
  subst hstack
  exact ⟨by simp [Run.happening, World.resumed], _, rfl⟩

theorem View.service_of_frames {v : View σ} {hs : List (Happening σ)} {frame : Frame σ} {k : List (Frame σ)}
    (hcourse : v.Course id hs) (hframes : v.frames = frame :: k) : ∃ s, v.service = some s := by
  obtain ⟨service, frames, exposed⟩ := v
  dsimp only at hframes
  subst hframes
  exact View.exists_service hcourse

/-- Effects are about to be performed where a state was stored or a service started, or where they were before. -/
theorem Turn.effects_due {v v' : View σ} {o : Option (Happening σ)} {hs : List (Happening σ)} {context : Value}
    {event : Event} {rest : List (Effect σ)} {k : List (Frame σ)} (hturn : Turn id v o v') (hcourse : v.Course id hs)
    (hframes : v'.frames = .effects id context event rest :: k) (hnext : v'.next = .resuming) :
    (∃ source next, o = some (.committed source event next) ∧ context = next.context ∧ rest = next.actions) ∨
      (∃ initial, o = some (.started initial) ∧ rest = initial.actions) ∨
        v.frames = .effects id context event rest :: k ∧ v.next = .covered := by
  cases hturn with
  | committed =>
    cases hframes
    exact .inl ⟨_, _, rfl, rfl, rfl⟩
  | hosted | started =>
    cases hframes
    exact .inr (.inl ⟨_, rfl, rfl⟩)
  | quiet | created | stopped | queued | subscribed | unsubscribed => exact .inr (.inr ⟨hframes, rfl⟩)
  | performed => cases hnext
  | sent | opened | taken | announced | notified | passedOver => cases hframes
  | _ =>
    dsimp only at hframes
    have hbelow := View.below hcourse (.effects id context event rest) (by rw [hframes]; rfl)
    simp at hbelow

/-- An effect is performed where it is the next one. -/
theorem Turn.frames_of_performed {v v' : View σ} {e : Effect σ} {context : Value} {event : Event}
    (hturn : Turn id v (some (.performed e context event)) v') :
    ∃ rest k, v.frames = .effects id context event (e :: rest) :: k ∧ v.next = .resuming := by
  cases hturn with
  | performed => exact ⟨_, _, rfl, rfl⟩

/-- Effects still to be performed are the last ones of the first state or of a state that was stored. -/
theorem View.effects_left {v : View σ} {hs : List (Happening σ)} {context : Value} {event : Event}
    {rest : List (Effect σ)} {k : List (Frame σ)} (hcourse : v.Course id hs)
    (hframes : v.frames = .effects id context event rest :: k) :
    (∃ s initial done, v.service = some s ∧ s.machine.initialState = .ok initial ∧ initial.actions = done ++ rest) ∨
      ∃ source next done, .committed source event next ∈ hs ∧ next.actions = done ++ rest ∧
        (done = [] → v.next = .resuming) := by
  obtain ⟨service, frames, exposed⟩ := v
  dsimp only at hframes
  subst hframes
  obtain ⟨s, rfl⟩ := View.exists_service hcourse
  rcases Course.underway hcourse with ⟨-, -, hstart⟩ | ⟨current, hunder, hserving⟩
  · dsimp only at hstart
    generalize episodic hs = current at hstart
    cases hstart with
    | effects hk hinitial hstate ha he => exact .inl ⟨s, _, _, rfl, hinitial, ha⟩
  · obtain ⟨first, handlings, -, -, hhs⟩ := hunder.finished
    cases hserving with
    | @effects k source event next done rest e hk hnext hstate ha he =>
      have hmem : .committed source event next ∈ episodic hs := by simp [hhs, handled]
      exact .inr ⟨source, next, done, (List.mem_filter.mp hmem).1, ha, he⟩

/-- Where a state is stored, it follows the state of the service. -/
theorem Turn.transition_of_committed {v v' : View σ} {hs : List (Happening σ)} {source next : State σ} {event : Event}
    (hturn : Turn id v (some (.committed source event next)) v') (hcourse : v.Course id hs) :
    ∃ s, v.service = some s ∧ source = s.state ∧ s.machine.transition source event = .ok next := by
  cases hturn with
  | committed hnext => exact ⟨_, rfl, Course.source_eq hcourse, hnext⟩

end

end Statechart
