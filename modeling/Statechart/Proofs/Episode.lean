import Statechart.Proofs.History

/-!
# Episodes

A service lives in episodes: its start, then the handling of one event after the other. `Opening` and `Handling` are
the finished episodes, each as the list of its happenings. An episode begins with the state that is started or with
the event that is taken; effects are performed in the order of the state that was stored, with its context and its
event; the round of notifications comes after the last effect; a failure ends the episode where it strikes.

`Starting` and `Serving` tell, for what stands on the stack, how far the episode under way has got. `Course` is the
invariant that ties a service and its frames to the happenings so far: finished episodes, then the one under way.
`Course.turn` preserves it, one case for each turn, and `History.course` gives it for every history of a world that
began without services.

Requests to the service, a replay to a new subscriber and a failure on its way through the frames below the one it
struck belong to no episode: they may come at any time.
-/

set_option autoImplicit false
set_option relaxedAutoImplicit false

namespace Statechart

variable {σ : Type}

/-! ### Finished episodes -/

/-- Effects of one context and event, performed in order. -/
def performances (context : Value) (event : Event) (effects : List (Effect σ)) : List (Happening σ) :=
  effects.map fun e ↦ .performed e context event

/-- A state passed on to listeners, in order. -/
def notices (s : Snapshot) (told : List Listener) : List (Happening σ) := told.map fun l ↦ .notified l s

/-- A start that has performed some of its effects. -/
def opening (initial : State σ) (done : List (Effect σ)) : List (Happening σ) :=
  .started initial :: performances initial.context Event.init done

/-- An event handled up to some of its effects. -/
def handled (source : State σ) (event : Event) (next : State σ) (done : List (Effect σ)) :
    List (Happening σ) :=
  .taken source event :: .committed source event next :: performances next.context event done

/-- An event handled up to some listeners of its round. -/
def announced (source : State σ) (event : Event) (next : State σ) (told : List Listener) :
    List (Happening σ) :=
  handled source event next next.actions ++ .announced event :: notices next.settled.snapshot told

section

variable (context : Value) (event : Event) (initial source next : State σ) (e : Effect σ)
  (done more : List (Effect σ)) (told : List Listener) (l : Listener)

@[simp] theorem performances_nil : performances context event ([] : List (Effect σ)) = [] := rfl

@[simp] theorem performances_cons :
    performances context event (e :: more) = .performed e context event :: performances context event more := rfl

@[simp] theorem opening_append :
    opening initial (done ++ more) = opening initial done ++ performances initial.context Event.init more := by
  simp [opening, performances]

@[simp] theorem handled_append :
    handled source event next (done ++ more) =
      handled source event next done ++ performances next.context event more := by
  simp [handled, performances]

@[simp] theorem announced_nil :
    announced source event next [] = handled source event next next.actions ++ [.announced event] := rfl

@[simp] theorem announced_snoc :
    announced source event next (told ++ [l]) =
      announced source event next told ++ [.notified l next.settled.snapshot] := by
  simp [announced, notices]

end

/-- The start of a service. -/
inductive Opening (m : Machine σ) : List (Happening σ) → Prop
  | completed {initial} (h : m.initialState = .ok initial) :
      Opening m (opening initial initial.actions ++ [.completed])
  | failed {initial done e rest f} (h : m.initialState = .ok initial)
      (ha : initial.actions = done ++ e :: rest) : Opening m (opening initial (done ++ [e]) ++ [.failed f])

/-- The handling of one event. -/
inductive Handling (m : Machine σ) : List (Happening σ) → Prop
  | refused {source event f} : Handling m [.taken source event, .refused f]
  | effectFailed {source event next done e rest f} (h : m.transition source event = .ok next)
      (ha : next.actions = done ++ e :: rest) :
      Handling m (handled source event next (done ++ [e]) ++ [.failed f])
  | listenerFailed {source event next told f} (h : m.transition source event = .ok next) :
      Handling m (announced source event next told ++ [.failed f])
  | completed {source event next told} (h : m.transition source event = .ok next) :
      Handling m (announced source event next told ++ [.completed])

/-- Happenings that belong to episodes. -/
def Happening.isEpisodic : Happening σ → Bool
  | .stopped | .accepted _ | .replayed _ _ | .abandoned _ => false
  | _ => true

/-- The happenings that belong to episodes, in order. -/
def episodic (hs : List (Happening σ)) : List (Happening σ) := hs.filter Happening.isEpisodic

@[simp] theorem episodic_append (hs hs' : List (Happening σ)) :
    episodic (hs ++ hs') = episodic hs ++ episodic hs' :=
  List.filter_append ..

/-! ### The episode under way -/

/-- What stands below the frames of a service: the start or the send that is under way was made from outside. -/
inductive Root (id : Nat) : List (Frame σ) → Prop
  | sent {k} (h : handling id k = []) : Root id (.sent id :: k)
  | started {k} (h : handling id k = []) : Root id (.reply .yes :: k)

theorem Root.handling {id : Nat} {k : List (Frame σ)} (h : Root id k) : handling id k = [] := by
  cases h with
  | sent h => simpa using h
  | started h => simpa using h

theorem Root.exposure {id : Nat} {k : List (Frame σ)} (h : Root id k) (f : Option Failure) :
    exposure id k f = .covered := by
  cases h <;> simp

/-- A start under way that has not failed: its frames, what comes next for them, and its happenings. -/
inductive Starting (id : Nat) (m : Machine σ) (s : State σ) : List (Frame σ) → Exposure → List (Happening σ) → Prop
  | effects {k initial done rest e} (hk : Root id k) (h : m.initialState = .ok initial)
      (hs : s = initial.settled) (ha : initial.actions = done ++ rest) (he : done = [] → e = .resuming) :
      Starting id m s (.effects id initial.context Event.init rest :: .opening id :: k) e (opening initial done)
  | opening {k initial} (hk : Root id k) (h : m.initialState = .ok initial) (hs : s = initial.settled) :
      Starting id m s (.opening id :: k) .resuming (opening initial initial.actions)

/-- The handling of events under way in a service that has been started, or nothing under way. -/
inductive Serving (id : Nat) (m : Machine σ) (s : State σ) : List (Frame σ) → Exposure → List (Happening σ) → Prop
  | idle {e} : Serving id m s [] e []
  | openingFailed {k f} (hk : Root id k) : Serving id m s (.opening id :: k) (.failing f) []
  | drain {k e} (hk : Root id k) (he : e ≠ .covered) : Serving id m s (.drain id :: k) e []
  | moving {k event e} (hk : Root id k) :
      Serving id m s (.moving id s event :: .drain id :: k) e [.taken s event]
  | effects {k source event next done rest e} (hk : Root id k) (h : m.transition source event = .ok next)
      (hs : s = next.settled) (ha : next.actions = done ++ rest) (he : done = [] → e = .resuming) :
      Serving id m s (.effects id next.context event rest :: .announce id event :: .drain id :: k) e
        (handled source event next done)
  | announce {k source event next} (hk : Root id k) (h : m.transition source event = .ok next)
      (hs : s = next.settled) :
      Serving id m s (.announce id event :: .drain id :: k) .resuming (handled source event next next.actions)
  | announceFailed {k event f} (hk : Root id k) :
      Serving id m s (.announce id event :: .drain id :: k) (.failing f) []
  | round {k source event next told rest e} (hk : Root id k) (h : m.transition source event = .ok next)
      (hs : s = next.settled) :
      Serving id m s (.round (some id) (.state next.settled.snapshot) rest :: .drain id :: k) e
        (announced source event next told)

section

variable {id : Nat} {m : Machine σ} {s : State σ} {k : List (Frame σ)} {e : Exposure} {current : List (Happening σ)}

/-- A frame of an episode that is covered may be laid open in every way. -/
theorem Starting.uncover (h : Starting id m s k .covered current) : Starting id m s k e current := by
  cases h with
  | effects hk h hs ha he => exact .effects hk h hs ha fun hdone ↦ absurd (he hdone) (by simp)

theorem Serving.uncover (h : Serving id m s k .covered current) : Serving id m s k e current := by
  cases h with
  | idle => exact .idle
  | drain hk he => exact absurd rfl he
  | moving hk => exact .moving hk
  | effects hk h hs ha he => exact .effects hk h hs ha fun hdone ↦ absurd (he hdone) (by simp)
  | round hk h hs => exact .round hk h hs

end

/-! ### The course of a service -/

/-- What has happened to a service, and what is under way. -/
inductive Course (id : Nat) (hs : List (Happening σ)) (s : Service σ) (k : List (Frame σ)) (e : Exposure) : Prop
  | untouched (hstatus : s.status ≠ .running) (hinitial : s.machine.initialState = .ok s.state)
      (hqueue : s.queue = []) (hprocessing : s.processing = false) (hk : k = []) (hhs : episodic hs = [])
  | starting (hstatus : s.status ≠ .notStarted) (hprocessing : s.processing = true)
      (h : Starting id s.machine s.state k e (episodic hs))
  | serving {opening current : List (Happening σ)} {handlings : List (List (Happening σ))}
      (hstatus : s.status ≠ .notStarted) (hprocessing : k ≠ [] → s.processing = true)
      (hopening : Opening s.machine opening) (hhandlings : ∀ h ∈ handlings, Handling s.machine h)
      (h : Serving id s.machine s.state k e current) (hhs : episodic hs = opening ++ handlings.flatten ++ current)

/-- A service that has been started and that has finished some episodes, the start among them, with the happenings of
the one under way. -/
structure Underway (hs : List (Happening σ)) (s : Service σ) (current : List (Happening σ)) : Prop where
  started : s.status ≠ .notStarted
  processing : s.processing = true
  finished : ∃ (opening : List (Happening σ)) (handlings : List (List (Happening σ))), Opening s.machine opening ∧
    (∀ h ∈ handlings, Handling s.machine h) ∧ episodic hs = opening ++ handlings.flatten ++ current

namespace Underway

variable {hs current : List (Happening σ)} {s s' : Service σ} {h : Happening σ}

/-- The happenings of the start, which is the first episode. -/
theorem of_opening (hstatus : s.status ≠ .notStarted) (hprocessing : s.processing = true)
    (hh : h.isEpisodic = true) (hopening : Opening s.machine (episodic hs ++ [h])) : Underway (hs ++ [h]) s [] where
  started := hstatus
  processing := hprocessing
  finished := ⟨_, [], hopening, by simp, by simp [episodic, hh]⟩

theorem change (hunder : Underway hs s current) (hmachine : s'.machine = s.machine) (hstatus : s'.status = s.status)
    (hprocessing : s'.processing = s.processing) : Underway hs s' current where
  started := hstatus ▸ hunder.started
  processing := hprocessing.trans hunder.processing
  finished := hmachine ▸ hunder.finished

/-- A happening that goes on with the episode. -/
theorem advance (hunder : Underway hs s current) (hh : h.isEpisodic = true) :
    Underway (hs ++ [h]) s (current ++ [h]) where
  started := hunder.started
  processing := hunder.processing
  finished := by
    obtain ⟨opening, handlings, hopening, hhandlings, hhs⟩ := hunder.finished
    refine ⟨opening, handlings, hopening, hhandlings, ?_⟩
    rw [episodic_append, hhs]
    simp [episodic, hh]

/-- A happening that ends the episode. -/
theorem finish (hunder : Underway hs s current) (hh : h.isEpisodic = true)
    (hfinished : Handling s.machine (current ++ [h])) : Underway (hs ++ [h]) s [] where
  started := hunder.started
  processing := hunder.processing
  finished := by
    obtain ⟨opening, handlings, hopening, hhandlings, hhs⟩ := hunder.finished
    refine ⟨opening, handlings ++ [current ++ [h]], hopening, fun x hx ↦ ?_, ?_⟩
    · rcases List.mem_append.mp hx with hbefore | hlast
      · exact hhandlings x hbefore
      · rw [List.mem_singleton.mp hlast]
        exact hfinished
    · rw [episodic_append, hhs]
      simp [episodic, hh]

variable {id : Nat} {k : List (Frame σ)} {e : Exposure}

theorem course (hunder : Underway hs s current) (h : Serving id s.machine s.state k e current) :
    Course id hs s k e := by
  obtain ⟨opening, handlings, hopening, hhandlings, hhs⟩ := hunder.finished
  exact .serving hunder.started (fun _ ↦ hunder.processing) hopening hhandlings h hhs

/-- Between episodes a service may stop processing, with nothing under way. -/
theorem leave (hunder : Underway hs s []) (hmachine : s'.machine = s.machine) (hstatus : s'.status = s.status) :
    Course id hs s' [] e := by
  obtain ⟨opening, handlings, hopening, hhandlings, hhs⟩ := hunder.finished
  exact .serving (hstatus ▸ hunder.started) (by simp) (hmachine ▸ hopening) (hmachine ▸ hhandlings) .idle hhs

end Underway

/-- The course of a service that may not exist yet. -/
def View.Course (id : Nat) (hs : List (Happening σ)) (v : View σ) : Prop :=
  match v.service with
  | none => hs = [] ∧ v.frames = []
  | some s => Statechart.Course id hs s v.frames v.next

/-- What is under way belongs to a service. -/
theorem View.exists_service {id : Nat} {hs : List (Happening σ)} {o : Option (Service σ)} {frame : Frame σ}
    {k : List (Frame σ)} {e : Exposure} (h : View.Course id hs ⟨o, frame :: k, e⟩) : ∃ s, o = some s := by
  cases o with
  | none => exact absurd h.2 (List.cons_ne_nil frame k)
  | some s => exact ⟨s, rfl⟩

namespace Course

variable {id : Nat} {hs : List (Happening σ)} {s s' : Service σ} {k : List (Frame σ)} {e e' : Exposure}

/-- What changes neither the episode nor its state leaves the course as it is. -/
theorem quiet {o : Option (Happening σ)} (h : Course id hs s k .covered) (ho : ∀ h ∈ o, h.isEpisodic = false)
    (hmachine : s'.machine = s.machine) (hstate : s'.state = s.state) (hprocessing : s'.processing = s.processing)
    (hstatus : s.status ≠ .notStarted → s'.status ≠ .notStarted)
    (huntouched : s.status ≠ .running → s.queue = [] → s'.status ≠ .running ∧ s'.queue = []) :
    Course id (hs ++ o.toList) s' k e := by
  have hepisodic : episodic (hs ++ o.toList) = episodic hs := by
    cases o with
    | none => simp
    | some h => simp [episodic, ho h rfl]
  cases h with
  | untouched hnew hinitial hqueue hidle hk hhs =>
    obtain ⟨hnew', hqueue'⟩ := huntouched hnew hqueue
    exact .untouched hnew' (by rw [hmachine, hstate]; exact hinitial) hqueue' (hprocessing.trans hidle) hk
      (hepisodic.trans hhs)
  | starting hstarted hbusy h =>
    refine .starting (hstatus hstarted) (hprocessing.trans hbusy) ?_
    rw [hmachine, hstate, hepisodic]
    exact h.uncover
  | serving hstarted hbusy hopening hhandlings h hhs =>
    refine .serving (hstatus hstarted) (fun hk ↦ hprocessing.trans (hbusy hk)) (hmachine ▸ hopening)
      (hmachine ▸ hhandlings) ?_ (hepisodic.trans hhs)
    rw [hmachine, hstate]
    exact h.uncover

/-- What is under way of a service is its start or the handling of an event. -/
theorem underway {frame : Frame σ} (h : Course id hs s (frame :: k) e) :
    (s.status ≠ .notStarted ∧ s.processing = true ∧
        Starting id s.machine s.state (frame :: k) e (episodic hs)) ∨
      ∃ current, Underway hs s current ∧ Serving id s.machine s.state (frame :: k) e current := by
  cases h with
  | untouched _ _ _ _ hk _ => cases hk
  | starting hstarted hbusy h => exact .inl ⟨hstarted, hbusy, h⟩
  | serving hstarted hbusy hopening hhandlings h hhs =>
    exact .inr ⟨_, ⟨hstarted, hbusy (List.cons_ne_nil _ _), _, _, hopening, hhandlings, hhs⟩, h⟩

/-- A frame that is none of a start belongs to the handling of an event. -/
theorem handles {frame : Frame σ} (h : Course id hs s (frame :: k) e)
    (hframe : ∀ current, ¬ Starting id s.machine s.state (frame :: k) e current) :
    ∃ current, Underway hs s current ∧ Serving id s.machine s.state (frame :: k) e current := by
  rcases h.underway with ⟨-, -, hstart⟩ | hserving
  · exact absurd hstart (hframe _)
  · exact hserving

/-- A service that is not processing has nothing on the stack. -/
theorem frames_eq_nil (h : Course id hs s k e) (hp : s.processing = false) : k = [] := by
  cases k with
  | nil => rfl
  | cons frame k =>
    have hbusy : s.processing = true := by
      rcases h.underway with ⟨-, hbusy, -⟩ | ⟨current, hunder, -⟩
      · exact hbusy
      · exact hunder.processing
    rw [hp] at hbusy
    cases hbusy

/-- A service with something under way was started. -/
theorem status_ne_notStarted (h : Course id hs s k e) (hk : k ≠ []) : s.status ≠ .notStarted := by
  cases k with
  | nil => exact absurd rfl hk
  | cons frame k =>
    rcases h.underway with ⟨hstarted, -, -⟩ | ⟨current, hunder, -⟩
    · exact hstarted
    · exact hunder.started

/-- An event that leaves the queue is handled from the state of the service. -/
theorem source_eq {source : State σ} {event : Event} (h : Course id hs s (.moving id source event :: k) e) :
    source = s.state := by
  obtain ⟨current, -, hserving⟩ := h.handles (by nofun)
  cases hserving with
  | moving hk => rfl

/-- A start begins the first episode. -/
theorem start {m : Machine σ} {initial : State σ} (hhs : episodic hs = []) (hm : s.machine = m)
    (hinitial : m.initialState = .ok initial) (hstate : s.state = initial.settled) (hstatus : s.status = .running)
    (hprocessing : s.processing = true) (hk : Root id k) :
    Course id (hs ++ [.started initial]) s
      (.effects id initial.context Event.init initial.actions :: .opening id :: k) .resuming := by
  subst hm
  refine .starting (by simp [hstatus]) hprocessing ?_
  have hepisodic : episodic (hs ++ [.started initial]) = opening initial [] := by
    rw [episodic_append, hhs]
    rfl
  rw [hepisodic]
  exact .effects hk hinitial hstate (List.nil_append _).symm fun _ ↦ rfl

theorem performed {context : Value} {event : Event} {effect : Effect σ} {rest : List (Effect σ)}
    (h : Course id hs s (.effects id context event (effect :: rest) :: k) .resuming) :
    Course id (hs ++ [.performed effect context event]) s (.effects id context event rest :: k) .covered := by
  rcases h.underway with ⟨hstarted, hbusy, hstart⟩ | ⟨current, hunder, hserving⟩
  · refine .starting hstarted hbusy ?_
    have hepisodic : episodic (hs ++ [.performed effect context event]) =
        episodic hs ++ [.performed effect context event] := episodic_append _ _
    rw [hepisodic]
    generalize episodic hs = current at hstart
    cases hstart with
    | effects hk hinitial hstate ha he =>
      rw [List.append_cons] at ha
      simpa using Starting.effects (e := .covered) hk hinitial hstate ha (by simp)
  · cases hserving with
    | effects hk hnext hstate ha he =>
      rw [List.append_cons] at ha
      refine (hunder.advance rfl).course ?_
      simpa using Serving.effects (e := .covered) hk hnext hstate ha (by simp)

theorem allPerformed {context : Value} {event : Event}
    (h : Course id hs s (.effects id context event [] :: k) .resuming) :
    Course id hs s (handling id k) (exposure id k none) := by
  rcases h.underway with ⟨hstarted, hbusy, hstart⟩ | ⟨current, hunder, hserving⟩
  · refine .starting hstarted hbusy ?_
    generalize episodic hs = current at hstart
    cases hstart with
    | effects hk hinitial hstate ha he =>
      rw [List.append_nil] at ha
      subst ha
      simpa using Starting.opening hk hinitial hstate
  · cases hserving with
    | effects hk hnext hstate ha he =>
      rw [List.append_nil] at ha
      subst ha
      refine hunder.course ?_
      simpa using Serving.announce hk hnext hstate

theorem opened (h : Course id hs s (.opening id :: k) .resuming) :
    Course id (hs ++ [.completed]) s (.drain id :: k) .resuming := by
  rcases h.underway with ⟨hstarted, hbusy, hstart⟩ | ⟨current, hunder, hserving⟩
  · generalize hcurrent : episodic hs = current at hstart
    cases hstart with
    | opening hk h hs =>
      exact (Underway.of_opening hstarted hbusy rfl (hcurrent ▸ .completed h)).course (.drain hk (by simp))
  · cases hserving

theorem taken {event : Event} {queue : List Event} (h : Course id hs s (.drain id :: k) .resuming) :
    Course id (hs ++ [.taken s.state event]) { s with queue := queue }
      (.moving id s.state event :: .drain id :: k) .covered := by
  obtain ⟨current, hunder, hserving⟩ := h.handles (by nofun)
  cases hserving with
  | drain hk he =>
    have hunder : Underway hs { s with queue := queue } [] := hunder.change rfl rfl rfl
    exact (hunder.advance rfl).course (.moving hk)

/-- Where the draining of a queue ends, nothing is under way any more. -/
theorem leave {e' : Exposure} (h : Course id hs s (.drain id :: k) e) (hmachine : s'.machine = s.machine)
    (hstatus : s'.status = s.status) : Course id hs s' (handling id k) e' := by
  obtain ⟨current, hunder, hserving⟩ := h.handles (by nofun)
  cases hserving with
  | drain hk he =>
    rw [hk.handling]
    exact hunder.leave hmachine hstatus

/-- Where a start has failed, nothing is under way any more. -/
theorem leaveOpening {e' : Exposure} {f : Failure} (h : Course id hs s (.opening id :: k) (.failing f))
    (hmachine : s'.machine = s.machine) (hstatus : s'.status = s.status) : Course id hs s' (handling id k) e' := by
  obtain ⟨current, hunder, hserving⟩ := h.handles (by nofun)
  cases hserving with
  | openingFailed hk =>
    rw [hk.handling]
    exact hunder.leave hmachine hstatus

theorem committed {source next : State σ} {event : Event} (hnext : s.machine.transition source event = .ok next)
    (h : Course id hs s (.moving id source event :: k) .resuming) :
    Course id (hs ++ [.committed source event next]) { s with state := next.settled }
      (.effects id next.context event next.actions :: .announce id event :: k) .resuming := by
  obtain ⟨current, hunder, hserving⟩ := h.handles (by nofun)
  cases hserving with
  | moving hk =>
    have hunder : Underway hs { s with state := next.settled } [.taken s.state event] := hunder.change rfl rfl rfl
    exact (hunder.advance rfl).course (.effects hk hnext rfl (List.nil_append _).symm fun _ ↦ rfl)

theorem refused {source : State σ} {event : Event} {f : Failure} (h : Course id hs s (.moving id source event :: k) e) :
    Course id (hs ++ [.refused f]) s (handling id k) (exposure id k (some f)) := by
  obtain ⟨current, hunder, hserving⟩ := h.handles (by nofun)
  cases hserving with
  | moving hk =>
    refine (hunder.finish rfl .refused).course ?_
    simpa using Serving.drain hk (by simp)

theorem announced {event : Event} (h : Course id hs s (.announce id event :: k) .resuming) :
    Course id (hs ++ [.announced event]) s
      (.round (some id) (.state s.state.snapshot) s.listeners.entries :: k) .resuming := by
  obtain ⟨current, hunder, hserving⟩ := h.handles (by nofun)
  cases hserving with
  | @announce k source event next hk hnext hstate =>
    have hround : Serving id s.machine s.state (.round (some id) (.state next.settled.snapshot) s.listeners.entries ::
        .drain id :: k) .resuming (announced source event next []) := .round hk hnext hstate
    rw [hstate]
    exact (hunder.advance rfl).course hround

theorem notified {snapshot : Snapshot} {ticket : Nat} {l : Listener} {rest : List (Nat × Listener)} {e' : Exposure}
    (h : Course id hs s (.round (some id) (.state snapshot) ((ticket, l) :: rest) :: k) e) :
    Course id (hs ++ [.notified l snapshot]) s (.round (some id) (.state snapshot) rest :: k) e' := by
  obtain ⟨current, hunder, hserving⟩ := h.handles (by nofun)
  cases hserving with
  | round hk hnext hstate =>
    refine (hunder.advance rfl).course ?_
    rw [← announced_snoc]
    exact .round hk hnext hstate

theorem passedOver {what : Published} {entry : Nat × Listener} {rest : List (Nat × Listener)} {e' : Exposure}
    (h : Course id hs s (.round (some id) what (entry :: rest) :: k) e) :
    Course id hs s (.round (some id) what rest :: k) e' := by
  obtain ⟨current, hunder, hserving⟩ := h.handles (by nofun)
  cases hserving with
  | round hk hnext hstate => exact hunder.course (.round hk hnext hstate)

theorem completed {what : Published} (h : Course id hs s (.round (some id) what [] :: k) e) :
    Course id (hs ++ [.completed]) s (handling id k) (exposure id k none) := by
  obtain ⟨current, hunder, hserving⟩ := h.handles (by nofun)
  cases hserving with
  | round hk hnext hstate =>
    refine (hunder.finish rfl (.completed hnext)).course ?_
    simpa using Serving.drain hk (by simp)

theorem effectFailed {context : Value} {event : Event} {rest : List (Effect σ)} {f : Failure}
    (h : Course id hs s (.effects id context event rest :: k) (.failing f)) :
    Course id (hs ++ [.failed f]) s (handling id k) (exposure id k (some f)) := by
  -- the effect that failed is the last of those performed
  have hlast {done : List (Effect σ)} (he : done = [] → Exposure.failing f = .resuming) :
      ∃ before e, done = before ++ [e] := by
    rcases List.eq_nil_or_concat done with hnone | ⟨before, e, hdone⟩
    · exact absurd (he hnone) (by simp)
    · exact ⟨before, e, by simpa using hdone⟩
  rcases h.underway with ⟨hstarted, hbusy, hstart⟩ | ⟨current, hunder, hserving⟩
  · generalize hcurrent : episodic hs = current at hstart
    cases hstart with
    | effects hk hinitial hstate ha he =>
      obtain ⟨before, e, rfl⟩ := hlast he
      rw [← List.append_cons] at ha
      refine (Underway.of_opening hstarted hbusy rfl (hcurrent ▸ .failed hinitial ha)).course ?_
      simpa using Serving.openingFailed hk
  · cases hserving with
    | effects hk hnext hstate ha he =>
      obtain ⟨before, e, rfl⟩ := hlast he
      rw [← List.append_cons] at ha
      refine (hunder.finish rfl (.effectFailed hnext ha)).course ?_
      simpa using Serving.announceFailed hk

theorem listenerFailed {what : Published} {rest : List (Nat × Listener)} {f : Failure}
    (h : Course id hs s (.round (some id) what rest :: k) (.failing f)) :
    Course id (hs ++ [.failed f]) s (handling id k) (exposure id k (some f)) := by
  obtain ⟨current, hunder, hserving⟩ := h.handles (by nofun)
  cases hserving with
  | round hk hnext hstate =>
    refine (hunder.finish rfl (.listenerFailed hnext)).course ?_
    simpa using Serving.drain hk (by simp)

theorem announceAbandoned {event : Event} {f : Failure} (h : Course id hs s (.announce id event :: k) (.failing f)) :
    Course id hs s (handling id k) (exposure id k (some f)) := by
  obtain ⟨current, hunder, hserving⟩ := h.handles (by nofun)
  cases hserving with
  | announceFailed hk =>
    refine hunder.course ?_
    simpa using Serving.drain hk (by simp)

/-- A happening of no episode. -/
theorem aside {h : Happening σ} (hcourse : Course id hs s k e) (hh : h.isEpisodic = false) :
    Course id (hs ++ [h]) s k e := by
  have hepisodic : episodic (hs ++ [h]) = episodic hs := by simp [episodic, hh]
  cases hcourse with
  | untouched hnew hinitial hqueue hidle hk hhs =>
    exact .untouched hnew hinitial hqueue hidle hk (hepisodic.trans hhs)
  | starting hstarted hbusy h => exact .starting hstarted hbusy (by rw [hepisodic]; exact h)
  | serving hstarted hbusy hopening hhandlings h hhs =>
    exact .serving hstarted hbusy hopening hhandlings h (hepisodic.trans hhs)

/-- Every turn of a service continues its course. -/
theorem turn {hs : List (Happening σ)} {v v' : View σ} {o : Option (Happening σ)} (h : v.Course id hs)
    (hturn : Turn id v o v') : v'.Course id (hs ++ o.toList) := by
  cases hturn with
  | @quiet o k e =>
    cases o with
    | none => simpa [View.Course] using h
    | some s => exact quiet h (by simp) rfl rfl rfl (fun h ↦ h) fun h h' ↦ ⟨h, h'⟩
  | created hinitial =>
    exact .untouched (by simp) hinitial rfl rfl h.2 (by rw [h.1]; rfl)
  | hosted hinitial => exact start (by rw [h.1]; rfl) rfl hinitial rfl rfl rfl (.started h.2)
  | started hstatus =>
    cases h with
    | untouched _ hinitial _ _ hk hhs => exact start hhs rfl hinitial rfl rfl rfl (.started hk)
    | starting hstarted _ _ => exact absurd hstatus hstarted
    | serving hstarted _ _ _ _ _ => exact absurd hstatus hstarted
  | stopped => exact quiet h (by simp [Happening.isEpisodic]) rfl rfl rfl (by simp) fun _ _ ↦ by simp
  | queued hr _ =>
    exact quiet h (by simp [Happening.isEpisodic]) rfl rfl rfl (fun h ↦ h) fun h ↦ absurd hr h
  | sent hr hp =>
    have hk := frames_eq_nil h hp
    cases h with
    | untouched hnew _ _ _ _ _ => exact absurd hr hnew
    | starting _ hbusy _ => rw [hp] at hbusy; cases hbusy
    | serving hstarted _ hopening hhandlings h hhs =>
      rw [hk] at h
      cases h with
      | idle =>
        refine aside ?_ rfl
        exact .serving hstarted (fun _ ↦ rfl) hopening hhandlings (.drain (.sent hk) (by simp)) hhs
  | subscribed =>
    exact quiet h (by simp [Happening.isEpisodic]) rfl rfl rfl (fun h ↦ h) fun h h' ↦ ⟨h, h'⟩
  | unsubscribed => exact quiet h (by simp) rfl rfl rfl (fun h ↦ h) fun h h' ↦ ⟨h, h'⟩
  | performed =>
    obtain ⟨s, rfl⟩ := View.exists_service h
    exact performed h
  | allPerformed =>
    obtain ⟨s, rfl⟩ := View.exists_service h
    simpa [View.Course] using allPerformed h
  | opened =>
    obtain ⟨s, rfl⟩ := View.exists_service h
    exact opened h
  | taken hr hq => exact taken h
  | drained _ =>
    rw [Option.toList_none, List.append_nil]
    exact leave h rfl rfl
  | committed hnext => exact committed hnext h
  | refused he =>
    obtain ⟨s, rfl⟩ := View.exists_service h
    exact refused h
  | announced => exact announced h
  | notified _ => exact notified h
  | passedOver _ =>
    obtain ⟨s, rfl⟩ := View.exists_service h
    simpa [View.Course] using passedOver h
  | completed =>
    obtain ⟨s, rfl⟩ := View.exists_service h
    exact completed h
  | effectFailed =>
    obtain ⟨s, rfl⟩ := View.exists_service h
    exact effectFailed h
  | listenerFailed =>
    obtain ⟨s, rfl⟩ := View.exists_service h
    exact listenerFailed h
  | announceAbandoned =>
    obtain ⟨s, rfl⟩ := View.exists_service h
    exact aside (announceAbandoned h) rfl
  | openingAbandoned _ =>
    obtain ⟨s, rfl⟩ := View.exists_service h
    exact aside (leaveOpening h rfl rfl) rfl
  | openingInterrupted _ =>
    obtain ⟨s, rfl⟩ := View.exists_service h
    exact aside (leaveOpening h rfl rfl) rfl
  | drainAbandoned =>
    obtain ⟨s, rfl⟩ := View.exists_service h
    exact aside (leave h rfl rfl) rfl
  | orphaned => exact absurd h.2 (List.cons_ne_nil _ _)

end Course

/-! ### What stands below a frame -/

/-- The topmost frame of a service, and the frames that it stands on. -/
inductive StandsOn (id : Nat) (hs : List (Happening σ)) : Frame σ → List (Frame σ) → Prop
  | drain {k} (hk : handling id k = []) : StandsOn id hs (.drain id) k
  | opening {k} (hk : handling id k = []) : StandsOn id hs (.opening id) k
  /-- The effects of a start, whose happenings are those so far. -/
  | starting {context event rest k initial done} (hopening : episodic hs = Statechart.opening initial done) :
      StandsOn id hs (.effects id context event rest) (.opening id :: k)
  | effects {context event rest k} : StandsOn id hs (.effects id context event rest) (.announce id event :: .drain id :: k)
  | moving {source event k} : StandsOn id hs (.moving id source event) (.drain id :: k)
  | announce {event k} : StandsOn id hs (.announce id event) (.drain id :: k)
  | round {what rest k} : StandsOn id hs (.round (some id) what rest) (.drain id :: k)

section

variable {id : Nat} {hs : List (Happening σ)} {s : Service σ} {o : Option (Service σ)} {frame : Frame σ}
  {k : List (Frame σ)} {e : Exposure}

theorem Course.standsOn (h : Course id hs s (frame :: k) e) : StandsOn id hs frame k := by
  rcases h.underway with ⟨-, -, hstart⟩ | ⟨current, -, hserving⟩
  · generalize hcurrent : episodic hs = current at hstart
    cases hstart with
    | effects => exact .starting hcurrent
    | opening hk => exact .opening hk.handling
  · cases hserving with
    | openingFailed hk => exact .opening hk.handling
    | drain hk => exact .drain hk.handling
    | moving => exact .moving
    | effects => exact .effects
    | announce | announceFailed => exact .announce
    | round => exact .round

theorem View.standsOn (h : View.Course id hs ⟨o, frame :: k, e⟩) : StandsOn id hs frame k := by
  obtain ⟨s, rfl⟩ := View.exists_service h
  exact Course.standsOn h

/-- Effects apart, a frame inside the handling of an event stands on the draining of the queue. -/
theorem View.drain_below (h : View.Course id hs ⟨o, frame :: k, e⟩) (hdrain : frame ≠ .drain id)
    (hopening : frame ≠ .opening id) (heffects : ∀ context event rest, frame ≠ .effects id context event rest) :
    ∃ below, k = .drain id :: below := by
  cases View.standsOn h with
  | drain => exact absurd rfl hdrain
  | opening => exact absurd rfl hopening
  | starting | effects => exact absurd rfl (heffects _ _ _)
  | moving | announce | round => exact ⟨_, rfl⟩

/-- Below the draining of a queue, or a start, no frame of the service stands. -/
theorem View.nothing_below (h : View.Course id hs ⟨o, frame :: k, e⟩) (hframe : frame = .drain id ∨ frame = .opening id) :
    handling id k = [] := by
  cases View.standsOn h with
  | drain hk | opening hk => exact hk
  | starting | effects | moving | announce | round => simp at hframe

/-- The effects of a service stand on its start, whose happenings are then those so far, or on the announcement. -/
theorem View.below_effects {context : Value} {event : Event} {rest : List (Effect σ)}
    (h : View.Course id hs ⟨o, .effects id context event rest :: k, e⟩) :
    (∃ below initial done, k = .opening id :: below ∧ episodic hs = opening initial done) ∨
      ∃ below, k = .announce id event :: below := by
  cases View.standsOn h with
  | starting hopening => exact .inl ⟨_, _, _, rfl, hopening⟩
  | effects => exact .inr ⟨_, rfl⟩

end

namespace History

variable {w : World σ} {past : List (Run σ)} {r : Run σ}

/-- What a run shows of a service follows its course, over every history that began without services. -/
theorem view_course (h : History (.idle w) past r) (hnew : w.services = []) (id : Nat) :
    (r.view id).Course id (happenings id past) :=
  h.turns id (P := fun hs v ↦ v.Course id hs) (by simp [View.Course, Run.idle, Run.view, hnew])
    fun h hturn ↦ Course.turn h hturn

/-- The course of a service at the end of a history that began without services. -/
theorem course (h : History (.idle w) past r) (hnew : w.services = []) {id : Nat} {s : Service σ}
    (hs : r.world.services[id]? = some s) :
    Course id (happenings id past) s (handling id r.stack) (exposure id r.stack r.signal.failure?) := by
  have hview := h.view_course hnew id
  rw [View.Course, Run.view, hs] at hview
  exact hview

end History

end Statechart
