import Statechart.Proofs.Happening

/-!
# The turns of a service

`Turn` lists all ways in which one step changes what a run shows of a service, each with its happening: it is the
service as a small transition system of its own, with everything else of the run left out. `Run.step_turn` says that
every step is a turn, so that an invariant of services needs one case for each turn and never looks at a step again.
-/

set_option autoImplicit false
set_option relaxedAutoImplicit false

namespace Statechart

variable {σ : Type}

/-- How one step changes what a run shows of a service. -/
inductive Turn (id : Nat) : View σ → Option (Happening σ) → View σ → Prop
  | quiet {o k e} : Turn id ⟨o, k, .covered⟩ none ⟨o, k, e⟩
  | created {k m initial e} (h : m.initialState = .ok initial) :
      Turn id ⟨none, k, .covered⟩ none ⟨some { machine := m, state := initial }, k, e⟩
  | hosted {k m initial} (h : m.initialState = .ok initial) :
      Turn id ⟨none, handling id k, .covered⟩ (some (.started initial))
        ⟨some { machine := m, status := .running, state := initial.settled, processing := true },
          .effects id initial.context Event.init initial.actions :: .opening id :: .reply .yes :: k, .resuming⟩
  | started {k s} (h : s.status = .notStarted) :
      Turn id ⟨some s, handling id k, .covered⟩ (some (.started s.state))
        ⟨some { s with status := .running, processing := true, state := s.state.settled },
          .effects id s.state.context Event.init s.state.actions :: .opening id :: .reply .yes :: k, .resuming⟩
  | stopped {k s e} :
      Turn id ⟨some s, k, .covered⟩ (some .stopped)
        ⟨some { s with status := .stopped, listeners := s.listeners.clear, queue := [] }, k, e⟩
  | queued {k s event e} (hr : s.status = .running) (hp : s.processing = true) :
      Turn id ⟨some s, k, .covered⟩ (some (.accepted event))
        ⟨some { s with queue := s.queue ++ [event] }, k, e⟩
  | sent {k s event} (hr : s.status = .running) (hp : s.processing = false) :
      Turn id ⟨some s, handling id k, .covered⟩ (some (.accepted event))
        ⟨some { s with queue := s.queue ++ [event], processing := true }, .drain id :: .sent id :: k, .resuming⟩
  | subscribed {k s l e} :
      Turn id ⟨some s, k, .covered⟩ (some (.replayed l s.state.snapshot))
        ⟨some { s with listeners := (s.listeners.add l).1 }, k, e⟩
  | unsubscribed {k s ticket e} :
      Turn id ⟨some s, k, .covered⟩ none ⟨some { s with listeners := (s.listeners.remove ticket).1 }, k, e⟩
  | performed {o k context event e rest} :
      Turn id ⟨o, .effects id context event (e :: rest) :: k, .resuming⟩ (some (.performed e context event))
        ⟨o, .effects id context event rest :: k, .covered⟩
  | allPerformed {o k context event} :
      Turn id ⟨o, .effects id context event [] :: k, .resuming⟩ none ⟨o, handling id k, exposure id k none⟩
  | opened {o k} :
      Turn id ⟨o, .opening id :: k, .resuming⟩ (some .completed) ⟨o, .drain id :: k, .resuming⟩
  | taken {k s event queue} (hr : s.status = .running) (hq : s.queue = event :: queue) :
      Turn id ⟨some s, .drain id :: k, .resuming⟩ (some (.taken s.state event))
        ⟨some { s with queue := queue }, .moving id s.state event :: .drain id :: k, .covered⟩
  | drained {k s} (h : s.status = .running → s.queue = []) :
      Turn id ⟨some s, .drain id :: k, .resuming⟩ none
        ⟨some { s with processing := false, queue := [] }, handling id k, exposure id k none⟩
  | committed {k s source event next} (h : s.machine.transition source event = .ok next) :
      Turn id ⟨some s, .moving id source event :: k, .resuming⟩ (some (.committed source event next))
        ⟨some { s with state := next.settled },
          .effects id next.context event next.actions :: .announce id event :: k, .resuming⟩
  | refused {o k source event f e} (h : e = .resuming ∨ e = .failing f) :
      Turn id ⟨o, .moving id source event :: k, e⟩ (some (.refused f))
        ⟨o, handling id k, exposure id k (some f)⟩
  | announced {k s event} :
      Turn id ⟨some s, .announce id event :: k, .resuming⟩ (some (.announced event))
        ⟨some s, .round (some id) (.state s.state.snapshot) s.listeners.entries :: k, .resuming⟩
  | notified {k s snapshot ticket l rest e} (h : s.listeners.hasTicket ticket = true) :
      Turn id ⟨some s, .round (some id) (.state snapshot) ((ticket, l) :: rest) :: k, .resuming⟩
        (some (.notified l snapshot)) ⟨some s, .round (some id) (.state snapshot) rest :: k, e⟩
  | passedOver {o k what ticket l rest e}
      (h : ∀ s snapshot, o = some s → what = .state snapshot → s.listeners.hasTicket ticket = false) :
      Turn id ⟨o, .round (some id) what ((ticket, l) :: rest) :: k, .resuming⟩ none
        ⟨o, .round (some id) what rest :: k, e⟩
  | completed {o k what} :
      Turn id ⟨o, .round (some id) what [] :: k, .resuming⟩ (some .completed)
        ⟨o, handling id k, exposure id k none⟩
  | effectFailed {o k context event rest f} :
      Turn id ⟨o, .effects id context event rest :: k, .failing f⟩ (some (.failed f))
        ⟨o, handling id k, exposure id k (some f)⟩
  | listenerFailed {o k what rest f} :
      Turn id ⟨o, .round (some id) what rest :: k, .failing f⟩ (some (.failed f))
        ⟨o, handling id k, exposure id k (some f)⟩
  | announceAbandoned {o k event f} :
      Turn id ⟨o, .announce id event :: k, .failing f⟩ (some (.abandoned f))
        ⟨o, handling id k, exposure id k (some f)⟩
  | openingAbandoned {o k f} (h : f.isOrdinary = true) :
      Turn id ⟨o, .opening id :: k, .failing f⟩ (some (.abandoned f))
        ⟨o.map fun s ↦ { s with queue := [], processing := false }, handling id k, exposure id k (some f)⟩
  | openingInterrupted {o k f} (h : f.isOrdinary = false) :
      Turn id ⟨o, .opening id :: k, .failing f⟩ (some (.abandoned f))
        ⟨o, handling id k, exposure id k (some f)⟩
  | drainAbandoned {o k f} :
      Turn id ⟨o, .drain id :: k, .failing f⟩ (some (.abandoned f))
        ⟨o.map fun s ↦ { s with queue := if f.isOrdinary then [] else s.queue, processing := false },
          handling id k, exposure id k (some f)⟩
  /-- Frames of a service that does not exist come to nothing. -/
  | orphaned {frame k} : Turn id ⟨none, frame :: k, .resuming⟩ none ⟨none, handling id k, exposure id k none⟩

namespace Run

@[simp] theorem services_call (w : World σ) (stack : List (Frame σ)) (l : Listener) (what : Published) :
    (call w stack l what).world.services = w.services := by
  cases l with
  | named name => rfl
  | numbered n => rfl
  | keeper i =>
    simp only [call]
    cases w.hosts[i]? with
    | none => rfl
    | some h =>
      dsimp only
      cases h.onChange <;> cases what <;> rfl

theorem handling_call (w : World σ) (stack : List (Frame σ)) (l : Listener) (what : Published) (id : Nat) :
    handling id (call w stack l what).stack = handling id stack := by
  cases l with
  | named name => rfl
  | numbered n => rfl
  | keeper i =>
    simp only [call]
    cases w.hosts[i]? with
    | none => rfl
    | some h =>
      dsimp only
      cases h.onChange <;> rfl

theorem view_call (w : World σ) (stack : List (Frame σ)) (l : Listener) (what : Published) (id : Nat) :
    (call w stack l what).view id = ⟨w.services[id]?, handling id stack,
      exposure id (call w stack l what).stack (call w stack l what).signal.failure?⟩ := by
  rw [view, services_call, handling_call]

@[simp] theorem view_answer (w : World σ) (stack : List (Frame σ)) (a : Answer) (id : Nat) :
    (answer w stack a).view id = ⟨w.services[id]?, handling id stack, exposure id stack none⟩ := rfl

@[simp] theorem view_fail (w : World σ) (stack : List (Frame σ)) (f : Failure) (id : Nat) :
    (fail w stack f).view id =
      ⟨w.services[id]?, handling id stack, exposure id stack (some (w.pictureFailure f))⟩ := rfl

@[simp] theorem view_script (w : World σ) (stack : List (Frame σ)) (s : Script σ) (id : Nat) :
    (script w stack s).view id = .of id w stack := rfl

theorem view_ofOutcome (w : World σ) (stack : List (Frame σ)) (o : Outcome Answer) (id : Nat) :
    ∃ e, (ofOutcome w stack o).view id = ⟨w.services[id]?, handling id stack, e⟩ := by
  cases o <;> exact ⟨_, rfl⟩

variable (id : Nat) (w : World σ) (stack : List (Frame σ))

theorem start_turn {i : Nat} {s : Service σ} (hs : w.services[i]? = some s) :
    Turn id (.of id w stack)
      (if i = id ∧ s.status = .notStarted then some (.started s.state) else none)
      ((start w stack i s).view id) := by
  unfold start
  cases hstatus : s.status with
  | running => simpa using Turn.quiet
  | stopped => simpa using Turn.quiet
  | notStarted =>
    by_cases h : i = id
    · subst h
      simpa [hs] using Turn.started hstatus
    · simpa [h, Frame.serves, World.getElem?_updateService_of_ne _ h] using Turn.quiet

theorem stop_turn (i : Nat) (e : Exposure) :
    Turn id (.of id w stack)
      ((w.services[id]?).bind fun _ ↦ if i = id then some .stopped else none)
      ⟨(stop w i).services[id]?, handling id stack, e⟩ := by
  unfold stop
  by_cases h : i = id
  · subst h
    cases hs : w.services[i]? with
    | none => simpa [hs] using Turn.quiet
    | some s =>
      have hmarked :
          (if s.status == .stopped then w else w.mark i (.stopped s.state.value)).services[i]? = some s := by
        split <;> simp [hs]
      simp only [View.of, World.getElem?_updateService_self, hmarked, hs, Option.bind_some, if_true,
        Option.map_some]
      exact Turn.stopped
  · have hquiet : ((w.services[id]?).bind fun _ ↦
        if i = id then some (.stopped : Happening σ) else none) = none := by
      simp [h]
    rw [hquiet]
    split
    · exact Turn.quiet
    · rw [World.getElem?_updateService_of_ne _ h]
      split
      · exact Turn.quiet
      · simpa using Turn.quiet

theorem send_turn {i : Nat} {s : Service σ} (hs : w.services[i]? = some s) (v : Value) :
    Turn id (.of id w stack)
      (match Event.ofValue v with
        | .ok event => if i = id ∧ s.status = .running then some (.accepted event) else none
        | .error _ => none)
      ((send w stack i s v).view id) := by
  unfold send
  cases Event.ofValue v with
  | error f => simpa using Turn.quiet
  | ok event =>
    by_cases hr : s.status = .running
    · by_cases h : i = id
      · subst h
        cases hp : s.processing with
        | true => simpa [hr, hp, hs] using Turn.queued hr hp
        | false => simpa [hr, hp, hs] using Turn.sent hr hp
      · cases hp : s.processing with
        | true => simpa [hr, h, hp, World.getElem?_updateService_of_ne _ h] using Turn.quiet
        | false =>
          simpa [hr, h, hp, Frame.serves, World.getElem?_updateService_of_ne _ h] using Turn.quiet
    · simpa [hr] using Turn.quiet

theorem subscribe_turn {i : Nat} {s : Service σ} (hs : w.services[i]? = some s) (l : Listener)
    (after : Handle → List (Frame σ)) (hafter : ∀ handle, ∀ frame ∈ after handle, frame.serves id = false) :
    Turn id (.of id w stack)
      (if i = id then some (.replayed l s.state.snapshot) else none)
      ((subscribe w stack i s l after).view id) := by
  unfold subscribe
  simp only [view_call, View.of, World.services_mark, handling_append id stack _ (hafter _)]
  by_cases h : i = id
  · subst h
    simpa [hs] using Turn.subscribed
  · simpa [h, World.getElem?_updateService_of_ne _ h] using Turn.quiet

theorem withService_turn {name : String} {k : Nat → Service σ → Run σ} {h : Option (Happening σ)}
    (hk : ∀ i s, w.serviceOf name = .ok i → w.services[i]? = some s →
      Turn id (.of id w stack) h ((k i s).view id))
    (hnone : w.services[id]? = none ∨ w.serviceOf name ≠ .ok id → h = none) :
    Turn id (.of id w stack) h ((withService w stack name k).view id) := by
  unfold withService
  cases hname : w.serviceOf name with
  | error f =>
    rw [hnone (.inr (by simp [hname]))]
    exact Turn.quiet
  | ok i =>
    dsimp only
    cases hs : w.services[i]? with
    | some s => exact hk i s hname hs
    | none =>
      have hgone : w.services[id]? = none ∨ w.serviceOf name ≠ .ok id := by
        by_cases h : i = id
        · exact .inl (h ▸ hs)
        · exact .inr (by simp [hname, h])
      rw [hnone hgone]
      exact Turn.quiet

theorem withOwnService_turn {name : String} {k : Nat → Service σ → Run σ} {h : Option (Happening σ)}
    (hk : ∀ i s, w.own? name = some i → w.services[i]? = some s →
      Turn id (.of id w stack) h ((k i s).view id))
    (hnone : w.services[id]? = none ∨ w.own? name ≠ some id → h = none) :
    Turn id (.of id w stack) h ((withOwnService w stack name k).view id) := by
  unfold withOwnService
  unfold World.own? at hk hnone
  split
  · next i hname =>
    rw [hnone (.inr (by simp [hname]))]
    exact Turn.quiet
  · next hhost =>
    have hown (i : Nat) : w.serviceOf name = .ok i ↔ World.lookup? w.names name = some (.service i) := by
      unfold World.serviceOf
      cases hname : World.lookup? w.names name with
      | none => simp
      | some subject =>
        cases subject with
        | service j => simp
        | host j => exact absurd hname (hhost j)
    refine withService_turn id w stack (fun i s hi hs ↦ hk i s (by simp [(hown i).mp hi]) hs)
      fun hgone ↦ hnone ?_
    refine hgone.imp_right fun hne heq ↦ hne ((hown id).mpr ?_)
    split at heq
    · next hname => cases heq; exact hname
    · exact absurd heq (by simp)

/-- A new service is the last one. -/
theorem newService_spec {w w' : World σ} {i : Nat} (h : newService w = .ok (w', i)) :
    ∃ m initial, w.machine = some m ∧ m.initialState = .ok initial ∧ i = w.services.length ∧
      w' = { w with services := w.services ++ [{ machine := m, state := initial }] } := by
  unfold newService at h
  cases hm : w.machine with
  | none => simp [hm] at h
  | some m =>
    simp only [hm] at h
    cases hinitial : m.initialState with
    | error f => simp [hinitial, bind, Except.bind] at h
    | ok initial =>
      simp only [hinitial, bind, Except.bind, pure, Except.pure, Except.ok.injEq, Prod.mk.injEq] at h
      exact ⟨m, initial, rfl, hinitial, h.2.symm, h.1.symm⟩

theorem newService_error {w : World σ} {f : Failure} {m : Machine σ} {initial : State σ}
    (h : newService w = .error f) (hm : w.machine = some m) : m.initialState ≠ .ok initial := by
  intro hinitial
  simp [newService, hm, hinitial, bind, Except.bind, pure, Except.pure] at h

theorem getElem?_append_singleton_of_ne {α : Type} (l : List α) (a : α) {i : Nat} (h : i ≠ l.length) :
    (l ++ [a])[i]? = l[i]? := by
  rcases Nat.lt_or_gt_of_ne h with hlt | hgt
  · exact List.getElem?_append_left hlt
  · rw [List.getElem?_eq_none (by simp; omega), List.getElem?_eq_none (by omega)]

theorem create_turn (name : String) :
    Turn id (.of id w stack) none ((create w stack name).view id) := by
  unfold create
  cases hnew : newService w with
  | error f => exact Turn.quiet
  | ok p =>
    obtain ⟨w', i⟩ := p
    obtain ⟨m, initial, -, hinitial, rfl, rfl⟩ := newService_spec hnew
    dsimp only
    by_cases h : id = w.services.length
    · subst h
      simpa using Turn.created hinitial
    · have hsame := getElem?_append_singleton_of_ne w.services { machine := m, state := initial } h
      simp only [view_answer, View.of, hsame]
      exact Turn.quiet

theorem createHost_turn (name : String) (onChange : Option String) :
    Turn id (.of id w stack)
      (if w.services.length = id then
        w.machine.bind fun m ↦
          match m.initialState with
          | .ok initial => some (.started initial)
          | .error _ => none
      else none) ((createHost w stack name onChange).view id) := by
  unfold createHost
  cases hnew : newService w with
  | error f =>
    have hquiet : (w.machine.bind fun m ↦
        match m.initialState with
        | .ok initial => some (Happening.started initial)
        | .error _ => none) = none := by
      cases hm : w.machine with
      | none => rfl
      | some m =>
        cases hinitial : m.initialState with
        | error f => simp [hinitial]
        | ok initial => exact absurd hinitial (newService_error hnew hm)
    rw [hquiet, ite_self]
    exact Turn.quiet
  | ok p =>
    obtain ⟨w', i⟩ := p
    obtain ⟨m, initial, hm, hinitial, rfl, rfl⟩ := newService_spec hnew
    have hlast : (w.services ++ [({ machine := m, state := initial } : Service σ)])[w.services.length]? =
        some { machine := m, state := initial } := by simp
    simp only [hlast]
    by_cases h : w.services.length = id
    · subst h
      have hturn := @Turn.hosted σ w.services.length (.hostStarted w.hosts.length name :: stack) m initial hinitial
      simpa [hm, hinitial, start] using hturn
    · have hsame := getElem?_append_singleton_of_ne w.services { machine := m, state := initial } (Ne.symm h)
      simpa [h, start, Frame.serves, World.getElem?_updateService_of_ne _ h, hsame] using Turn.quiet

theorem services_close (h : Nat) (host : Host) (hhost : w.hosts[h]? = some host)
    (hclosed : host.closed = false) :
    (close w h).services =
      (stop (w.updateHost h fun h ↦ { h with closed := true }) host.service).services := by
  simp only [close, hhost, hclosed, Bool.false_eq_true, if_false]
  split
  · rfl
  · exact World.services_note _ _

theorem close_turn (h : Nat) (e : Exposure) :
    Turn id (.of id w stack)
      ((w.services[id]?).bind fun _ ↦ if w.hosted? h = some id then some .stopped else none)
      ⟨(close w h).services[id]?, handling id stack, e⟩ := by
  have hquiet (hsame : close w h = w) (hnone : w.hosted? h = none) :
      Turn id (.of id w stack)
        ((w.services[id]?).bind fun _ ↦ if w.hosted? h = some id then some .stopped else none)
        ⟨(close w h).services[id]?, handling id stack, e⟩ := by
    rw [hsame, hnone]
    simpa using Turn.quiet
  cases hhost : w.hosts[h]? with
  | none => exact hquiet (by simp [close, hhost]) (by simp [World.hosted?, hhost])
  | some host =>
    cases hclosed : host.closed with
    | true => exact hquiet (by simp [close, hhost, hclosed]) (by simp [World.hosted?, hhost, hclosed])
    | false =>
      have hturn := stop_turn id (w.updateHost h fun h ↦ { h with closed := true }) stack host.service e
      rw [services_close w h host hhost hclosed]
      simpa [World.hosted?, hhost, hclosed] using hturn

theorem unsubscribe_turn (handle : Handle) (e : Exposure) :
    Turn id (.of id w stack) none
      ⟨(unsubscribe w handle).1.services[id]?, handling id stack, e⟩ := by
  obtain ⟨owner, ticket⟩ := handle
  cases owner with
  | none => exact Turn.quiet
  | some i =>
    simp only [unsubscribe, World.setRegistry, World.registryOf]
    by_cases h : i = id
    · subst h
      rw [World.getElem?_updateService_self, View.of]
      cases w.services[i]? with
      | none => exact Turn.quiet
      | some s => exact Turn.unsubscribed
    · rw [World.getElem?_updateService_of_ne _ h]
      exact Turn.quiet

-- from here on simp carries out a request and resumes a frame, and says what comes of it for the service
attribute [local simp] World.requested World.resumed perform resume

/-- A request that a service does not feel. -/
theorem quiet_turn {r : Run σ} {h : Option (Happening σ)}
    (hr : ∃ e, r.view id = ⟨w.services[id]?, handling id stack, e⟩) (hh : h = none) :
    Turn id (.of id w stack) h (r.view id) := by
  obtain ⟨e, hr⟩ := hr
  rw [hr, hh]
  exact Turn.quiet

theorem requested_start_turn (name : String) :
    Turn id (.of id w stack) (w.requested id (.start name))
      ((perform w stack (.start name)).view id) := by
  refine withOwnService_turn id w stack (fun i s hown hs ↦ ?_) fun h ↦ ?_
  · have hsame : w.requested id (.start name) =
        if i = id ∧ s.status = .notStarted then some (.started s.state) else none := by
      by_cases h : i = id
      · subst h
        simp [hown, hs]
      · cases hid : w.services[id]? <;> simp [hid, hown, h]
    rw [hsame]
    exact start_turn id w stack hs
  · cases hs : w.services[id]? with
    | none => simp [hs]
    | some s => simp [World.requested, hs, h.resolve_left (by simp [hs])]

theorem requested_stop_turn (name : String) (a : Answer) :
    Turn id (.of id w stack) (w.requested id (.stop name))
      ((withOwnService w stack name fun i _ ↦ answer (stop w i) stack a).view id) := by
  refine withOwnService_turn id w stack (fun i s hown hs ↦ ?_) fun h ↦ ?_
  · simpa [hown] using stop_turn id w stack i _
  · cases hs : w.services[id]? with
    | none => simp [hs]
    | some s => simp [World.requested, hs, h.resolve_left (by simp [hs])]

theorem requested_send_turn (name : String) (v : Value) :
    Turn id (.of id w stack) (w.requested id (.send name v))
      ((perform w stack (.send name v)).view id) := by
  refine withService_turn id w stack (fun i s hname hs ↦ ?_) fun h ↦ ?_
  · have hsame : w.requested id (.send name v) =
        match Event.ofValue v with
        | .ok event => if i = id ∧ s.status = .running then some (.accepted event) else none
        | .error _ => none := by
      cases hv : Event.ofValue v with
      | error f => cases hid : w.services[id]? <;> simp [hid, hname, hv]
      | ok event =>
        by_cases h : i = id
        · subst h
          simp [hname, hv, hs]
        · cases hid : w.services[id]? <;> simp [hid, hname, hv, h]
    rw [hsame]
    exact send_turn id w stack hs v
  · cases hs : w.services[id]? with
    | none => simp [hs]
    | some s =>
      have hne := h.resolve_left (by simp [hs])
      cases hname : w.serviceOf name with
      | error f => simp [hs, hname]
      | ok i => cases hv : Event.ofValue v <;> simp_all

theorem requested_subscribe_turn (name listener subscription : String) :
    Turn id (.of id w stack) (w.requested id (.subscribe name listener subscription))
      ((perform w stack (.subscribe name listener subscription)).view id) := by
  refine withOwnService_turn id w stack (fun i s hown hs ↦ ?_) fun h ↦ ?_
  · have hsame : w.requested id (.subscribe name listener subscription) =
        if i = id then some (.replayed (.named listener) s.state.snapshot) else none := by
      by_cases h : i = id
      · subst h
        simp [hown, hs]
      · cases hid : w.services[id]? <;> simp [hid, hown, h]
    rw [hsame]
    exact subscribe_turn id w stack hs _ _ (by simp)
  · cases hs : w.services[id]? with
    | none => simp [hs]
    | some s => simp [World.requested, hs, h.resolve_left (by simp [hs])]

/-- What does nothing to any service that is there. -/
theorem bind_services_eq_none {f : Service σ → Option (Happening σ)} (hf : ∀ s, f s = none) :
    (w.services[id]?).bind f = none := by
  cases w.services[id]? with
  | none => rfl
  | some s => exact hf s

theorem requested_enter_turn (name : String) :
    Turn id (.of id w stack) (w.requested id (.enter name)) ((perform w stack (.enter name)).view id) := by
  cases hname : World.lookup? w.names name with
  | none =>
    exact quiet_turn id w stack (by simp [hname, withService, World.serviceOf])
      (bind_services_eq_none id w fun s ↦ by simp [World.own?, hname])
  | some subject =>
    cases subject with
    | host i =>
      exact quiet_turn id w stack (by simp [hname])
        (bind_services_eq_none id w fun s ↦ by simp [World.own?, hname])
    | service i =>
      have hsame : perform w stack (.enter name) = perform w stack (.start name) := by
        simp [withOwnService, hname]
      rw [hsame]
      exact requested_start_turn id w stack name

theorem requested_leave_turn (name : String) :
    Turn id (.of id w stack) (w.requested id (.leave name)) ((perform w stack (.leave name)).view id) := by
  cases hname : World.lookup? w.names name with
  | none =>
    exact quiet_turn id w stack (by simp [hname, withService, World.serviceOf])
      (bind_services_eq_none id w fun s ↦ by simp [World.own?, World.closing?, hname])
  | some subject =>
    cases subject with
    | host h =>
      simpa [World.own?, World.closing?, hname] using close_turn id w stack h _
    | service i =>
      have hsame : perform w stack (.leave name) =
          withOwnService w stack name fun i _ ↦ answer (stop w i) stack .null := by
        simp [withOwnService, hname]
      have hstop : w.requested id (.leave name) = w.requested id (.stop name) := by
        simp [World.closing?, hname]
      rw [hsame, hstop]
      exact requested_stop_turn id w stack name .null

theorem requested_close_turn (name : String) :
    Turn id (.of id w stack) (w.requested id (.close name)) ((perform w stack (.close name)).view id) := by
  cases hname : World.lookup? w.names name with
  | none =>
    exact quiet_turn id w stack (by simp [hname])
      (bind_services_eq_none id w fun s ↦ by simp [World.closing?, hname])
  | some subject =>
    cases subject with
    | host h => simpa [World.closing?, hname] using close_turn id w stack h _
    | service i =>
      exact quiet_turn id w stack (by simp [hname])
        (bind_services_eq_none id w fun s ↦ by simp [World.closing?, hname])

theorem perform_turn (q : Request σ) :
    Turn id (.of id w stack) (w.requested id q) ((perform w stack q).view id) := by
  have hquiet : w.requested id q = none → (∃ e, (perform w stack q).view id = ⟨w.services[id]?, handling id stack, e⟩) →
      Turn id (.of id w stack) (w.requested id q) ((perform w stack q).view id) :=
    fun hh hr ↦ quiet_turn id w stack hr hh
  cases q with
  | start name => exact requested_start_turn id w stack name
  | stop name => exact requested_stop_turn id w stack name .yes
  | send name v => exact requested_send_turn id w stack name v
  | subscribe name listener subscription =>
    exact requested_subscribe_turn id w stack name listener subscription
  | enter name => exact requested_enter_turn id w stack name
  | leave name => exact requested_leave_turn id w stack name
  | close name => exact requested_close_turn id w stack name
  | unsubscribe | scope | remove =>
    rw [World.requested, bind_services_eq_none id w fun _ ↦ rfl]
    simp only [perform]
    repeat' split
    all_goals first | exact Turn.quiet | exact unsubscribe_turn id w stack _ _
  | write sink level text =>
    refine hquiet (bind_services_eq_none id w fun _ ↦ rfl) ?_
    simp only [perform, write]
    repeat' split
    all_goals exact ⟨_, rfl⟩
  | onCancel token callback =>
    refine hquiet (bind_services_eq_none id w fun _ ↦ rfl) ?_
    simp only [perform]
    split
    · exact ⟨_, by rw [view_call, handling_cons, Frame.serves_reply]; rfl⟩
    · exact ⟨_, rfl⟩
  | cancel token reason =>
    refine hquiet (bind_services_eq_none id w fun _ ↦ rfl) ?_
    simp only [perform, cancel]
    split <;> exact ⟨_, rfl⟩
  | describe name =>
    refine hquiet (bind_services_eq_none id w fun _ ↦ rfl) ?_
    simp only [perform, withService]
    repeat' split
    · exact ⟨_, rfl⟩
    · exact ⟨_, rfl⟩
    · exact view_ofOutcome _ _ _ _
  | isActive | checkToken => exact hquiet (bind_services_eq_none id w fun _ ↦ rfl) (view_ofOutcome _ _ _ _)
  | matchesValue | report | register | hasTicket =>
    refine hquiet (bind_services_eq_none id w fun _ ↦ rfl) ?_
    simp only [perform]
    repeat' split
    all_goals exact ⟨_, rfl⟩
  | _ => exact hquiet (bind_services_eq_none id w fun _ ↦ rfl) ⟨_, rfl⟩

theorem proceed_turn (s : Script σ) :
    Turn id (.of id w stack) (w.begun id s) ((proceed w stack s).view id) := by
  cases s with
  | done => exact Turn.quiet
  | fail f => exact Turn.quiet
  | call q next => exact perform_turn id w (.awaiting next :: stack) q
  | attempt q next => exact perform_turn id w (.attempting next :: stack) q

theorem drain_turn {s : Service σ} (hs : w.services[id]? = some s) :
    Turn id ⟨some s, .drain id :: stack, .resuming⟩ s.drains ((drain w stack id s).view id) := by
  unfold drain Service.drains
  by_cases hr : s.status = .running
  · cases hq : s.queue with
    | nil => simpa [hs, hr] using Turn.drained fun _ ↦ hq
    | cons event queue => simpa [hs, hr] using Turn.taken hr hq
  · have hturn : Turn id ⟨some s, .drain id :: stack, .resuming⟩ none
        ⟨some { s with processing := false, queue := [] }, handling id stack, exposure id stack none⟩ :=
      Turn.drained fun h ↦ absurd h hr
    cases hstatus : s.status with
    | running => exact absurd hstatus hr
    | notStarted => simpa [hs, hstatus] using hturn
    | stopped => simpa [hs, hstatus] using hturn

theorem move_turn {s : Service σ} (hs : w.services[id]? = some s) (source : State σ) (event : Event) :
    Turn id ⟨some s, .moving id source event :: stack, .resuming⟩ (some (w.moves s source event))
      ((move w stack id s source event).view id) := by
  unfold move World.moves
  cases hnext : s.machine.transition source event with
  | error f => simpa [hs] using Turn.refused (.inl rfl)
  | ok next => simpa [hs] using Turn.committed hnext

theorem round_turn (what : Published) (rest : List (Nat × Listener)) (a : Answer) :
    Turn id ⟨w.services[id]?, .round (some id) what rest :: stack, .resuming⟩
      (w.resumed id a (.round (some id) what rest))
      ((resume w stack a (.round (some id) what rest)).view id) := by
  cases rest with
  | nil => simpa using Turn.completed
  | cons entry rest =>
    obtain ⟨ticket, l⟩ := entry
    simp only [resume]
    cases hticket : (w.registryOf (some id)).hasTicket ticket with
    | false =>
      have hpassed : ∀ s snapshot, w.services[id]? = some s → what = .state snapshot →
          s.listeners.hasTicket ticket = false := by
        intro s snapshot hs _
        simpa [World.registryOf, hs] using hticket
      cases what <;> simpa [hticket] using Turn.passedOver hpassed
    | true =>
      cases hs : w.services[id]? with
      | none => simp [World.registryOf, hs, Registry.hasTicket] at hticket
      | some s =>
        have hheld : s.listeners.hasTicket ticket = true := by simpa [World.registryOf, hs] using hticket
        cases what with
        | state snapshot =>
          simpa [hticket, view_call, hs] using Turn.notified hheld
        | token name =>
          simpa [hticket, view_call, hs] using Turn.passedOver (by simp)
        | value v =>
          simpa [hticket, view_call, hs] using Turn.passedOver (by simp)

/-- A frame that serves another service is resumed or left. -/
theorem elsewhere_turn {frame : Frame σ} {f : Option Failure} {h : Option (Happening σ)} {v : View σ}
    (hserves : frame.serves id = false) (hh : h = none) (hview : ∃ e, v = ⟨w.services[id]?, handling id stack, e⟩) :
    Turn id ⟨w.services[id]?, handling id (frame :: stack), exposure id (frame :: stack) f⟩ h v := by
  obtain ⟨e, rfl⟩ := hview
  rw [hh, handling_cons, exposure_cons, hserves]
  exact Turn.quiet

/-- A frame that is resumed with an answer makes one of the turns of a service. -/
def ResumeTurn (a : Answer) (frame : Frame σ) : Prop :=
  Turn id ⟨w.services[id]?, handling id (frame :: stack), exposure id (frame :: stack) none⟩ (w.resumed id a frame)
    ((resume w stack a frame).view id)

/-- A frame that a failure leaves makes one of the turns of a service. -/
def UnwindTurn (f : Failure) (frame : Frame σ) : Prop :=
  Turn id ⟨w.services[id]?, handling id (frame :: stack), exposure id (frame :: stack) (some f)⟩ (w.unwound id f frame)
    ((unwind w stack f frame).view id)

theorem effects_turn (i : Nat) (context : Value) (event : Event) (rest : List (Effect σ)) (a : Answer) :
    ResumeTurn id w stack a (.effects i context event rest) := by
  by_cases h : i = id
  · subst h
    cases rest with
    | nil => simpa [ResumeTurn] using Turn.allPerformed
    | cons e rest => simpa [ResumeTurn] using Turn.performed
  · refine elsewhere_turn id w stack (by simp [h]) ?_ ?_
    · cases rest <;> simp [h]
    · cases rest <;> simp [h]

theorem opening_turn (i : Nat) (a : Answer) : ResumeTurn id w stack a (.opening i) := by
  by_cases h : i = id
  · subst h
    simpa [ResumeTurn] using Turn.opened
  · exact elsewhere_turn id w stack (by simp [h]) (by simp [h]) (by simp [h])

theorem resume_drain_turn (i : Nat) (a : Answer) : ResumeTurn id w stack a (.drain i) := by
  by_cases h : i = id
  · subst h
    simp only [ResumeTurn, resume, World.resumed, if_true]
    cases hs : w.services[i]? with
    | none => simpa [hs] using Turn.orphaned
    | some s => simpa [hs] using drain_turn i w stack hs
  · refine elsewhere_turn id w stack (by simp [h]) (by simp [h]) ?_
    simp only [resume]
    cases w.services[i]? with
    | none => exact ⟨_, rfl⟩
    | some s =>
      simp only [drain]
      split <;> simp [World.getElem?_updateService_of_ne _ h, h]

theorem moving_turn (i : Nat) (source : State σ) (event : Event) (a : Answer) :
    ResumeTurn id w stack a (.moving i source event) := by
  by_cases h : i = id
  · subst h
    simp only [ResumeTurn, resume, World.resumed, if_true]
    cases hs : w.services[i]? with
    | none => simpa [hs] using Turn.orphaned
    | some s => simpa [hs] using move_turn i w stack hs source event
  · refine elsewhere_turn id w stack (by simp [h]) (by simp [h]) ?_
    simp only [resume]
    cases w.services[i]? with
    | none => exact ⟨_, rfl⟩
    | some s =>
      simp only [move]
      split <;> simp [World.getElem?_updateService_of_ne _ h, h]

theorem announce_turn (i : Nat) (event : Event) (a : Answer) :
    ResumeTurn id w stack a (.announce i event) := by
  by_cases h : i = id
  · subst h
    cases hs : w.services[i]? with
    | none => simpa [ResumeTurn, hs] using Turn.orphaned
    | some s => simpa [ResumeTurn, hs] using Turn.announced
  · refine elsewhere_turn id w stack (by simp [h]) (by simp [h]) ?_
    simp only [resume]
    split <;> simp [h]

/-- A round of another service, or of the free registry. -/
theorem other_round_turn {owner : Option Nat} (h : owner ≠ some id) (what : Published) (rest : List (Nat × Listener))
    (a : Answer) : ResumeTurn id w stack a (.round owner what rest) := by
  have hserves (rest : List (Nat × Listener)) : Frame.serves id (.round owner what rest : Frame σ) = false := by
    cases owner with
    | none => rfl
    | some i => simpa using h
  refine elsewhere_turn id w stack (hserves rest) ?_ ?_
  · cases owner with
    | none => rfl
    | some i =>
      have hne : i ≠ id := by simpa using h
      cases rest <;> cases what <;> simp [hne]
  · cases rest with
    | nil => exact ⟨_, rfl⟩
    | cons entry rest =>
      simp only [resume]
      split
      · rw [view_call, handling_cons, hserves rest]
        cases owner <;> cases what <;> simp
      · rw [view_answer, handling_cons, hserves rest]
        exact ⟨_, rfl⟩

theorem hostStarted_turn (host : Nat) (name : String) (a : Answer) :
    ResumeTurn id w stack a (.hostStarted host name) := by
  simp only [ResumeTurn, resume, World.resumed]
  cases hhost : w.hosts[host]? with
  | none => exact Turn.quiet
  | some h =>
    dsimp only
    cases hs : w.services[h.service]? with
    | none =>
      refine quiet_turn id w stack ⟨_, rfl⟩ ?_
      by_cases hid : h.service = id
      · simp [← hid, hs]
      · simp [hid]
    | some s =>
      have hturn := subscribe_turn id (w.updateHost host fun h ↦ { h with current := s.state.snapshot })
        stack hs (.keeper host) (fun _ ↦ [.hostReady host name]) (by simp)
      by_cases hid : h.service = id
      · subst hid
        simpa [hs] using hturn
      · simpa [hid] using hturn

theorem resume_turn (a : Answer) (frame : Frame σ) : ResumeTurn id w stack a frame := by
  cases frame with
  | awaiting next => exact proceed_turn id w stack _
  | attempting next => exact proceed_turn id w stack _
  | creating name => exact create_turn id w stack name
  | creatingHost name onChange => exact createHost_turn id w stack name onChange
  | reply a => exact Turn.quiet
  | keep subscription handle => exact Turn.quiet
  | hostReady host name => exact Turn.quiet
  | effects i context event rest => exact effects_turn id w stack i context event rest a
  | opening i => exact opening_turn id w stack i a
  | drain i => exact resume_drain_turn id w stack i a
  | moving i source event => exact moving_turn id w stack i source event a
  | announce i event => exact announce_turn id w stack i event a
  | round owner what rest =>
    by_cases h : owner = some id
    · subst h
      simpa [ResumeTurn] using round_turn id w stack what rest a
    · exact other_round_turn id w stack h what rest a
  | sent i =>
    refine elsewhere_turn id w stack rfl rfl ?_
    simp only [resume]
    split <;> exact ⟨_, rfl⟩
  | cancelling token rest =>
    cases rest with
    | nil => exact Turn.quiet
    | cons l rest =>
      exact elsewhere_turn id w stack rfl rfl
        ⟨_, view_call w (.cancelling token rest :: stack) l (.token token) id⟩
  | hostStarted host name => exact hostStarted_turn id w stack host name a

/-- A failure leaves a frame of the service, or one that serves another. -/
theorem unwind_turn (f : Failure) (frame : Frame σ) : UnwindTurn id w stack f frame := by
  -- a frame that serves another service changes nothing here
  have hother {frame : Frame σ} (hserves : frame.serves id = false) (hh : w.unwound id f frame = none)
      (hservice : (unwind w stack f frame).world.services[id]? = w.services[id]?)
      (hstack : (unwind w stack f frame).stack = stack) : UnwindTurn id w stack f frame :=
    elsewhere_turn id w stack hserves hh ⟨_, by rw [view, hservice, hstack]⟩
  cases frame with
  | attempting next => exact proceed_turn id w stack _
  | effects i context event rest =>
    by_cases h : i = id
    · subst h
      simpa [UnwindTurn, World.unwound, unwind, view] using Turn.effectFailed
    · exact hother (by simp [h]) (by simp [World.unwound, h]) rfl rfl
  | moving i source event =>
    by_cases h : i = id
    · subst h
      simpa [UnwindTurn, World.unwound, unwind, view] using Turn.refused (.inr rfl)
    · exact hother (by simp [h]) (by simp [World.unwound, h]) rfl rfl
  | announce i event =>
    by_cases h : i = id
    · subst h
      simpa [UnwindTurn, World.unwound, unwind, view] using Turn.announceAbandoned
    · exact hother (by simp [h]) (by simp [World.unwound, h]) rfl rfl
  | round owner what rest =>
    cases owner with
    | none => exact Turn.quiet
    | some i =>
      by_cases h : i = id
      · subst h
        simpa [UnwindTurn, World.unwound, unwind, view] using Turn.listenerFailed
      · exact hother (by simp [h]) (by simp [World.unwound, h]) rfl rfl
  | opening i =>
    by_cases h : i = id
    · subst h
      cases hf : f.isOrdinary with
      | true => simpa [UnwindTurn, World.unwound, unwind, view, hf] using Turn.openingAbandoned hf
      | false => simpa [UnwindTurn, World.unwound, unwind, view, hf] using Turn.openingInterrupted hf
    · refine hother (by simp [h]) (by simp [World.unwound, h]) ?_ ?_
      · simp only [unwind]
        split <;> simp [World.getElem?_updateService_of_ne _ h]
      · simp only [unwind]
        split <;> rfl
  | drain i =>
    by_cases h : i = id
    · subst h
      simpa [UnwindTurn, World.unwound, unwind, view] using Turn.drainAbandoned
    · exact hother (by simp [h]) (by simp [World.unwound, h])
        (World.getElem?_updateService_of_ne _ h _) rfl
  | _ => exact Turn.quiet

/-- Every step changes what a run shows of a service in one of the ways of `Turn`. -/
theorem step_turn (r : Run σ) : Turn id (r.view id) (r.happening id) (r.step.view id) := by
  obtain ⟨w, stack, signal⟩ := r
  cases stack with
  | nil => simpa [view, happening, step] using Turn.quiet
  | cons frame stack =>
    cases signal with
    | returning a => exact resume_turn id w stack a frame
    | failing f => exact unwind_turn id w stack f frame

end Run

end Statechart
