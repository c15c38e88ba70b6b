import Statechart.Proofs.Newsletter.Passage

/-!
# What guests can do to a form

Whatever a guest does next, and wherever its failure goes, the run leads to a point again (`Point.leads`): a wish is
dropped, queued or handled at once, a closed form stays as it is, and a submission draws a token that nobody has used.
-/

set_option autoImplicit false
set_option relaxedAutoImplicit false

namespace Statechart

/-- A failure is pictured as one of its kind. -/
theorem World.isOrdinary_pictureFailure {σ : Type} (w : World σ) (f : Failure) :
    (w.pictureFailure f).isOrdinary = f.isOrdinary := by
  cases f <;> rfl

/-! ### An event that is sent -/

section

variable {σ : Type} {w : World σ} {s : Service σ} {v : Value} {event : Event}

theorem Run.send_of_not_running (stack : List (Frame σ)) (hs : s.status ≠ .running)
    (hevent : Event.ofValue v = .ok event) :
    Run.send w stack 0 s v = ⟨w.mark 0 (.dropped event s.status), stack, .returning (.state s.state.snapshot)⟩ := by
  simp [Run.send, hevent, hs, Run.answer]

theorem Run.send_of_processing (stack : List (Frame σ)) (hservices : w.services = [s]) (hs : s.status = .running)
    (hbusy : s.processing = true) (hevent : Event.ofValue v = .ok event) :
    ∃ journal, Run.send w stack 0 s v =
      ⟨{ w with services := [{ s with queue := s.queue ++ [event] }], journal := journal }, stack,
        .returning (.state s.state.snapshot)⟩ := by
  refine ⟨.milestone 0 s.machine.name (.queued event) :: .milestone 0 s.machine.name (.accepted event) :: w.journal, ?_⟩
  simp [Run.send, hevent, hs, hbusy, Run.answer, World.mark, World.updateService, hservices]

theorem Run.send_of_idle (stack : List (Frame σ)) (hservices : w.services = [s]) (hs : s.status = .running)
    (hidle : s.processing = false) (hevent : Event.ofValue v = .ok event) :
    ∃ journal, Run.send w stack 0 s v =
      ⟨{ w with services := [{ s with queue := s.queue ++ [event], processing := true }], journal := journal },
        .drain 0 :: .sent 0 :: stack, .returning .null⟩ := by
  refine ⟨.milestone 0 s.machine.name (.accepted event) :: w.journal, ?_⟩
  simp [Run.send, hevent, hs, hidle, Run.answer, World.mark, World.updateService, hservices]

/-- A service that is stopped has no listeners and no events left. -/
def Service.ended (s : Service σ) : Service σ :=
  { s with status := .stopped, listeners := s.listeners.clear, queue := [] }

theorem Run.close_of_open {host : Host} (hservices : w.services = [s]) (hhosts : w.hosts = [host])
    (hservice : host.service = 0) (hopen : host.closed = false) :
    ∃ journal, Run.close w 0 =
      { w with services := [s.ended], hosts := [{ host with closed := true }], journal := journal } := by
  obtain ⟨service, onChange, current, closed⟩ := host
  subst hservice hopen
  by_cases hstopped : s.status = .stopped
  · exact ⟨_, by simp [Run.close, Run.stop, World.note, World.updateService, World.updateHost, hservices, hhosts,
      hstopped, Service.ended]; rfl⟩
  · exact ⟨_, by simp [Run.close, Run.stop, World.note, World.mark, World.updateService, World.updateHost, hservices,
      hhosts, hstopped, Service.ended]; rfl⟩

end

namespace Newsletter

open Run (Leads)

section

variable {named : String → Published → Script FormMemory} {sink : Sink} {creating : Prop}
  {report : Option (Value × Event)} {v w : World FormMemory} {s : Service FormMemory} {c : Signup}
  {stack : List (Frame FormMemory)} {a : Answer} {busy : Bool}

/-- An event that is sent to a form whose name is known goes to its service. -/
theorem Kept.perform_send (h : Kept named sink creating w s c)
    (hknown : World.lookup? w.names Form.host = some (.host 0)) (stack : List (Frame FormMemory)) (value : Value) :
    Run.perform w stack (.send Form.host value) = Run.send w stack 0 s value := by
  obtain ⟨host, hhosts, hservice, -⟩ := h.host
  simp [Run.perform, Run.withService, World.serviceOf, hknown, hhosts, hservice, h.services]

/-- A wish is dropped, queued or handled at once. -/
theorem leads_send (hbelow : Below busy stack) (h : Rest named sink creating busy w s c) {wish : Wish}
    (hqueue : ∃ wishes : List Wish, s.queue = wishes.map Wish.event ∧
      Waiting w ((wishes ++ [wish]).filterMap Wish.token?)) :
    Leads (Current report) (Point named sink creating) (Run.perform w stack (.send Form.host wish.value)) := by
  rcases h.known with hknown | ⟨-, hunknown⟩
  · rw [h.toKept.perform_send hknown]
    by_cases hrunning : s.status = .running
    · obtain ⟨wishes, hevents, hwaiting⟩ := hqueue
      have hevents' : s.queue ++ [wish.event] = (wishes ++ [wish]).map Wish.event := by simp [hevents]
      cases busy with
      | true =>
        obtain ⟨journal, hsend⟩ :=
          Run.send_of_processing stack h.services hrunning h.processing wish.ofValue_value
        rw [hsend]
        have hkept := h.toKept.service (t := { s with queue := s.queue ++ [wish.event] }) rfl h.context
          rfl rfl ⟨_, hevents', hwaiting⟩
        exact .here (point_of_rest hbelow {
          toKept := hkept.beside ⟨journal, _, rfl, .refl _⟩, processing := h.processing
          idle := fun hidle ↦ by cases hidle
          balanced := h.balanced, shown := h.shown } _)
      | false =>
        obtain ⟨journal, hsend⟩ := Run.send_of_idle stack h.services hrunning h.processing wish.ofValue_value
        rw [hsend]
        have hkept := h.toKept.service (t := { s with queue := s.queue ++ [wish.event], processing := true }) rfl
          h.context rfl rfl ⟨_, hevents', hwaiting⟩
        exact .here (point_of_rest (.drain (.sent hbelow)) {
          toKept := hkept.beside ⟨journal, _, rfl, .refl _⟩, processing := rfl
          idle := fun hidle ↦ by cases hidle
          balanced := h.balanced, shown := h.shown } _)
    · rw [Run.send_of_not_running stack hrunning wish.ofValue_value]
      exact .here (point_of_rest hbelow (h.beside (.mark w 0 _)) _)
  · have hfail : Run.perform w stack (.send Form.host wish.value) = Run.fail w stack .missingKey := by
      simp [Run.perform, Run.withService, World.serviceOf, hunknown]
    rw [hfail]
    exact .here ⟨busy, s, c, hbelow, h, fun f hf ↦ by cases hf; rfl⟩

/-- Closing a form stops its service. -/
theorem leads_close (hbelow : Below busy stack) (h : Rest named sink creating busy w s c) :
    Leads (Current report) (Point named sink creating) (Run.perform w stack (.close Form.host)) := by
  rcases h.known with hknown | ⟨-, hunknown⟩
  · have hclose : Run.perform w stack (.close Form.host) = ⟨Run.close w 0, stack, .returning .null⟩ := by
      simp [Run.perform, hknown, Run.answer]
    rw [hclose]
    obtain ⟨host, hhosts, hservice, hclosed⟩ := h.host
    by_cases hopen : host.closed = true
    · have hsame : Run.close w 0 = w := by simp [Run.close, hhosts, hopen]
      rw [hsame]
      exact .here (point_of_rest hbelow h _)
    · obtain ⟨journal, hrun⟩ := Run.close_of_open h.services hhosts hservice (Bool.eq_false_iff.mpr hopen)
      rw [hrun]
      have hkept : Kept named sink creating
          { w with services := [s.ended], hosts := [{ host with closed := true }], journal := journal } s.ended c :=
        { h.toKept with
          services := rfl, listeners := fun hrunning ↦ by cases hrunning
          host := ⟨_, rfl, hservice, rfl⟩, queue := ⟨[], rfl, List.nodup_nil, by simp⟩ }
      obtain ⟨host', hhosts', hcurrent⟩ := h.shown
      rw [hhosts, List.cons.injEq] at hhosts'
      obtain ⟨rfl, -⟩ := hhosts'
      exact .here (point_of_rest hbelow {
        toKept := hkept, processing := h.processing, idle := fun _ ↦ rfl
        balanced := h.balanced, shown := ⟨_, rfl, hcurrent⟩ } _)
  · have hfail : Run.perform w stack (.close Form.host) = Run.fail w stack .missingKey := by
      simp [Run.perform, hunknown]
    rw [hfail]
    exact .here ⟨busy, s, c, hbelow, h, fun f hf ↦ by cases hf; rfl⟩

/-! ### Submitting -/

/-- The token that is made next, once it is there, waits with those in the queue. -/
theorem Waiting.push {ts : List Value} (h : Waiting w ts) (hissued : ∀ t ∈ begun w, Issued w t) (name : String) :
    Waiting ((Newsletter.drawn w).setToken (tokenId w.memory.own.tokens) { name := name })
      (ts ++ [.token (tokenId w.memory.own.tokens)]) := by
  have hnew : ∀ t, Issued w t → t ≠ .token (tokenId w.memory.own.tokens) := fun t ht heq ↦ not_issued_next (heq ▸ ht)
  refine ⟨?_, fun t ht ↦ ?_⟩
  · rw [List.nodup_append]
    refine ⟨h.1, by simp, fun t ht t' ht' heq ↦ ?_⟩
    exact hnew t (h.2 t ht).1 (heq.trans (List.mem_singleton.mp ht'))
  · rcases List.mem_append.mp ht with ht | ht
    · obtain ⟨htissued, htnew, htlive⟩ := h.2 t ht
      refine ⟨issued_drawn htissued, htnew, ?_⟩
      rw [isLive_setToken_of_ne (hnew t htissued)]
      exact htlive
    · rw [List.mem_singleton.mp ht]
      refine ⟨⟨_, Nat.lt_succ_self _, rfl⟩, fun hbegun ↦ not_issued_next (hissued _ hbegun), ?_⟩
      rw [isLive_setToken_self]
      rfl

/-- A new token changes nothing else of a form. -/
theorem Rest.withToken (h : Rest named sink creating busy w s c) (name : String) :
    Rest named sink creating busy ((drawn w).setToken (tokenId w.memory.own.tokens) { name := name }) s c where
  toKept := h.toKept.drawn.setToken (.inl rfl) (by simp)
  processing := h.processing
  idle := h.idle
  balanced := by
    have hnot : Value.token (tokenId w.memory.own.tokens) ∉ begun (drawn w) := fun hbegun ↦
      not_issued_next (h.issued _ hbegun)
    rw [Balanced, live_setToken_of_not_begun hnot]
    exact h.balanced
  shown := h.shown

/-- A submission draws a token and sends its wish, for which a frame waits. -/
theorem leads_submitting {frame : Frame FormMemory} (hbelow : Below busy (frame :: stack))
    (h : Rest named sink creating busy w s c) {sending : Request FormMemory → Script FormMemory}
    (hsending : ∀ w q, Run.proceed w stack (sending q) = Run.perform w (frame :: stack) q) (email : Option Value) :
    Leads (Current report) (Point named sink creating) (Run.proceed w stack (Form.submitting email sending)) := by
  obtain ⟨wishes, hevents, hwaiting⟩ := h.queue
  refine .resume (current_of_frame (by simp)) ?_
  simp only [Run.resume, h.canBegin]
  refine .resume (current_of_frame (by simp)) ?_
  simp only [Run.resume]
  refine .resume (current_of_frame (by simp)) ?_
  simp only [Run.resume]
  rw [hsending]
  refine leads_send hbelow (h.withToken Form.tokenName) ⟨wishes, hevents, ?_⟩
  rw [List.filterMap_append]
  exact hwaiting.push h.issued Form.tokenName

/-- A guest goes on. -/
theorem leads_guest (hbelow : Below busy stack) (h : Rest named sink creating busy w s c)
    {script : Script FormMemory} (hguest : Guest script) :
    Leads (Current report) (Point named sink creating) (Run.proceed w stack script) := by
  have hvisit {q : Request FormMemory} {stack : List (Frame FormMemory)} (hq : Visit q) (hbelow : Below busy stack) :
      Leads (Current report) (Point named sink creating) (Run.perform w stack q) := by
    cases hq with
    | cancel =>
      obtain ⟨wishes, hevents, hwaiting⟩ := h.queue
      exact leads_send hbelow h ⟨wishes, hevents, by simpa [List.filterMap_cons, Wish.token?] using hwaiting⟩
    | reset =>
      obtain ⟨wishes, hevents, hwaiting⟩ := h.queue
      exact leads_send hbelow h ⟨wishes, hevents, by simpa [List.filterMap_cons, Wish.token?] using hwaiting⟩
    | close => exact leads_close hbelow h
    | aside haside =>
      obtain ⟨v, signal, hrun, hbeside, hordinary⟩ := haside w stack
      rw [hrun]
      exact .here ⟨busy, s, c, hbelow, h.beside hbeside, hordinary⟩
  cases hguest with
  | done => exact .here (point_of_rest hbelow h _)
  | @fail f hf =>
    refine .here ⟨busy, s, c, hbelow, h, fun g hg ↦ ?_⟩
    cases hg
    rw [w.isOrdinary_pictureFailure]
    exact hf
  | call hq hnext => exact hvisit hq (.awaiting hnext hbelow)
  | attempt hq hnext => exact hvisit hq (.attempting hnext hbelow)
  | submit email hnext => exact leads_submitting (.awaiting hnext hbelow) h (fun _ _ ↦ rfl) email
  | trySubmit email hnext => exact leads_submitting (.attempting hnext hbelow) h (fun _ _ ↦ rfl) email

/-- No event waits any more and none is being handled. -/
theorem Rest.released (h : Rest named sink creating true w s c) :
    Rest named sink creating false { w with services := [{ s with queue := [], processing := false }] }
      { s with queue := [], processing := false } c where
  toKept := h.toKept.service (t := { s with queue := [], processing := false }) rfl h.context
    rfl rfl ⟨[], rfl, List.nodup_nil, by simp⟩
  processing := rfl
  idle := fun _ ↦ rfl
  balanced := h.balanced
  shown := h.shown

/-- The events that wait are handled one after the other; once there is none, the handling ends. -/
theorem leads_drain (hnamed : ∀ name what, Guest (named name what)) (hbelow : Below false stack)
    (h : Rest named sink creating true w s c) :
    Leads (Current report) (Point named sink creating) (Run.resume w stack a (.drain 0)) := by
  obtain ⟨wishes, hevents, hwaiting⟩ := h.queue
  by_cases hrunning : s.status = .running
  · cases wishes with
    | cons wish wishes => exact leads_wish hnamed hbelow h.toKept h.processing hrunning h.balanced hevents hwaiting
    | nil =>
      have hend : Run.resume w stack a (.drain 0) =
          ⟨{ w with services := [{ s with queue := [], processing := false }] }, stack, .returning .null⟩ := by
        simp [Run.resume, Run.drain, h.services, hrunning, hevents, w.updateService_of_single h.services, Run.answer]
      rw [hend]
      exact .here (point_of_rest hbelow h.released _)
  · have hend : Run.resume w stack a (.drain 0) =
        ⟨{ w with services := [{ s with queue := [], processing := false }] }, stack, .returning .null⟩ := by
      simp [Run.resume, Run.drain, h.services, hrunning, w.updateService_of_single h.services, Run.answer]
    rw [hend]
    exact .here (point_of_rest hbelow h.released _)

/-- The host is known by its name from now on. -/
theorem Rest.bound (h : Rest named sink creating busy w s c) :
    Rest named sink creating busy { w with names := World.bind w.names Form.host (.host 0) } s c where
  toKept := { h.toKept with known := .inl (by rw [World.lookup?_bind, if_pos rfl]) }
  processing := h.processing
  idle := h.idle
  balanced := h.balanced
  shown := h.shown

theorem point_of_failure (hbelow : Below busy stack) (h : Rest named sink creating busy w s c) {f : Failure}
    (hf : f.isOrdinary = true) : Point named sink creating ⟨w, stack, .failing f⟩ :=
  ⟨busy, s, c, hbelow, h, fun g hg ↦ by cases hg; exact hf⟩

/-- The next step of a point leads to a point, and commits only what may be accepted. -/
theorem Point.leads (hnamed : ∀ name what, Guest (named name what)) {r : Run FormMemory}
    (h : Point named sink creating r) :
    Current report r ∧ Leads (Current report) (Point named sink creating) r.step := by
  obtain ⟨w, stack, signal⟩ := r
  obtain ⟨busy, s, c, hbelow, hrest, hordinary⟩ := h
  cases signal with
  | returning a =>
    cases hbelow with
    | nil => exact ⟨fun _ _ _ hcommit ↦ (by cases hcommit), .here (point_of_rest .nil hrest a)⟩
    | awaiting hnext hbelow => exact ⟨current_of_frame (by simp), leads_guest hbelow hrest (hnext a)⟩
    | attempting hnext hbelow => exact ⟨current_of_frame (by simp), leads_guest hbelow hrest (hnext (.ok a))⟩
    | @sent _ rest hbelow =>
      have hanswer : Run.resume w rest a (.sent 0) = ⟨w, rest, .returning (.state s.state.snapshot)⟩ := by
        have hservices : w.services = [s] := hrest.services
        simp [Run.resume, hservices, Run.answer]
      refine ⟨current_of_frame (by simp), .here ?_⟩
      change Point named sink creating (Run.resume w rest a (.sent 0))
      rw [hanswer]
      exact point_of_rest hbelow hrest _
    | hostReady hbelow => exact ⟨current_of_frame (by simp), .here (point_of_rest hbelow hrest.bound _)⟩
    | round hbelow => exact ⟨current_of_frame (by simp), .here (point_of_rest hbelow hrest _)⟩
    | @drain rest hbelow =>
      have hstep : Leads (Current report) (Point named sink creating) (Run.resume w rest a (.drain 0)) :=
        leads_drain hnamed hbelow hrest
      exact ⟨current_of_frame (by simp), hstep⟩
  | failing f =>
    have hf := hordinary f rfl
    cases hbelow with
    | nil => exact ⟨fun _ _ _ hcommit ↦ (by cases hcommit), .here (point_of_failure .nil hrest hf)⟩
    | attempting hnext hbelow => exact ⟨current_of_frame (by simp), leads_guest hbelow hrest (hnext (.error f))⟩
    | awaiting _ hbelow | sent hbelow | hostReady hbelow | round hbelow =>
      exact ⟨current_of_frame (by simp), .here (point_of_failure hbelow hrest hf)⟩
    | @drain rest hbelow =>
      have hend : Run.unwind w rest f (.drain 0) =
          ⟨{ w with services := [{ s with queue := [], processing := false }] }, rest, .failing f⟩ := by
        have hservices : w.services = [s] := hrest.services
        simp [Run.unwind, hf, w.updateService_of_single hservices]
      refine ⟨current_of_frame (by simp), .here ?_⟩
      change Point named sink creating (Run.unwind w rest f (.drain 0))
      rw [hend]
      exact point_of_failure hbelow hrest.released hf

end

end Newsletter

end Statechart
