import Statechart.Proofs.Newsletter.Balance

/-!
# From point to point

While a form is at work, what happens between two steps of a guest is always the same: an event leaves the queue, the
state that follows is stored, its effects are performed, the host is told, and the next guest is called. So the runs of
a form are followed from point to point (`Point`): the stack holds guests and, below them, at most the handling of one
event, whose effects are done (`Below`); the account of submissions is balanced, and the host shows the state of the
service (`Rest`).

The lemmas of this module lead from the handling of an event to the next point, backwards: what remains to be done of
a stack leads there if what remains after its topmost frame does. Every commit on the way that accepts a report is one
for the token of the context (`Current`).
-/

set_option autoImplicit false
set_option relaxedAutoImplicit false

namespace Statechart

namespace World

variable {σ : Type} (w : World σ) (id : Nat)

/-- A state is committed by the frame that moves on to it. -/
theorem moving_of_committed_resumed {a : Answer} {frame : Frame σ} {source next : State σ} {event : Event}
    (h : w.resumed id a frame = some (.committed source event next)) : frame = .moving id source event := by
  have hbegun (script : Script σ) : w.begun id script ≠ some (.committed source event next) := by
    intro hscript
    have hrequest := w.isRequest_begun id script _ hscript
    cases hrequest
  cases frame with
  | awaiting following => exact absurd h (hbegun _)
  | attempting following => exact absurd h (hbegun _)
  | moving i origin e =>
    simp only [resumed] at h
    by_cases hi : i = id
    · rw [if_pos hi, Option.map_eq_some_iff] at h
      obtain ⟨s, -, hs⟩ := h
      unfold moves at hs
      split at hs
      · cases hs
        rw [hi]
      · cases hs
    · rw [if_neg hi] at h
      cases h
  | drain i =>
    simp only [resumed] at h
    grind [Service.drains]
  | creatingHost name onChange =>
    simp only [resumed] at h
    split at h
    · obtain ⟨m, -, hm⟩ := Option.bind_eq_some_iff.mp h
      split at hm <;> cases hm
    · cases h
  | _ =>
    simp only [resumed] at h
    grind

theorem not_committed_unwound {f : Failure} {frame : Frame σ} {source next : State σ} {event : Event} :
    w.unwound id f frame ≠ some (.committed source event next) := by
  intro h
  cases frame with
  | attempting following =>
    have hrequest := w.isRequest_begun id _ _ h
    cases hrequest
  | _ =>
    simp only [unwound] at h
    grind

end World

/-- A token that is not cancelled yet: its callbacks are called, and the answer is yes. -/
theorem Run.cancel_of_not_cancelled {σ : Type} {w : World σ} {id : String} (h : (w.token id).cancelled = false)
    (stack : List (Frame σ)) (reason : Value) :
    Run.cancel w stack id reason =
      ⟨w.setToken id ((w.token id).cancel reason).1,
        .cancelling id (w.token id).callbacks :: .reply .yes :: stack, .returning .null⟩ := by
  unfold Run.cancel
  simp only [h, Bool.false_eq_true, if_false]
  rfl

/-- A callback of a token that is not cancelled yet waits for the cancellation. -/
theorem Run.onCancel_of_not_cancelled {σ : Type} {w : World σ} {id : String} (h : (w.token id).cancelled = false)
    (stack : List (Frame σ)) (callback : Listener) :
    Run.perform w stack (.onCancel id callback) =
      ⟨w.setToken id { w.token id with callbacks := (w.token id).callbacks ++ [callback] }, stack,
        .returning .null⟩ := by
  simp only [Run.perform, h, Bool.false_eq_true, if_false]
  rfl

namespace Newsletter

open Run (Leads)

/-- A submission is begun and its number given. -/
def beginning (email token : Value) (d : Desk) : Answer × Desk :=
  match d.begin? email token with
  | (some n, d) => (.value (.int n), d)
  | (none, d) => (.null, d)

/-- The submission of a number is aborted when its token is cancelled. -/
def watching (token : Value) (a : Answer) : Script FormMemory :=
  match a, token with
  | .value (.int n), .token id => .request (.onCancel id (.numbered n.toNat))
  | .value (.int _), token => if token.isTruthy then .fail (.plain .missingAttribute) else .done
  | _, _ => .fail (.plain .runtime)

theorem perform_beginning {w : World FormMemory} (h : w.memory.own.canBegin = true)
    (stack : List (Frame FormMemory)) (email token : Value) :
    Run.perform w stack (onDesk (beginning email token)) =
      ⟨withSubmission w email token, stack, .returning (.value (.int w.memory.own.submissions.length))⟩ := by
  simp only [Run.perform, onDesk, beginning, Desk.begin?, h, if_true, withSubmission]
  rfl

/-- A commit that accepts a report is one of the report's own run, and for the submission whose token the context holds
before and after. -/
def Accepts (report : Option (Value × Event)) (source next : State FormMemory) (event : Event) : Prop :=
  next.changed = true → isResult event = true →
    ∃ token, report = some (token, event) ∧ field source.context "token" = .ok token ∧
      field next.context "token" = .ok token

/-- The next step commits only what may be accepted. -/
def Current (report : Option (Value × Event)) (r : Run FormMemory) : Prop :=
  ∀ source event next, r.happening 0 = some (.committed source event next) → Accepts report source next event

theorem current_of_frame {report : Option (Value × Event)} {w : World FormMemory} {frame : Frame FormMemory}
    {stack : List (Frame FormMemory)} {signal : Signal} (h : ∀ source event, frame ≠ .moving 0 source event) :
    Current report ⟨w, frame :: stack, signal⟩ := by
  intro source event next hcommit
  cases signal with
  | returning a => exact absurd (w.moving_of_committed_resumed 0 hcommit) (h source event)
  | failing f => exact absurd hcommit (w.not_committed_unwound 0)

/-- What stands below a guest, and whether an event is being handled there. -/
inductive Below : Bool → List (Frame FormMemory) → Prop
  | nil : Below false []
  | awaiting {busy next stack} (hnext : ∀ a, Guest (next a)) (h : Below busy stack) :
    Below busy (.awaiting next :: stack)
  | attempting {busy next stack} (hnext : ∀ o, Guest (next o)) (h : Below busy stack) :
    Below busy (.attempting next :: stack)
  | sent {busy stack} (h : Below busy stack) : Below busy (.sent 0 :: stack)
  | hostReady {busy stack} (h : Below busy stack) : Below busy (.hostReady 0 Form.host :: stack)
  | round {what stack} (h : Below true stack) : Below true (.round (some 0) what [] :: stack)
  | drain {stack} (h : Below false stack) : Below true (.drain 0 :: stack)

/-- The world of a form between two steps of guests. -/
structure Rest (named : String → Published → Script FormMemory) (sink : Sink) (creating : Prop) (busy : Bool)
    (w : World FormMemory) (s : Service FormMemory) (c : Signup) : Prop extends Kept named sink creating w s c where
  processing : s.processing = busy
  idle : busy = false → s.queue = []
  balanced : Balanced w s.state.value c
  shown : ∃ h, w.hosts = [h] ∧ h.current.value = s.state.value

/-- A run of a form between two steps of guests. -/
def Point (named : String → Published → Script FormMemory) (sink : Sink) (creating : Prop)
    (r : Run FormMemory) : Prop :=
  ∃ busy s c, Below busy r.stack ∧ Rest named sink creating busy r.world s c ∧
    ∀ f, r.signal = .failing f → f.isOrdinary = true

section

variable {named : String → Published → Script FormMemory} {sink : Sink} {creating : Prop}
  {report : Option (Value × Event)} {v w : World FormMemory} {s : Service FormMemory} {c : Signup}
  {stack : List (Frame FormMemory)} {a : Answer} {context : Value} {event : Event} {rest : List (Effect FormMemory)}
  {busy : Bool} {P : Run FormMemory → Prop}

theorem Rest.beside (h : Rest named sink creating busy w s c) (hbeside : Beside w v) :
    Rest named sink creating busy v s c where
  toKept := h.toKept.beside hbeside
  processing := h.processing
  idle := h.idle
  balanced := hbeside.balanced h.balanced
  shown := by
    obtain ⟨_, _, rfl, _⟩ := hbeside
    exact h.shown

theorem point_of_rest (hbelow : Below busy stack) (h : Rest named sink creating busy w s c) (a : Answer) :
    Point named sink creating ⟨w, stack, .returning a⟩ :=
  ⟨busy, s, c, hbelow, h, fun _ hf ↦ by cases hf⟩

/-! ### Effects -/

/-- A change of the desk that leaves the form alone. -/
theorem leads_onDesk {change : Desk → Answer × Desk} (hchange : ∀ d : Desk, d.Alike (change d).2)
    (h : ∀ v, Beside w v → v.memory.own.input = (change w.memory.own).2.input →
      Leads (Current report) P ⟨v, stack, .returning .null⟩) :
    Leads (Current report) P (.script w stack (.request (onDesk change))) := by
  refine .resume (current_of_frame (by simp)) (.resume (current_of_frame (by simp)) ?_)
  exact h _ ⟨_, _, rfl, hchange w.memory.own⟩ rfl

/-- The next effect is begun. -/
theorem leads_effect {e : Effect FormMemory}
    (h : ∀ v, Beside w v → v.memory.own.input = w.memory.own.input → Leads (Current report) P
      (.script v (.effects 0 context event rest :: stack) (e.exec.script context event))) :
    Leads (Current report) P ⟨w, .effects 0 context event (e :: rest) :: stack, .returning a⟩ :=
  .resume (current_of_frame (by simp)) (h _ (.mark w 0 _) (by rw [w.memory_mark]))

/-- The input is cleared. -/
theorem leads_clearing
    (h : ∀ v, Beside w v → v.memory.own.input = .text "" → Leads (Current report) P
      ⟨v, .effects 0 context event rest :: stack, .returning .null⟩) :
    Leads (Current report) P
      ⟨w, .effects 0 context event (clearing clearInput :: rest) :: stack, .returning a⟩ := by
  refine leads_effect fun v hv _ ↦ leads_onDesk (fun d ↦ ⟨rfl, rfl, rfl⟩) fun v' hv' hinput ↦ ?_
  exact h v' (hv.trans hv') hinput

/-- The error of a signup can always be written. -/
theorem leads_logging {log : Effect FormMemory} (hlog : logError sink = .effect log) (hcontext : context = c.toValue)
    (h : ∀ v, Beside w v → v.memory.own.input = w.memory.own.input → Leads (Current report) P
      ⟨v, .effects 0 context event rest :: stack, .returning .null⟩) :
    Leads (Current report) P ⟨w, .effects 0 context event (log :: rest) :: stack, .returning a⟩ := by
  cases hlog
  subst hcontext
  refine leads_effect fun v hv hinput ↦ .resume (current_of_frame (by simp)) ?_
  cases sink with
  | library => exact .resume (current_of_frame (by simp)) (h _ (hv.trans (.note v _)) hinput)
  | given => exact .resume (current_of_frame (by simp)) (h _ (hv.trans (.note v _)) hinput)

/-- The callbacks of a token abort submissions. -/
theorem leads_callbacks {id : String} {callbacks : List Listener} (hbehaviour : w.behaviour = behaviour named)
    (hcallbacks : ∀ l ∈ callbacks, ∃ n, l = .numbered n)
    (h : ∀ v, Beside w v → v.memory.own.input = w.memory.own.input →
      Leads (Current report) P ⟨v, stack, .returning .null⟩) :
    Leads (Current report) P ⟨w, .cancelling id callbacks :: stack, .returning a⟩ := by
  induction callbacks generalizing w a with
  | nil => exact .resume (current_of_frame (by simp)) (h w (.refl w) rfl)
  | cons l callbacks ih =>
    obtain ⟨n, rfl⟩ := hcallbacks l (by simp)
    refine .resume (current_of_frame (by simp)) ?_
    have habort : Leads (Current report) P
        (.script w (.cancelling id callbacks :: stack) (.request (onDesk fun d ↦ (.null, d.abort n)))) := by
      refine leads_onDesk (fun d ↦ d.alike_abort n) fun v hv hinput ↦ ?_
      refine ih ?_ (fun l hl ↦ hcallbacks l (by simp [hl])) fun v' hv' hinput' ↦ ?_
      · obtain ⟨_, _, rfl, _⟩ := hv
        exact hbehaviour
      · exact h v' (hv.trans hv') (hinput'.trans (hinput.trans (w.memory.own.input_abort n)))
    have hcall : w.behaviour (.numbered n) (.token id) = .request (onDesk fun d ↦ (.null, d.abort n)) := by
      rw [hbehaviour]
      rfl
    rw [← hcall] at habort
    exact habort

/-- The token of the context is cancelled. -/
theorem leads_cancelling {id : String} (hbehaviour : w.behaviour = behaviour named)
    (hcallbacks : ∀ l ∈ (w.token id).callbacks, ∃ n, l = .numbered n) (hcontext : context = c.toValue)
    (htoken : c.token = .token id) (hlive : isLive w (.token id) = true)
    (h : ∀ token v, token.cancelled = true → token.callbacks = [] → Beside (w.setToken id token) v →
      v.memory.own.input = w.memory.own.input →
      Leads (Current report) P ⟨v, .effects 0 context event rest :: stack, .returning .null⟩) :
    Leads (Current report) P ⟨w, .effects 0 context event (cancelling :: rest) :: stack, .returning a⟩ := by
  refine leads_effect fun v hv hinput ↦ ?_
  have hscript : (cancelling (σ := FormMemory)).exec.script context event =
      .request (.cancel id (.text ("left " ++ submitting.shown ++ " on " ++ event.kind.shown))) := by
    simp only [cancelling, Callee.script]
    rw [hcontext, field_token, htoken]
  have huncancelled : (v.token id).cancelled = false := by
    rw [hv.token]
    simpa [isLive] using hlive
  rw [hscript]
  refine .resume (current_of_frame (by simp)) ?_
  change Leads _ _ (Run.cancel _ _ _ _)
  rw [Run.cancel_of_not_cancelled huncancelled, hv.token]
  refine leads_callbacks (hv.behaviour.trans hbehaviour) hcallbacks fun v' hv' hinput' ↦ ?_
  refine .resume (current_of_frame (by simp)) (.resume (current_of_frame (by simp)) ?_)
  exact h _ v' rfl rfl ((hv.setToken id _).trans hv') (hinput'.trans hinput)

/-- A submission is begun for the context, to be aborted when its token is cancelled. -/
theorem leads_starting {id : String} (hcanBegin : w.memory.own.canBegin = true) (hcontext : context = c.toValue)
    (htoken : c.token = .token id) (hlive : isLive w (.token id) = true)
    (h : ∀ n v, Beside ((withSubmission w c.email (.token id)).setToken id
        { w.token id with callbacks := (w.token id).callbacks ++ [.numbered n] }) v →
      Leads (Current report) P ⟨v, .effects 0 context event rest :: stack, .returning .null⟩) :
    Leads (Current report) P
      ⟨w, .effects 0 context event (starting startSubmission :: rest) :: stack, .returning a⟩ := by
  refine leads_effect fun v hv _ ↦ ?_
  have huncancelled : ((withSubmission v c.email (.token id)).token id).cancelled = false := by
    change (v.token id).cancelled = false
    rw [hv.token]
    simpa [isLive] using hlive
  obtain ⟨email, data, error, token⟩ := c
  subst hcontext htoken
  refine .resume (current_of_frame (by simp)) ?_
  change Leads _ _ (Run.perform v (.awaiting (watching (.token id)) :: _) (onDesk (beginning email (.token id))))
  rw [perform_beginning (hv.canBegin.trans hcanBegin)]
  refine .resume (current_of_frame (by simp)) ?_
  change Leads _ _ (Run.perform _ _ (.onCancel id (.numbered _)))
  rw [Run.onCancel_of_not_cancelled huncancelled]
  refine .resume (current_of_frame (by simp)) (h v.memory.own.submissions.length _ ?_)
  have hsame : (withSubmission v email (.token id)).token id = w.token id := hv.token id
  rw [hsame]
  exact (hv.withSubmission email (.token id)).setToken id _

/-! ### The end of an event -/

/-- The host keeps a state that it is told. -/
def told (w : World FormMemory) (host : Host) (state : Snapshot) : World FormMemory :=
  { w with hosts := [{ host with current := state }] }

theorem Kept.told (h : Kept named sink creating w s c) {host : Host} (hhost : w.hosts = [host]) (state : Snapshot) :
    Kept named sink creating (told w host state) s c := by
  obtain ⟨host', hhosts, hservice, hclosed⟩ := h.host
  rw [hhost, List.cons.injEq] at hhosts
  obtain ⟨rfl, -⟩ := hhosts
  exact { h with host := ⟨_, rfl, hservice, hclosed⟩ }

/-- The host keeps the state, then calls what is to be done on changes. -/
theorem call_keeper {host : Host} (hhost : w.hosts = [host]) (state : Snapshot) :
    Run.call w stack (.keeper 0) (.state state) =
      match host.onChange with
      | none => ⟨told w host state, stack, .returning .null⟩
      | some name => .script (told w host state) stack (w.behaviour (.named name) (.state state)) := by
  have htold : (w.updateHost 0 fun h ↦ { h with current := state }) = told w host state :=
    w.updateHost_of_single hhost _
  unfold Run.call
  simp only [hhost, List.getElem?_cons_zero, htold]
  rfl

theorem leads_keeper (hnamed : ∀ name what, Guest (named name what)) (hbelow : Below busy stack) {host : Host}
    (hhost : w.hosts = [host]) {state : Snapshot} (h : Rest named sink creating busy (told w host state) s c) :
    Leads (Current report) (Point named sink creating) (Run.call w stack (.keeper 0) (.state state)) := by
  rw [call_keeper hhost]
  cases host.onChange with
  | none => exact .here (point_of_rest hbelow h .null)
  | some name =>
    have hguest : Guest (w.behaviour (.named name) (.state state)) := by
      rw [show w.behaviour = behaviour named from h.behaviour]
      exact hnamed name _
    exact .here (point_of_rest (.awaiting (fun _ ↦ hguest) hbelow) h .null)

/-- Once the effects of an event are done, the host is told the state that its service is in. -/
theorem leads_announced (h : Kept named sink creating w s c) (hrunning : s.status = .running)
    (hrest : ∀ v, Beside w v → v.memory.own.input = w.memory.own.input → Leads (Current report) P
      (Run.call v (.round (some 0) (.state s.state.snapshot) [] :: .drain 0 :: stack) (.keeper 0)
        (.state s.state.snapshot))) :
    Leads (Current report) P
      ⟨w, .effects 0 context event [] :: .announce 0 event :: .drain 0 :: stack, .returning a⟩ := by
  refine .resume (current_of_frame (by simp)) (.resume (current_of_frame (by simp)) ?_)
  have hannounce : Run.resume w (.drain 0 :: stack) .null (.announce 0 event) =
      ⟨w.mark 0 (.announced event), .round (some 0) (.state s.state.snapshot) [(0, .keeper 0)] :: .drain 0 :: stack,
        .returning .null⟩ := by
    simp [Run.resume, h.services, h.listeners hrunning, Run.answer]
  rw [hannounce]
  refine .resume (current_of_frame (by simp)) ?_
  have hticket : s.listeners.hasTicket 0 = true := by
    rw [Registry.hasTicket, h.listeners hrunning]
    rfl
  have hround : Run.resume (w.mark 0 (.announced event)) (.drain 0 :: stack) .null
      (.round (some 0) (.state s.state.snapshot) [(0, .keeper 0)]) =
        Run.call ((w.mark 0 (.announced event)).mark 0 (.notified (.keeper 0) s.state.snapshot))
          (.round (some 0) (.state s.state.snapshot) [] :: .drain 0 :: stack) (.keeper 0)
          (.state s.state.snapshot) := by
    simp [Run.resume, World.registryOf, h.services, hticket]
  rw [hround]
  refine hrest _ ((Beside.mark w 0 _).trans (.mark _ 0 _)) ?_
  rw [World.memory_mark, World.memory_mark]

/-- When the host is told the new state, the next point is reached. -/
theorem leads_settled (hnamed : ∀ name what, Guest (named name what)) (hbelow : Below false stack)
    (h : Kept named sink creating w s c) (hprocessing : s.processing = true) (hrunning : s.status = .running)
    (hbalanced : Balanced w s.state.value c) :
    Leads (Current report) (Point named sink creating)
      ⟨w, .effects 0 context event [] :: .announce 0 event :: .drain 0 :: stack, .returning a⟩ := by
  refine leads_announced h hrunning fun v hv _ ↦ ?_
  have hkept := h.beside hv
  obtain ⟨host, hhost, -, -⟩ := hkept.host
  exact leads_keeper hnamed (.round (.drain hbelow)) hhost {
    toKept := hkept.told hhost _, processing := hprocessing, idle := fun hidle ↦ by cases hidle
    balanced := hv.balanced hbalanced, shown := ⟨_, rfl, rfl⟩ }

/-! ### The next event -/

theorem current_of_moving {source next : State FormMemory} (hservices : w.services = [s])
    (hnext : s.machine.transition source event = .ok next) (haccepts : Accepts report source next event) :
    Current report ⟨w, .moving 0 source event :: stack, .returning a⟩ := by
  intro source' event' next' hcommit
  have hmoves : w.resumed 0 a (.moving 0 source event) = some (.committed source event next) := by
    simp [World.resumed, World.moves, hservices, hnext]
  change w.resumed 0 a (.moving 0 source event) = _ at hcommit
  rw [hmoves, Option.some.injEq, Happening.committed.injEq] at hcommit
  obtain ⟨rfl, rfl, rfl⟩ := hcommit
  exact haccepts

/-- The first event of the queue is taken, and the state that follows is stored. -/
theorem leads_taken {next : State FormMemory} {queue : List Event} (hservices : w.services = [s])
    (hmachine : s.machine = machine startSubmission (some clearInput) sink) (hrunning : s.status = .running)
    (hqueue : s.queue = event :: queue) (hnext : s.machine.transition s.state event = .ok next)
    (haccepts : Accepts report s.state next event)
    (h : ∀ journal, Leads (Current report) P
      ⟨{ w with services := [{ s with queue := queue, state := next.settled }], journal := journal },
        .effects 0 next.context event next.actions :: .announce 0 event :: .drain 0 :: stack, .returning .null⟩) :
    Leads (Current report) P (Run.resume w stack a (.drain 0)) := by
  have hcalls : s.machine.calls s.state event = .done := by
    rw [hmachine]
    exact Machine.calls_eq_done (silent_machine _ _ _) _ _
  have htaken : Run.resume w stack a (.drain 0) =
      .script { w with services := [{ s with queue := queue }] } (.moving 0 s.state event :: .drain 0 :: stack)
        .done := by
    simp [Run.resume, Run.drain, hservices, hrunning, hqueue, hcalls, w.updateService_of_single hservices]
  rw [htaken]
  refine .resume (current_of_frame (by simp)) ?_
  refine .resume (current_of_moving (s := { s with queue := queue }) rfl hnext haccepts) ?_
  have hmoved : Run.resume { w with services := [{ s with queue := queue }] } (.drain 0 :: stack) .null
      (.moving 0 s.state event) =
        ⟨{ w with
            services := [{ s with queue := queue, state := next.settled }]
            journal := .milestone 0 s.machine.name (.committed s.state.value event next.snapshot) :: w.journal },
          .effects 0 next.context event next.actions :: .announce 0 event :: .drain 0 :: stack, .returning .null⟩ := by
    simp [Run.resume, Run.move, hnext, World.mark, World.updateService, Run.answer]
  rw [hmoved]
  exact h _

/-- Leaving the state of a submission leaves none that is live. -/
theorem leads_leaving (h : Kept named sink creating w s c) (hlive : live w = [c.token]) (hcontext : context = c.toValue)
    (hrest : ∀ v, Kept named sink creating v s c → live v = [] → v.memory.own.input = w.memory.own.input →
      Leads (Current report) P ⟨v, .effects 0 context event rest :: stack, .returning .null⟩) :
    Leads (Current report) P ⟨w, .effects 0 context event (cancelling :: rest) :: stack, .returning a⟩ := by
  have hmem : c.token ∈ live w := by simp [hlive]
  obtain ⟨k, -, htoken⟩ := h.issued_of_live hmem
  rw [htoken] at hmem hlive
  obtain ⟨hbegun, hislive⟩ := List.mem_filter.mp hmem
  refine leads_cancelling h.behaviour (h.callbacks _) hcontext htoken hislive fun token v hcancelled hnone hv hinput ↦ ?_
  refine hrest v ((h.setToken (.inr hbegun) ?_).beside hv) ?_ hinput
  · simp [hnone]
  · rw [hv.live, live_cancel hlive hcancelled]

/-- Entering the state of a submission leaves the one that is begun as the only one that is live. -/
theorem leads_entering (h : Kept named sink creating w s c) (hlive : live w = []) (hcontext : context = c.toValue)
    (hqueue : ∃ wishes : List Wish, s.queue = wishes.map Wish.event ∧
      Waiting w (c.token :: wishes.filterMap Wish.token?))
    (hrest : ∀ v, Kept named sink creating v s c → live v = [c.token] →
      Leads (Current report) P ⟨v, .effects 0 context event rest :: stack, .returning .null⟩) :
    Leads (Current report) P
      ⟨w, .effects 0 context event (starting startSubmission :: rest) :: stack, .returning a⟩ := by
  obtain ⟨wishes, hevents, hwaiting⟩ := hqueue
  obtain ⟨hissued, hnew, hislive⟩ := hwaiting.2 c.token (by simp)
  have hkept : Kept named sink creating (withSubmission w c.email c.token) s c :=
    h.withSubmission hissued hnew ⟨wishes, hevents, hwaiting⟩
  have hlive' : live (withSubmission w c.email c.token) = [c.token] :=
    live_withSubmission h.canBegin hlive hislive
  obtain ⟨k, -, htoken⟩ := hissued
  have hcancelled : (w.token (tokenId k)).cancelled = false := by
    rw [htoken] at hislive
    simpa [isLive] using hislive
  refine leads_starting h.canBegin hcontext htoken (htoken ▸ hislive) fun n v hv ↦ ?_
  rw [← htoken] at hv
  have hwatched : Kept named sink creating ((withSubmission w c.email c.token).setToken (tokenId k)
      { w.token (tokenId k) with callbacks := (w.token (tokenId k)).callbacks ++ [.numbered n] }) s c := by
    refine hkept.setToken (.inl hcancelled) fun l hl ↦ ?_
    rcases List.mem_append.mp hl with hl | hl
    · exact h.callbacks _ l hl
    · exact ⟨n, List.mem_singleton.mp hl⟩
  refine hrest v (hwatched.beside hv) (hv.live.trans (.trans (live_setToken_of_same ?_) hlive'))
  rfl

theorem Balanced.atRest (h : Balanced w s.state.value c) (hvalue : s.state.value ∈ atRest) : live w = [] := by
  rcases h with ⟨hsubmitting, -⟩ | ⟨-, hlive⟩
  · rw [hsubmitting] at hvalue
    exact absurd hvalue submitting_not_atRest
  · exact hlive

theorem Balanced.submitting (h : Balanced w s.state.value c) (hvalue : s.state.value = submitting) :
    live w = [c.token] := by
  rcases h with ⟨-, hlive⟩ | ⟨hrest, -⟩
  · exact hlive
  · rw [hvalue] at hrest
    exact absurd hrest submitting_not_atRest

/-- The service after the first event of its queue was taken and the state that follows stored. -/
theorem Kept.taken (h : Kept named sink creating w s c) {next : State FormMemory} {d : Signup}
    (hcontext : next.context = d.toValue) {wishes : List Wish} (hwaiting : Waiting w (wishes.filterMap Wish.token?))
    (processing : Bool) (journal : List Entry) :
    Kept named sink creating
      { w with
        services := [{ s with queue := wishes.map Wish.event, processing := processing, state := next.settled }]
        journal := journal }
      { s with queue := wishes.map Wish.event, processing := processing, state := next.settled } d := by
  have hservice := h.service
    (t := { s with queue := wishes.map Wish.event, processing := processing, state := next.settled }) rfl hcontext
    rfl rfl ⟨wishes, rfl, hwaiting⟩
  exact hservice.beside ⟨_, _, rfl, .refl _⟩

/-- A wish that is taken from the queue leads to the next point. -/
theorem leads_wish (hnamed : ∀ name what, Guest (named name what)) (hbelow : Below false stack)
    (h : Kept named sink creating w s c) (hprocessing : s.processing = true) (hrunning : s.status = .running)
    (hbalanced : Balanced w s.state.value c) {wish : Wish} {wishes : List Wish}
    (hqueue : s.queue = (wish :: wishes).map Wish.event)
    (hwaiting : Waiting w ((wish :: wishes).filterMap Wish.token?)) :
    Leads (Current report) (Point named sink creating) (Run.resume w stack a (.drain 0)) := by
  have hvalue : s.state.value = submitting ∨ s.state.value ∈ atRest := by
    rcases hbalanced with ⟨hvalue, -⟩ | ⟨hvalue, -⟩
    · exact .inl hvalue
    · exact .inr hvalue
  obtain ⟨next, d, hnext, hcontext, hcases⟩ :=
    transition_wish startSubmission clearInput sink hvalue h.context wish
  rw [← h.machine] at hnext
  refine leads_taken h.services h.machine hrunning hqueue hnext (fun _ hresult ↦ ?_) fun journal ↦ ?_
  · rw [isResult_event] at hresult
    cases hresult
  have hrest : Waiting w (wishes.filterMap Wish.token?) := by
    cases htoken : wish.token? with
    | none => rwa [List.filterMap_cons_none htoken] at hwaiting
    | some t =>
      rw [List.filterMap_cons_some htoken] at hwaiting
      exact ⟨(List.nodup_cons.mp hwaiting.1).2, fun t' ht' ↦ hwaiting.2 t' (List.mem_cons_of_mem _ ht')⟩
  have hkept := h.taken hcontext hrest s.processing journal
  rcases hcases with ⟨hactions, hstays, rfl⟩ | ⟨hactions, hfrom, hto⟩ | ⟨hactions, hfrom, hto, email, rfl⟩ |
      ⟨hactions, hfrom, hto, htoken⟩
  · rw [hactions]
    refine leads_settled hnamed hbelow hkept hprocessing hrunning ?_
    change Balanced w next.value _
    rw [hstays]
    exact hbalanced
  · rw [hactions]
    refine leads_clearing fun v hv _ ↦ leads_settled hnamed hbelow (hkept.beside hv) hprocessing hrunning ?_
    exact hv.balanced (.inr ⟨hto, hbalanced.atRest hfrom⟩)
  · rw [hactions]
    refine leads_entering hkept (hbalanced.atRest hfrom) hcontext ⟨wishes, rfl, hwaiting⟩ fun v hv hlive ↦ ?_
    exact leads_settled hnamed hbelow hv hprocessing hrunning (.inl ⟨hto, hlive⟩)
  · rw [hactions]
    have hlive : live w = [d.token] := htoken ▸ hbalanced.submitting hfrom
    refine leads_leaving hkept hlive hcontext fun v hv hnone _ ↦ ?_
    exact leads_settled hnamed hbelow hv hprocessing hrunning (.inr ⟨hto, hnone⟩)

/-- A report that is sent in the state of its submission, where nothing waits, leads to the end of its effects. -/
theorem leads_reported (h : Kept named sink creating w s c) (hrunning : s.status = .running)
    (hvalue : s.state.value = submitting) (hlive : live w = [c.token]) {o : Outcome Value}
    (hreport : report = some (c.token, reportedEvent o)) (journal : List Entry)
    (hrest : ∀ (next : State FormMemory) (v : World FormMemory), next.value = endedIn o →
      Kept named sink creating v { s with queue := [], processing := true, state := next.settled } (c.ended o) →
      live v = [] → v.memory.own.input = endedInput w.memory.own.input o →
      Leads (Current report) P ⟨v, .effects 0 next.context (reportedEvent o) [] :: .announce 0 (reportedEvent o) ::
        .drain 0 :: stack, .returning .null⟩) :
    Leads (Current report) P
      (Run.resume { w with
          services := [{ s with queue := [reportedEvent o], processing := true }]
          journal := journal } stack a (.drain 0)) := by
  obtain ⟨next, hnext, hto, hcontext, hactions⟩ := transition_reported startSubmission clearInput sink hvalue h.context o
  rw [← h.machine] at hnext
  have htoken : (c.ended o).token = c.token := by
    cases o with
    | ok _ => rfl
    | error _ => rfl
  have haccepts : Accepts report s.state next (reportedEvent o) := by
    refine fun _ _ ↦ ⟨c.token, hreport, ?_, ?_⟩
    · rw [h.context, field_token]
    · rw [hcontext, field_token, htoken]
  refine leads_taken (s := { s with queue := [reportedEvent o], processing := true }) rfl h.machine hrunning rfl hnext
    haccepts fun journal' ↦ ?_
  have hnone : Waiting w (([] : List Wish).filterMap Wish.token?) := ⟨List.nodup_nil, by simp⟩
  have hkept := h.taken hcontext hnone true journal'
  rw [← htoken] at hlive
  cases o with
  | ok message =>
    rw [hactions]
    refine leads_leaving hkept hlive hcontext fun v hv hnone _ ↦ leads_clearing fun v' hv' hinput ↦ ?_
    exact hrest next v' hto (hv.beside hv') (hv'.live.trans hnone) hinput
  | error e =>
    obtain ⟨log, hlog, hactions⟩ := hactions
    rw [hactions]
    refine leads_leaving hkept hlive hcontext fun v hv hnone hinput ↦ leads_logging hlog hcontext fun v' hv' hinput' ↦ ?_
    exact hrest next v' hto (hv.beside hv') (hv'.live.trans hnone) (hinput'.trans hinput)

end

end Newsletter

end Statechart
