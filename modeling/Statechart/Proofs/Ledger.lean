import Statechart.Proofs.Episode
import Statechart.Proofs.Transition

/-!
# The ledger of a service

The events that a service has accepted, taken and committed are read off its happenings. `Ledger` is what always ties
them to the service: its state is the fold of the transition function over the committed events, and it is stopped if
and only if it was stopped once. Only events that wait or are accepted are ever taken, in their order
(`History.ordered`). Interrupts apart, a service with nothing on the stack is not processing and has no event waiting
(`History.at_rest`). Where no guard, assignment, effect or listener fails, no accepted event is lost or overtaken
(`History.in_order`).
-/

set_option autoImplicit false
set_option relaxedAutoImplicit false

namespace Statechart

variable {σ : Type}

/-- The events sent to the running service, in order. -/
def acceptedEvents (hs : List (Happening σ)) : List Event :=
  hs.filterMap fun h ↦
    match h with
    | .accepted event => some event
    | _ => none

/-- The events that have left the queue, in order. -/
def takenEvents (hs : List (Happening σ)) : List Event :=
  hs.filterMap fun h ↦
    match h with
    | .taken _ event => some event
    | _ => none

/-- The events whose transition was stored, in order. -/
def committedEvents (hs : List (Happening σ)) : List Event :=
  hs.filterMap fun h ↦
    match h with
    | .committed _ event _ => some event
    | _ => none

section

variable (hs hs' : List (Happening σ))

@[simp] theorem acceptedEvents_append : acceptedEvents (hs ++ hs') = acceptedEvents hs ++ acceptedEvents hs' :=
  List.filterMap_append

@[simp] theorem takenEvents_append : takenEvents (hs ++ hs') = takenEvents hs ++ takenEvents hs' :=
  List.filterMap_append

@[simp] theorem committedEvents_append : committedEvents (hs ++ hs') = committedEvents hs ++ committedEvents hs' :=
  List.filterMap_append

end

/-- What always ties a service to its happenings. -/
structure Ledger (hs : List (Happening σ)) (s : Service σ) : Prop where
  folded : ∃ initial final, s.machine.initialState = .ok initial ∧
    (committedEvents hs).foldlM s.machine.transition initial = .ok final ∧ s.state.settled = final.settled
  stopped : s.status = .stopped ↔ .stopped ∈ hs

/-- The ledger of a service that may not exist yet. -/
def View.Ledger (hs : List (Happening σ)) (v : View σ) : Prop := ∀ s, v.service = some s → Statechart.Ledger hs s

namespace Ledger

variable {hs : List (Happening σ)} {s s' : Service σ}

/-- A service that was started and never stopped is running. -/
theorem running (h : Ledger hs s) (hstarted : s.status ≠ .notStarted) (hstopped : .stopped ∉ hs) :
    s.status = .running := by
  rw [← h.stopped] at hstopped
  cases hstatus : s.status with
  | notStarted => exact absurd hstatus hstarted
  | running => rfl
  | stopped => exact absurd hstatus hstopped

/-- What neither commits nor stops leaves the ledger as it is. -/
theorem keep {o : Option (Happening σ)} (h : Ledger hs s) (hmachine : s'.machine = s.machine)
    (hstate : s'.state.settled = s.state.settled) (hstatus : s'.status = .stopped ↔ s.status = .stopped)
    (hcommitted : committedEvents o.toList = []) (hstopped : .stopped ∉ o.toList) : Ledger (hs ++ o.toList) s' where
  folded := by
    obtain ⟨initial, final, hinitial, hfold, hfinal⟩ := h.folded
    refine ⟨initial, final, hmachine ▸ hinitial, ?_, hstate.trans hfinal⟩
    rw [committedEvents_append, hcommitted, List.append_nil, hmachine]
    exact hfold
  stopped := by
    rw [hstatus, h.stopped, List.mem_append, or_iff_left hstopped]

theorem pass {o : Option (Happening σ)} (h : Ledger hs s) (hcommitted : committedEvents o.toList = [])
    (hstopped : .stopped ∉ o.toList) : Ledger (hs ++ o.toList) s :=
  h.keep rfl rfl .rfl hcommitted hstopped

/-- A service that has just been made. -/
theorem create {m : Machine σ} {initial : State σ} (hm : s.machine = m) (hinitial : m.initialState = .ok initial)
    (hstate : s.state.settled = initial.settled) (hstatus : s.status ≠ .stopped) (hcommitted : committedEvents hs = [])
    (hstopped : .stopped ∉ hs) : Ledger hs s where
  folded := ⟨initial, initial, hm ▸ hinitial, by rw [hcommitted]; rfl, hstate⟩
  stopped := iff_of_false hstatus hstopped

theorem stop (h : Ledger hs s) {listeners : Registry} :
    Ledger (hs ++ [.stopped]) { s with status := .stopped, listeners := listeners, queue := [] } where
  folded := by
    obtain ⟨initial, final, hinitial, hfold, hfinal⟩ := h.folded
    exact ⟨initial, final, hinitial, by simpa [committedEvents] using hfold, hfinal⟩
  stopped := by simp

/-- A commit goes one step on with the fold. -/
theorem commit {event : Event} {next : State σ} (h : Ledger hs s)
    (hnext : s.machine.transition s.state event = .ok next) :
    Ledger (hs ++ [.committed s.state event next]) { s with state := next.settled } where
  folded := by
    obtain ⟨initial, final, hinitial, hfold, hfinal⟩ := h.folded
    refine ⟨initial, next, hinitial, ?_, rfl⟩
    have hsame : s.machine.transition final event = s.machine.transition s.state event := by
      rw [← Machine.transition_settled, ← hfinal, Machine.transition_settled]
    rw [committedEvents_append, List.foldlM_append, hfold]
    change (s.machine.transition final event >>= fun next ↦ pure next) = .ok next
    rw [hsame, hnext]
    rfl
  stopped := by simpa using h.stopped

/-- Every turn of a service keeps its ledger. -/
theorem turn {id : Nat} {v v' : View σ} {o : Option (Happening σ)} (hcourse : v.Course id hs) (h : v.Ledger hs)
    (hturn : Turn id v o v') : v'.Ledger (hs ++ o.toList) := by
  cases hturn with
  | created hinitial | hosted hinitial =>
    rintro s ⟨⟩
    rw [hcourse.1]
    exact create rfl hinitial rfl (by simp) rfl (by simp)
  | started hstatus =>
    rintro s' ⟨⟩
    exact (h _ rfl).keep rfl rfl (by simp [hstatus]) rfl (by simp)
  | stopped =>
    rintro s' ⟨⟩
    exact (h _ rfl).stop
  | queued | sent | subscribed | unsubscribed | taken | drained =>
    rintro s' ⟨⟩
    exact (h _ rfl).keep rfl rfl .rfl rfl (by simp)
  | committed hnext =>
    rintro s' ⟨⟩
    have hsource := Course.source_eq hcourse
    subst hsource
    exact (h _ rfl).commit hnext
  | openingAbandoned | drainAbandoned =>
    intro s' hs'
    obtain ⟨s, hs, rfl⟩ := Option.map_eq_some_iff.mp hs'
    exact (h s hs).keep rfl rfl .rfl rfl (by simp)
  | orphaned => exact fun s hs ↦ by cases hs
  | quiet | performed | allPerformed | opened | refused | announced | notified | passedOver | completed | effectFailed
  | listenerFailed | announceAbandoned | openingInterrupted => exact fun s hs ↦ pass (h s hs) rfl (by simp)

end Ledger

/-! ### Events that wait -/

/-- A turn takes only the first event that waits, and adds only what it accepts behind the others. -/
theorem Turn.ordered {id : Nat} {v v' : View σ} {o : Option (Happening σ)} (hturn : Turn id v o v') {s : Service σ}
    (hs : v.service = some s) :
    ∃ s', v'.service = some s' ∧
      (takenEvents o.toList ++ s'.queue).Sublist (s.queue ++ acceptedEvents o.toList) := by
  have hkeep {h : Option (Happening σ)} (haccepted : acceptedEvents h.toList = [])
      (htaken : takenEvents h.toList = []) {queue : List Event} (hqueue : queue.Sublist s.queue) :
      (takenEvents h.toList ++ queue).Sublist (s.queue ++ acceptedEvents h.toList) := by
    rw [haccepted, htaken, List.append_nil]
    exact hqueue
  cases hturn with
  | created | hosted | orphaned => cases hs
  | queued | sent =>
    cases hs
    exact ⟨_, rfl, List.Sublist.refl _⟩
  | taken hr hq =>
    cases hs
    refine ⟨_, rfl, ?_⟩
    rw [hq]
    simp [takenEvents, acceptedEvents]
  | drained hq =>
    cases hs
    exact ⟨_, rfl, hkeep (h := none) rfl rfl (List.nil_sublist _)⟩
  | stopped =>
    cases hs
    exact ⟨_, rfl, hkeep (h := some .stopped) rfl rfl (List.nil_sublist _)⟩
  | openingAbandoned hf =>
    cases hs
    exact ⟨_, rfl, hkeep (h := some (.abandoned _)) rfl rfl (List.nil_sublist _)⟩
  | @drainAbandoned o k f =>
    cases hs
    refine ⟨_, rfl, hkeep (h := some (.abandoned f)) rfl rfl ?_⟩
    dsimp only
    split
    · exact List.nil_sublist _
    · exact List.Sublist.refl _
  | started | subscribed | unsubscribed | committed | announced | notified =>
    cases hs
    exact ⟨_, rfl, hkeep rfl rfl (List.Sublist.refl _)⟩
  | _ => exact ⟨s, hs, hkeep rfl rfl (List.Sublist.refl _)⟩

/-- Over a history, a service takes only events that waited at its beginning or were accepted since, in order. -/
theorem History.ordered {first r : Run σ} {past : List (Run σ)} (h : History first past r) {id : Nat}
    {s : Service σ} (hs : first.world.services[id]? = some s) :
    ∃ s', r.world.services[id]? = some s' ∧ (takenEvents (happenings id past) ++ s'.queue).Sublist
      (s.queue ++ acceptedEvents (happenings id past)) := by
  refine h.turns id (P := fun hs v ↦ ∃ s', v.service = some s' ∧
    (takenEvents hs ++ s'.queue).Sublist (s.queue ++ acceptedEvents hs))
    ⟨s, hs, by simp [takenEvents, acceptedEvents]⟩ ?_
  rintro hs v o v' ⟨before, hbefore, hsub⟩ hturn
  obtain ⟨after, hafter, hnext⟩ := hturn.ordered hbefore
  refine ⟨after, hafter, ?_⟩
  rw [takenEvents_append, acceptedEvents_append, List.append_assoc]
  have hlast : (takenEvents hs ++ (takenEvents o.toList ++ after.queue)).Sublist
      (takenEvents hs ++ (before.queue ++ acceptedEvents o.toList)) := (List.Sublist.refl _).append hnext
  have hfirst : (takenEvents hs ++ before.queue ++ acceptedEvents o.toList).Sublist
      (s.queue ++ acceptedEvents hs ++ acceptedEvents o.toList) := hsub.append (List.Sublist.refl _)
  simp only [List.append_assoc] at hfirst
  exact hlast.trans hfirst

/-! ### Where nothing is interrupted, and where nothing fails -/

/-- An interrupt has left a guard, an assignment, an effect or a listener. -/
def Happening.isInterrupt : Happening σ → Bool
  | .refused f | .failed f | .abandoned f => !f.isOrdinary
  | _ => false

theorem Happening.isInterrupt_of_isFault {h : Happening σ} (hh : h.isFault = false) : h.isInterrupt = false := by
  cases h <;> first | rfl | cases hh

/-- With nothing under way a service is at rest. -/
def View.AtRest (v : View σ) : Prop :=
  ∀ s, v.service = some s → v.frames = [] → s.processing = false ∧ s.queue = []

/-- Frames above the draining of a queue and above a start leave something under way when they end. -/
theorem Course.handling_ne_nil {id : Nat} {hs : List (Happening σ)} {s : Service σ} {frame : Frame σ}
    {k : List (Frame σ)} {e : Exposure} (h : Course id hs s (frame :: k) e) (hdrain : frame ≠ .drain id)
    (hopening : frame ≠ .opening id) : handling id k ≠ [] := by
  cases h.standsOn with
  | drain => exact absurd rfl hdrain
  | opening => exact absurd rfl hopening
  | starting | effects | moving | announce | round => simp

/-- Every turn that is no interrupt leaves a service at rest if it leaves nothing under way. -/
theorem View.AtRest.turn {id : Nat} {hs : List (Happening σ)} {v v' : View σ} {o : Option (Happening σ)}
    (hcourse : v.Course id hs) (h : v.AtRest) (ho : ∀ h ∈ o, h.isInterrupt = false) (hturn : Turn id v o v') :
    v'.AtRest := by
  cases hturn with
  | quiet => exact h
  | created =>
    rintro s ⟨⟩ -
    exact ⟨rfl, rfl⟩
  | stopped =>
    rintro s' ⟨⟩ hk
    exact ⟨(h _ rfl hk).1, rfl⟩
  | queued hr hp =>
    rintro s' ⟨⟩ hk
    rw [(h _ rfl hk).1] at hp
    cases hp
  | @subscribed k s | @unsubscribed k s =>
    rintro s' ⟨⟩ hk
    exact h s rfl hk
  | drained =>
    rintro s' ⟨⟩ -
    exact ⟨rfl, rfl⟩
  -- below what is left here stands another frame of the service
  | allPerformed | refused | completed | effectFailed | listenerFailed | announceAbandoned =>
    rintro s rfl hk
    exact absurd hk (hcourse.handling_ne_nil (by simp) (by simp))
  | openingAbandoned =>
    intro s' hs' _
    obtain ⟨s, -, rfl⟩ := Option.map_eq_some_iff.mp hs'
    exact ⟨rfl, rfl⟩
  | openingInterrupted hf =>
    have hinterrupt := ho _ rfl
    simp [Happening.isInterrupt, hf] at hinterrupt
  | @drainAbandoned o k f =>
    have hordinary : f.isOrdinary = true := by simpa [Happening.isInterrupt] using ho _ rfl
    intro s' hs' _
    obtain ⟨s, -, rfl⟩ := Option.map_eq_some_iff.mp hs'
    exact ⟨rfl, by simp [hordinary]⟩
  | orphaned => exact fun s hs ↦ by cases hs
  | hosted | started | sent | performed | opened | taken | committed | announced | notified | passedOver =>
    exact fun s hs hk ↦ by cases hk

/-- How the events of a service stand while nothing fails: those that wait follow those that were taken, until the
service is stopped. -/
structure InOrder (hs : List (Happening σ)) (s : Service σ) : Prop where
  taken : takenEvents hs <+: acceptedEvents hs
  waiting : .stopped ∉ hs → takenEvents hs ++ s.queue = acceptedEvents hs

namespace InOrder

variable {hs : List (Happening σ)} {s s' : Service σ}

/-- What neither accepts nor takes leaves the events as they stand. -/
theorem pass {o : Option (Happening σ)} (h : InOrder hs s) (hqueue : .stopped ∉ hs → s'.queue = s.queue)
    (haccepted : acceptedEvents o.toList = []) (htaken : takenEvents o.toList = []) :
    InOrder (hs ++ o.toList) s' where
  taken := by simpa [haccepted, htaken] using h.taken
  waiting := by
    intro hstopped
    rw [List.mem_append, not_or] at hstopped
    simpa [haccepted, htaken, hqueue hstopped.1] using h.waiting hstopped.1

theorem accept {event : Event} {processing : Bool} (h : InOrder hs s) :
    InOrder (hs ++ [.accepted event]) { s with queue := s.queue ++ [event], processing := processing } where
  taken := by
    simpa [acceptedEvents, takenEvents] using h.taken.trans (List.prefix_append _ _)
  waiting := by
    intro hstopped
    rw [List.mem_append, not_or] at hstopped
    have hwaiting := h.waiting hstopped.1
    simp only [acceptedEvents_append, takenEvents_append, ← hwaiting]
    simp [acceptedEvents, takenEvents]

theorem take {event : Event} {queue : List Event} (h : InOrder hs s) (hstopped : .stopped ∉ hs)
    (hqueue : s.queue = event :: queue) : InOrder (hs ++ [.taken s.state event]) { s with queue := queue } where
  taken := by
    have hwaiting := h.waiting hstopped
    rw [hqueue] at hwaiting
    refine ⟨queue, ?_⟩
    simpa [acceptedEvents, takenEvents] using hwaiting
  waiting := by
    intro _
    have hwaiting := h.waiting hstopped
    rw [hqueue] at hwaiting
    simpa [acceptedEvents, takenEvents] using hwaiting

/-- Every turn that is no fault keeps the events of a service in order. -/
theorem turn {id : Nat} {hs : List (Happening σ)} {v v' : View σ} {o : Option (Happening σ)} (hcourse : v.Course id hs)
    (hledger : v.Ledger hs) (h : ∀ s, v.service = some s → InOrder hs s) (ho : ∀ h ∈ o, h.isFault = false)
    (hturn : Turn id v o v') : ∀ s, v'.service = some s → InOrder (hs ++ o.toList) s := by
  cases hturn with
  | created | hosted =>
    rintro s ⟨⟩
    rw [hcourse.1]
    exact ⟨List.prefix_refl _, fun _ ↦ rfl⟩
  | started hstatus =>
    rintro s' ⟨⟩
    exact pass (h _ rfl) (fun _ ↦ rfl) rfl rfl
  | @stopped k s e =>
    rintro s' ⟨⟩
    exact ⟨by simpa [acceptedEvents, takenEvents] using (h s rfl).taken, fun hstopped ↦ absurd hstopped (by simp)⟩
  | queued | sent =>
    rintro s' ⟨⟩
    exact (h _ rfl).accept
  | @subscribed k s | @unsubscribed k s =>
    rintro s' ⟨⟩
    exact pass (h s rfl) (fun _ ↦ rfl) rfl rfl
  | @taken k s event queue hr hq =>
    rintro s' ⟨⟩
    refine (h s rfl).take (fun hstopped ↦ ?_) hq
    rw [← (hledger s rfl).stopped, hr] at hstopped
    cases hstopped
  | @drained k s hq =>
    rintro s' ⟨⟩
    -- a service that handles events was started
    have hstarted := hcourse.status_ne_notStarted (List.cons_ne_nil _ _)
    exact pass (h s rfl) (fun hstopped ↦ (hq ((hledger s rfl).running hstarted hstopped)).symm) rfl rfl
  | committed hnext =>
    rintro s' ⟨⟩
    exact pass (h _ rfl) (fun _ ↦ rfl) rfl rfl
  | orphaned => exact fun s hs ↦ by cases hs
  | quiet | performed | allPerformed | opened | announced | notified | passedOver | completed =>
    exact fun s hs ↦ pass (h s hs) (fun _ ↦ rfl) rfl rfl
  | refused | effectFailed | listenerFailed | announceAbandoned | openingAbandoned | openingInterrupted
  | drainAbandoned => exact absurd (ho _ rfl) (by simp [Happening.isFault])

end InOrder

/-! ### Over a history -/

section

variable (context : Value) (event : Event) (done : List (Effect σ)) (snapshot : Snapshot) (told : List Listener)

theorem takenEvents_performances : takenEvents (performances context event done) = [] := by
  simp [takenEvents, performances]

theorem committedEvents_performances : committedEvents (performances context event done) = [] := by
  simp [committedEvents, performances]

theorem takenEvents_notices : takenEvents (notices (σ := σ) snapshot told) = [] := by
  simp [takenEvents, notices]

theorem committedEvents_notices : committedEvents (notices (σ := σ) snapshot told) = [] := by
  simp [committedEvents, notices]

end

/-- Without faults the handling of an event commits it. -/
theorem Handling.takenEvents_eq {m : Machine σ} {hs : List (Happening σ)} (h : Handling m hs)
    (hcalm : ∀ h ∈ hs, h.isFault = false) : takenEvents hs = committedEvents hs := by
  cases h with
  | @refused source event f => exact absurd (hcalm (.refused f) (by simp)) (by simp [Happening.isFault])
  | @effectFailed source event next done e rest f h ha =>
    exact absurd (hcalm (.failed f) (by simp)) (by simp [Happening.isFault])
  | @listenerFailed source event next told f h =>
    exact absurd (hcalm (.failed f) (by simp)) (by simp [Happening.isFault])
  | @completed source event next told h =>
    have hsplit : announced source event next told ++ [.completed] =
        [.taken source event, .committed source event next] ++ performances next.context event next.actions ++
          [.announced event] ++ notices next.settled.snapshot told ++ [.completed] := by
      simp [announced, handled]
    rw [hsplit]
    simp only [takenEvents_append, committedEvents_append, takenEvents_performances, committedEvents_performances,
      takenEvents_notices, committedEvents_notices]
    rfl

theorem Opening.takenEvents_eq {m : Machine σ} {hs : List (Happening σ)} (h : Opening m hs) :
    takenEvents hs = committedEvents hs := by
  have hopening (initial : State σ) (done : List (Effect σ)) :
      takenEvents (opening initial done) = committedEvents (opening initial done) :=
    (takenEvents_performances _ _ done).trans (committedEvents_performances _ _ done).symm
  cases h with
  | completed h => rw [takenEvents_append, committedEvents_append, hopening]; rfl
  | failed h ha => rw [takenEvents_append, committedEvents_append, hopening]; rfl

theorem takenEvents_episodic (hs : List (Happening σ)) : takenEvents (episodic hs) = takenEvents hs := by
  unfold takenEvents episodic
  rw [List.filterMap_filter]
  congr 1
  funext h
  cases h <;> rfl

theorem committedEvents_episodic (hs : List (Happening σ)) : committedEvents (episodic hs) = committedEvents hs := by
  unfold committedEvents episodic
  rw [List.filterMap_filter]
  congr 1
  funext h
  cases h <;> rfl

/-- With nothing under way and without faults, every event taken is committed. -/
theorem Course.takenEvents_eq {id : Nat} {hs : List (Happening σ)} {s : Service σ} {e : Exposure}
    (h : Course id hs s [] e) (hcalm : ∀ h ∈ hs, h.isFault = false) : takenEvents hs = committedEvents hs := by
  have hepisodic : ∀ h ∈ episodic hs, h.isFault = false := fun h hh ↦ hcalm h (List.mem_filter.mp hh).1
  rw [← takenEvents_episodic, ← committedEvents_episodic]
  cases h with
  | untouched _ _ _ _ _ hhs => rw [hhs]; rfl
  | starting _ _ h =>
    generalize episodic hs = current at h
    cases h
  | @serving first current handlings _ _ hopening hhandlings h hhs =>
    cases h with
    | idle =>
      rw [hhs] at hepisodic ⊢
      have hall : takenEvents handlings.flatten = committedEvents handlings.flatten := by
        simp only [takenEvents, committedEvents, List.filterMap_flatten]
        refine congrArg List.flatten (List.map_congr_left fun handling hmem ↦ ?_)
        refine (hhandlings handling hmem).takenEvents_eq fun h hh ↦ hepisodic h ?_
        simp only [List.append_nil, List.mem_append, List.mem_flatten]
        exact .inr ⟨handling, hmem, hh⟩
      rw [List.append_nil, takenEvents_append, committedEvents_append, hopening.takenEvents_eq, hall]

namespace History

variable {w : World σ} {past : List (Run σ)} {r : Run σ}

theorem ledger (h : History (.idle w) past r) (hnew : w.services = []) {id : Nat} {s : Service σ}
    (hs : r.world.services[id]? = some s) : Ledger (happenings id past) s := by
  have hboth := h.turns id (P := fun hs v ↦ v.Course id hs ∧ v.Ledger hs)
    ⟨by simp [View.Course, Run.idle, Run.view, hnew], by simp [View.Ledger, Run.idle, Run.view, hnew]⟩
    fun h hturn ↦ ⟨Course.turn h.1 hturn, Ledger.turn h.1 h.2 hturn⟩
  exact hboth.2 s hs

/-- Interrupts apart, a service with nothing on the stack is at rest. -/
theorem at_rest (h : History (.idle w) past r) (hnew : w.services = []) {id : Nat} {s : Service σ}
    (hs : r.world.services[id]? = some s) (hidle : r.Idle id)
    (hordinary : ∀ h ∈ happenings id past, h.isInterrupt = false) : s.processing = false ∧ s.queue = [] := by
  have hboth := h.turns id (P := fun hs v ↦ v.Course id hs ∧ ((∀ h ∈ hs, h.isInterrupt = false) → v.AtRest))
    ⟨by simp [View.Course, Run.idle, Run.view, hnew], fun _ ↦ by simp [View.AtRest, Run.idle, Run.view, hnew]⟩
    fun h hturn ↦ ⟨Course.turn h.1 hturn, fun hordinary ↦
      (h.2 fun h hh ↦ hordinary h (List.mem_append_left _ hh)).turn h.1
        (fun h hh ↦ hordinary h (List.mem_append_right _ (Option.mem_toList.mpr hh))) hturn⟩
  exact hboth.2 hordinary s hs hidle

/-- Where nothing of a service fails, its events stay in order. -/
theorem in_order (h : History (.idle w) past r) (hnew : w.services = []) {id : Nat} {s : Service σ}
    (hs : r.world.services[id]? = some s) (hcalm : ∀ h ∈ happenings id past, h.isFault = false) :
    InOrder (happenings id past) s := by
  have hall := h.turns id (P := fun hs v ↦ v.Course id hs ∧ v.Ledger hs ∧
      ((∀ h ∈ hs, h.isFault = false) → ∀ s, v.service = some s → InOrder hs s))
    ⟨by simp [View.Course, Run.idle, Run.view, hnew], by simp [View.Ledger, Run.idle, Run.view, hnew],
      fun _ ↦ by simp [Run.idle, Run.view, hnew]⟩
    fun h hturn ↦ ⟨Course.turn h.1 hturn, Ledger.turn h.1 h.2.1 hturn, fun hcalm ↦
      InOrder.turn h.1 h.2.1 (h.2.2 fun h hh ↦ hcalm h (List.mem_append_left _ hh))
        (fun h hh ↦ hcalm h (List.mem_append_right _ (Option.mem_toList.mpr hh))) hturn⟩
  exact hall.2.2 hcalm s hs

end History

end Statechart
