import Statechart.Proofs.Call
import Statechart.Proofs.Publication

/-!
# What an interrupt leaves behind

An ordinary failure puts its service in order on its way out; an interrupt does so only in part. It leaves the
draining of a queue without emptying the queue, and a start without resetting the flag. So the service is at rest
whenever nothing of it is under way, unless its latest episode was ended by an interrupt (`Interrupted`); a flag that
is still set tells that this was the start (`History.left`). A service at rest takes the event of the next send at
once, finishes its handling before the send comes back, and never takes an event that was sent before
(`at_rest_unless_interrupted`).
-/

set_option autoImplicit false
set_option relaxedAutoImplicit false

namespace Statechart

variable {σ : Type}

/-- An interrupt ended the latest episode. -/
def Interrupted (hs : List (Happening σ)) : Prop := ∃ h ∈ (episodic hs).getLast?, h.isInterrupt = true

theorem episodic_append_of_aside (hs : List (Happening σ)) {o : Option (Happening σ)}
    (ho : ∀ h ∈ o, h.isEpisodic = false) : episodic (hs ++ o.toList) = episodic hs := by
  cases o with
  | none => simp
  | some h => simp [episodic, ho h rfl]

theorem episodic_concat (hs : List (Happening σ)) {h : Happening σ} (hh : h.isEpisodic = true) :
    episodic (hs ++ [h]) = episodic hs ++ [h] := by
  simp [episodic, hh]

/-! ### A failure on its way out -/

/-- A failure that is on its way through the frames below the one it struck has ended the latest episode. What passes
through a start has ended the start. -/
def Blamed (hs : List (Happening σ)) (f : Failure) : List (Frame σ) → Prop
  | .opening _ :: _ => ∃ initial done, episodic hs = opening initial done ++ [.failed f]
  | .drain _ :: _ | .announce _ _ :: _ => ∃ before h, episodic hs = before ++ [h] ∧ (h = .failed f ∨ h = .refused f)
  | _ => True

def View.Blamed (hs : List (Happening σ)) (v : View σ) : Prop :=
  ∀ f, v.next = .failing f → Statechart.Blamed hs f v.frames

section

variable {id : Nat} {hs : List (Happening σ)} {f : Failure}

/-- A covered frame of a service is none that a failure only passes through. -/
theorem View.blamed_of_covered {o : Option (Service σ)} {k : List (Frame σ)} {hs' : List (Happening σ)}
    (h : View.Course id hs ⟨o, k, .covered⟩) : Statechart.Blamed hs' f k := by
  cases k with
  | nil => trivial
  | cons frame k =>
    obtain ⟨s, rfl⟩ := View.exists_service h
    rcases Course.underway h with ⟨-, -, hstart⟩ | ⟨current, -, hserving⟩
    · dsimp only at hstart
      generalize episodic hs = current at hstart
      cases hstart with
      | effects => trivial
    · cases hserving with
      | drain hk he => exact absurd rfl he
      | moving | effects | round => trivial

theorem exposure_none_ne_failing (id : Nat) (k : List (Frame σ)) (f : Failure) : exposure id k none ≠ .failing f := by
  cases k with
  | nil => simp
  | cons frame k => cases h : frame.serves id <;> simp [h]

/-- The failure that ends an episode is blamed for it where it passes to the frame below. -/
theorem blamed_of_struck {h : Happening σ} (hh : h = .failed f ∨ h = .refused f) {frame : Frame σ}
    {k : List (Frame σ)} (hframe : frame = .drain id ∨ ∃ event, frame = .announce id event) :
    Statechart.Blamed (hs ++ [h]) f (handling id (frame :: k)) := by
  have hepisodic : h.isEpisodic = true := by
    rcases hh with rfl | rfl <;> rfl
  have hblamed := episodic_concat hs hepisodic
  rcases hframe with rfl | ⟨event, rfl⟩
  · rw [handling_cons_self (by simp)]
    exact ⟨_, _, hblamed, hh⟩
  · rw [handling_cons_self (by simp)]
    exact ⟨_, _, hblamed, hh⟩

/-- Every turn leaves a failure that passes to frames below blamed for the end of the latest episode. -/
theorem Turn.blamed {v v' : View σ} {o : Option (Happening σ)} (hturn : Turn id v o v') (hcourse : v.Course id hs)
    (h : v.Blamed hs) : v'.Blamed (hs ++ o.toList) := by
  intro f hf
  cases hturn with
  | quiet | created | stopped | queued | subscribed | unsubscribed => exact View.blamed_of_covered hcourse
  | hosted | started | sent | performed | opened | taken | committed | announced => cases hf
  | allPerformed | drained | completed | orphaned => exact absurd hf (exposure_none_ne_failing _ _ _)
  | notified | passedOver => trivial
  | @refused o k source event f' e he =>
    obtain ⟨below, rfl⟩ := View.drain_below hcourse (by simp) (by simp) (by simp)
    obtain rfl : f' = f := by simpa using hf
    exact blamed_of_struck (.inr rfl) (.inl rfl)
  | @effectFailed o k context event rest f' =>
    rcases View.below_effects hcourse with ⟨below, initial, done, rfl, hcurrent⟩ | ⟨below, rfl⟩
    · obtain rfl : f' = f := by simpa using hf
      have hfailed : episodic (hs ++ [.failed f']) = opening initial done ++ [.failed f'] := by
        rw [episodic_concat hs rfl, hcurrent]
      rw [handling_cons_self (by simp)]
      exact ⟨initial, done, hfailed⟩
    · obtain rfl : f' = f := by simpa using hf
      exact blamed_of_struck (.inl rfl) (.inr ⟨_, rfl⟩)
  | @listenerFailed o k what rest f' =>
    obtain ⟨below, rfl⟩ := View.drain_below hcourse (by simp) (by simp) (by simp)
    obtain rfl : f' = f := by simpa using hf
    exact blamed_of_struck (.inl rfl) (.inl rfl)
  | @announceAbandoned o k event f' =>
    obtain ⟨below, rfl⟩ := View.drain_below hcourse (by simp) (by simp) (by simp)
    obtain rfl : f' = f := by simpa using hf
    obtain ⟨before, struck, hbefore, hstruck⟩ := h f' rfl
    rw [← episodic_append_of_aside hs (o := some (.abandoned f')) (by simp [Happening.isEpisodic])] at hbefore
    rw [handling_cons_self (by simp)]
    exact ⟨before, struck, hbefore, hstruck⟩
  | openingAbandoned | openingInterrupted =>
    rw [View.nothing_below hcourse (.inr rfl)]
    trivial
  | drainAbandoned =>
    rw [View.nothing_below hcourse (.inl rfl)]
    trivial

end

/-! ### A service that is left -/

/-- How a service stands with nothing under way. -/
structure Left (hs : List (Happening σ)) (s : Service σ) : Prop where
  rest : ¬ Interrupted hs → s.processing = false ∧ s.queue = []
  /-- Only a start that was interrupted leaves the flag set, and nothing comes after it. -/
  stuck : s.processing = true →
    ∃ initial done f, f.isOrdinary = false ∧ episodic hs = opening initial done ++ [.failed f]

def View.Left (hs : List (Happening σ)) (v : View σ) : Prop :=
  ∀ s, v.service = some s → v.frames = [] → Statechart.Left hs s

section

variable {id : Nat} {hs : List (Happening σ)}

theorem Left.of_rest {s : Service σ} (hprocessing : s.processing = false) (hqueue : s.queue = []) : Left hs s where
  rest _ := ⟨hprocessing, hqueue⟩
  stuck h := by rw [hprocessing] at h; cases h

/-- What belongs to no episode leaves a service as it stands. -/
theorem Left.aside {s s' : Service σ} {o : Option (Happening σ)} (h : Left hs s)
    (ho : ∀ h ∈ o, h.isEpisodic = false) (hprocessing : s'.processing = s.processing)
    (hqueue : s.processing = false → s.queue = [] → s'.queue = []) : Left (hs ++ o.toList) s' := by
  have hepisodic := episodic_append_of_aside hs ho
  refine ⟨fun hordinary ↦ ?_, fun hstuck ↦ ?_⟩
  · rw [Interrupted, hepisodic] at hordinary
    obtain ⟨hidle, hempty⟩ := h.rest hordinary
    exact ⟨hprocessing.trans hidle, hqueue hidle hempty⟩
  · rw [hepisodic]
    exact h.stuck (hprocessing ▸ hstuck)

/-- An interrupt on its way out has ended the latest episode. -/
theorem Blamed.interrupted {f : Failure} {frame : Frame σ} {k : List (Frame σ)} (h : Blamed hs f (frame :: k))
    (hframe : frame = .drain id ∨ frame = .opening id) (hf : f.isOrdinary = false) :
    Interrupted (hs ++ [.abandoned f]) := by
  have hlast : ∃ before h, episodic hs = before ++ [h] ∧ (h = .failed f ∨ h = .refused f) := by
    rcases hframe with rfl | rfl
    · exact h
    · obtain ⟨initial, done, hfailed⟩ := h
      exact ⟨_, _, hfailed, .inl rfl⟩
  obtain ⟨before, struck, hbefore, hstruck⟩ := hlast
  rw [← episodic_append_of_aside hs (o := some (.abandoned f)) (by simp [Happening.isEpisodic])] at hbefore
  refine ⟨struck, ?_, ?_⟩
  · change (episodic (hs ++ (some (.abandoned f)).toList)).getLast? = some struck
    rw [hbefore, List.getLast?_concat]
  · rcases hstruck with rfl | rfl <;> simp [Happening.isInterrupt, hf]

/-- Every turn leaves a service, if it leaves nothing under way, at rest or interrupted. -/
theorem View.Left.turn {v v' : View σ} {o : Option (Happening σ)} (hcourse : v.Course id hs) (hblamed : v.Blamed hs)
    (h : v.Left hs) (hturn : Turn id v o v') : v'.Left (hs ++ o.toList) := by
  intro s' hs' hk
  cases hturn with
  | quiet => exact (h s' hs' hk).aside (by simp) rfl fun _ hqueue ↦ hqueue
  | created hinitial =>
    cases hs'
    exact .of_rest rfl rfl
  | stopped =>
    cases hs'
    exact (h _ rfl hk).aside (by simp [Happening.isEpisodic]) rfl fun _ _ ↦ rfl
  | queued hr hp =>
    cases hs'
    refine (h _ rfl hk).aside (by simp [Happening.isEpisodic]) rfl fun hidle _ ↦ ?_
    rw [hp] at hidle
    cases hidle
  | subscribed =>
    cases hs'
    exact (h _ rfl hk).aside (by simp [Happening.isEpisodic]) rfl fun _ hqueue ↦ hqueue
  | unsubscribed =>
    cases hs'
    exact (h _ rfl hk).aside (by simp) rfl fun _ hqueue ↦ hqueue
  | drained hq =>
    cases hs'
    exact .of_rest rfl rfl
  | @openingAbandoned o k f hf =>
    obtain ⟨s, -, rfl⟩ := Option.map_eq_some_iff.mp hs'
    exact .of_rest rfl rfl
  | @openingInterrupted o k f hf =>
    refine ⟨fun hordinary ↦ ?_, fun _ ↦ ?_⟩
    · exact absurd ((hblamed f rfl).interrupted (.inr rfl) hf) hordinary
    · obtain ⟨initial, done, hfailed⟩ := hblamed f rfl
      refine ⟨initial, done, f, hf, ?_⟩
      rw [episodic_append_of_aside hs (by simp [Happening.isEpisodic])]
      exact hfailed
  | @drainAbandoned o k f =>
    obtain ⟨s, -, rfl⟩ := Option.map_eq_some_iff.mp hs'
    cases hf : f.isOrdinary with
    | true => exact .of_rest rfl (by simp)
    | false =>
      refine ⟨fun hordinary ↦ ?_, by simp⟩
      exact absurd ((hblamed f rfl).interrupted (.inl rfl) hf) hordinary
  | hosted | started | sent | performed | opened | taken | committed | announced | notified | passedOver => cases hk
  | orphaned => cases hs'
  | allPerformed | refused | completed | effectFailed | listenerFailed | announceAbandoned =>
    -- below these frames stands another one of the service
    subst hs'
    exact absurd hk (Course.handling_ne_nil hcourse (by simp) (by simp))

end

/-- Whenever nothing of a service is under way, it is at rest unless an interrupt ended its latest episode. -/
theorem History.left {w : World σ} {past : List (Run σ)} {r : Run σ} (hpast : History (.idle w) past r)
    (hnew : w.services = []) {id : Nat} {s : Service σ} (hs : r.world.services[id]? = some s) (hidle : r.Idle id) :
    Left (happenings id past) s := by
  have hall := hpast.turns id (P := fun hs v ↦ v.Course id hs ∧ v.Blamed hs ∧ v.Left hs)
    ⟨by simp [View.Course, Run.idle, Run.view, hnew], by simp [View.Blamed, Run.idle, Run.view],
      by simp [View.Left, Run.idle, Run.view, hnew]⟩
    fun h hturn ↦ ⟨Course.turn h.1 hturn, hturn.blamed h.1 h.2.1, View.Left.turn h.1 h.2.1 h.2.2 hturn⟩
  exact hall.2.2 s hs hidle

/-! ### Where an episode ends -/

/-- A happening that ends an episode. -/
def Happening.isFinal : Happening σ → Bool
  | .refused _ | .completed | .failed _ => true
  | _ => false

/-- A list of happenings that ends with the first that ends an episode. -/
def Finished (hs : List (Happening σ)) : Prop :=
  ∃ before h, hs = before ++ [h] ∧ h.isFinal = true ∧ ∀ x ∈ before, x.isFinal = false

theorem isFinal_opening (initial : State σ) (done : List (Effect σ)) :
    ∀ h ∈ opening initial done, h.isFinal = false := by
  simp [opening, performances, Happening.isFinal]

theorem isFinal_handled (source : State σ) (event : Event) (next : State σ) (done : List (Effect σ)) :
    ∀ h ∈ handled source event next done, h.isFinal = false := by
  simp [handled, performances, Happening.isFinal]

theorem isFinal_announced (source : State σ) (event : Event) (next : State σ) (told : List Listener) :
    ∀ h ∈ announced source event next told, h.isFinal = false := by
  have hround : ∀ h ∈ .announced event :: notices (σ := σ) next.settled.snapshot told, h.isFinal = false := by
    simp [notices, Happening.isFinal]
  exact List.forall_mem_append.mpr ⟨isFinal_handled source event next next.actions, hround⟩

theorem Opening.finished {m : Machine σ} {hs : List (Happening σ)} (h : Opening m hs) : Finished hs := by
  cases h with
  | completed h => exact ⟨_, _, rfl, rfl, isFinal_opening _ _⟩
  | failed h ha => exact ⟨_, _, rfl, rfl, isFinal_opening _ _⟩

theorem Handling.finished {m : Machine σ} {hs : List (Happening σ)} (h : Handling m hs) : Finished hs := by
  cases h with
  | @refused source event f => exact ⟨[.taken source event], _, rfl, rfl, by simp [Happening.isFinal]⟩
  | effectFailed h ha => exact ⟨_, _, rfl, rfl, isFinal_handled _ _ _ _⟩
  | listenerFailed h => exact ⟨_, _, rfl, rfl, isFinal_announced _ _ _ _⟩
  | completed h => exact ⟨_, _, rfl, rfl, isFinal_announced _ _ _ _⟩

theorem Finished.ne_nil {hs : List (Happening σ)} (h : Finished hs) : hs ≠ [] := by
  obtain ⟨before, last, rfl, -, -⟩ := h
  simp

/-- Of two finished lists at the beginning of the same happenings, neither goes on beyond the other. -/
theorem Finished.eq_of_append_eq {xs ys rest rest' : List (Happening σ)} (hx : Finished xs) (hy : Finished ys)
    (h : xs ++ rest = ys ++ rest') : xs = ys := by
  obtain ⟨before, x, rfl, hfinal, hbefore⟩ := hx
  obtain ⟨before', y, rfl, hfinal', hbefore'⟩ := hy
  rw [List.append_assoc, List.append_assoc] at h
  rcases List.append_eq_append_iff.mp h with ⟨between, rfl, hrest⟩ | ⟨between, rfl, hrest⟩
  · cases between with
    | nil =>
      obtain rfl : x = y := (List.cons.inj hrest).1
      rw [List.append_nil]
    | cons z between =>
      obtain rfl : x = z := (List.cons.inj hrest).1
      exact absurd hfinal (by simp [hbefore' x (by simp)])
  · cases between with
    | nil =>
      obtain rfl : y = x := (List.cons.inj hrest).1
      rw [List.append_nil]
    | cons z between =>
      obtain rfl : y = z := (List.cons.inj hrest).1
      exact absurd hfinal' (by simp [hbefore y (by simp)])

/-- Happenings fall into episodes in one way only. -/
theorem flatten_append_of_finished {xs ys : List (List (Happening σ))} {rest : List (Happening σ)}
    (hx : ∀ x ∈ xs, Finished x) (hy : ∀ y ∈ ys, Finished y) (h : ys.flatten = xs.flatten ++ rest) :
    ∃ more, ys = xs ++ more ∧ rest = more.flatten := by
  induction xs generalizing ys with
  | nil => exact ⟨ys, rfl, h.symm⟩
  | cons x xs ih =>
    obtain ⟨hfirst, hlater⟩ := List.forall_mem_cons.mp hx
    cases ys with
    | nil =>
      rw [List.flatten_cons, List.append_assoc, List.flatten_nil, List.nil_eq, List.append_eq_nil_iff] at h
      exact absurd h.1 hfirst.ne_nil
    | cons y ys =>
      obtain ⟨hfirst', hlater'⟩ := List.forall_mem_cons.mp hy
      rw [List.flatten_cons, List.flatten_cons, List.append_assoc] at h
      obtain rfl : y = x := hfirst'.eq_of_append_eq hfirst h
      obtain ⟨more, rfl, hrest⟩ := ih hlater hlater' (List.append_cancel_left h)
      exact ⟨more, rfl, hrest⟩

/-- The first happening of handlings in a row is that of the first of them. -/
theorem exists_first_handling {m : Machine σ} {handlings : List (List (Happening σ))} {h : Happening σ}
    {hs : List (Happening σ)} (hhandlings : ∀ handling ∈ handlings, Handling m handling)
    (hflat : h :: hs = handlings.flatten) : ∃ own more, handlings = (h :: own) :: more := by
  cases handlings with
  | nil => cases hflat
  | cons handling more =>
    cases handling with
    | nil => exact absurd rfl (hhandlings [] List.mem_cons_self).finished.ne_nil
    | cons first own =>
      obtain rfl : h = first := (List.cons.inj hflat).1
      exact ⟨own, more, rfl⟩

section

variable {id : Nat} {hs hs' : List (Happening σ)} {s s' : Service σ} {e e' : Exposure}

/-- The episodes of a service that was started and has nothing under way. -/
theorem Course.episodes (h : Course id hs s [] e) (hstarted : s.status = .running ∨ episodic hs ≠ []) :
    ∃ opening handlings, Opening s.machine opening ∧ (∀ h ∈ handlings, Handling s.machine h) ∧
      episodic hs = (opening :: handlings).flatten := by
  cases h with
  | untouched hnew _ _ _ _ hhs => exact absurd hstarted (not_or.mpr ⟨hnew, not_not_intro hhs⟩)
  | starting _ _ h =>
    generalize episodic hs = current at h
    cases h
  | serving _ _ hopening hhandlings h hhs =>
    cases h with
    | idle => exact ⟨_, _, hopening, hhandlings, by simpa using hhs⟩

/-- Between two moments at which nothing of a service is under way, it handles events from beginning to end. -/
theorem Course.handlings_between (h : Course id hs s [] e) (hrunning : s.status = .running)
    (h' : Course id (hs ++ hs') s' [] e') :
    ∃ handlings : List (List (Happening σ)), (∀ h ∈ handlings, Handling s'.machine h) ∧
      episodic hs' = handlings.flatten := by
  obtain ⟨first, handlings, hfirst, hhandlings, hhs⟩ := h.episodes (.inl hrunning)
  have hne : episodic (hs ++ hs') ≠ [] := by
    rw [episodic_append, hhs]
    simp [hfirst.finished.ne_nil]
  obtain ⟨first', handlings', hfirst', hhandlings', hhs'⟩ := h'.episodes (.inr hne)
  rw [episodic_append, hhs] at hhs'
  obtain ⟨more, hmore, hrest⟩ := flatten_append_of_finished
    (List.forall_mem_cons.mpr ⟨hfirst.finished, fun x hx ↦ (hhandlings x hx).finished⟩)
    (List.forall_mem_cons.mpr ⟨hfirst'.finished, fun x hx ↦ (hhandlings' x hx).finished⟩) hhs'.symm
  obtain ⟨-, rfl⟩ := List.cons.inj hmore
  exact ⟨more, fun x hx ↦ hhandlings' x (List.mem_append_right _ hx), hrest⟩

end

/-! ### The next send -/

/-- A service keeps its machine. -/
theorem Turn.machine {id : Nat} {v v' : View σ} {o : Option (Happening σ)} (hturn : Turn id v o v') {s : Service σ}
    (hs : v.service = some s) : ∃ s', v'.service = some s' ∧ s'.machine = s.machine := by
  cases hturn with
  | created | hosted | orphaned => cases hs
  | started | stopped | queued | sent | subscribed | unsubscribed | taken | drained | committed | announced
  | notified | openingAbandoned | drainAbandoned =>
    cases hs
    exact ⟨_, rfl, rfl⟩
  | _ => exact ⟨s, hs, rfl⟩

section

variable {first r : Run σ} {past : List (Run σ)} {id : Nat} {s : Service σ}

theorem History.machine (h : History first past r) (hs : first.world.services[id]? = some s) :
    ∃ s', r.world.services[id]? = some s' ∧ s'.machine = s.machine := by
  refine h.turns id (P := fun _ v ↦ ∃ s', v.service = some s' ∧ s'.machine = s.machine) ⟨s, hs, rfl⟩ ?_
  rintro - v o v' ⟨before, hbefore, hmachine⟩ hturn
  obtain ⟨after, hafter, hsame⟩ := hturn.machine hbefore
  exact ⟨after, hafter, hsame.trans hmachine⟩

/-- A history that leads on begins with its first run. -/
theorem History.eq_cons (h : History first past r) (hne : r ≠ first) : ∃ more, past = first :: more := by
  have hcons : past = [] ∧ r = first ∨ ∃ more, past = first :: more := by
    clear hne
    induction h with
    | begin => exact .inl ⟨rfl, rfl⟩
    | step _ ih | call _ _ _ ih =>
      rcases ih with ⟨rfl, rfl⟩ | ⟨more, rfl⟩
      · exact .inr ⟨[], rfl⟩
      · exact .inr ⟨_, rfl⟩
  exact hcons.resolve_left fun h ↦ hne h.2

/-- A run that makes a request does to a service what the request does. -/
theorem Run.happening_of_request {q : Request σ} {below : List (Frame σ)} (h : r.request? = some (q, below)) :
    r.happening id = r.world.requested id q := by
  have hbegun {s : Script σ} {stack : List (Frame σ)} (h : s.request? stack = some (q, below)) :
      r.world.begun id s = r.world.requested id q := by
    cases s with
    | done | fail => cases h
    | call | attempt => cases h; rfl
  cases Run.asks_of_request h with
  | awaiting hs | attempting hs | caught hs => exact hbegun hs

/-- Where a service is at rest, a send is accepted and the next step takes its event. -/
theorem Run.happening_after_send {name : String} {v : Value} {event : Event} {below : List (Frame σ)}
    (hrequest : r.request? = some (.send name v, below)) (hname : r.world.serviceOf name = .ok id)
    (hevent : Event.ofValue v = .ok event) (hs : r.world.services[id]? = some s) (hrunning : s.status = .running)
    (hprocessing : s.processing = false) (hqueue : s.queue = []) :
    r.happening id = some (.accepted event) ∧ r.step.happening id = some (.taken s.state event) ∧
      r.step.stack = .drain id :: .sent id :: below := by
  refine ⟨?_, ?_⟩
  · rw [Run.happening_of_request hrequest]
    simp [World.requested, hs, hname, hevent, hrunning]
  rw [Run.step_of_request hrequest]
  simp [Run.perform, Run.withService, hname, hs, Run.send, hevent, hrunning, hprocessing, hqueue, Run.happening,
    Run.answer, World.resumed, Service.drains]

end

/-- A service is at rest whenever nothing of it is under way, unless an interrupt ended its latest episode. Assumes: a
history of a world that began without services, with any callbacks, which may fail in any way, and a run in which
neither a start nor a send of the service is under way. If its flag is still set, the start was interrupted and
nothing has come of the service since. If no interrupt ended its latest episode, its flag is not set and no event
waits; a send to the running service takes its own event first and handles it to the end before it comes back, with
nothing left under way; and whatever comes later, the service takes only events that are sent from now on. -/
theorem at_rest_unless_interrupted {w : World σ} (hnew : w.services = []) {past : List (Run σ)} {r : Run σ}
    (hpast : History (.idle w) past r) {id : Nat} {s : Service σ} (hs : r.world.services[id]? = some s)
    (hidle : r.Idle id) :
    (s.processing = true → ∃ initial done f, f.isOrdinary = false ∧
      episodic (happenings id past) = opening initial done ++ [.failed f]) ∧
    (¬ Interrupted (happenings id past) →
      (s.processing = false ∧ s.queue = []) ∧
      (∀ name v event below, r.request? = some (.send name v, below) → r.world.serviceOf name = .ok id →
        Event.ofValue v = .ok event → s.status = .running →
        ∀ during last, r.step.Ends below last → History r.step during last →
          last.Idle id ∧ ∃ own, ∃ more : List (List (Happening σ)), Handling s.machine (.taken s.state event :: own) ∧
            (∀ h ∈ more, Handling s.machine h) ∧
            episodic (happenings id during) = .taken s.state event :: own ++ more.flatten) ∧
      ∀ later last, History r later last →
        (takenEvents (happenings id later)).Sublist (acceptedEvents (happenings id later))) := by
  have hleft := hpast.left hnew hs hidle
  refine ⟨hleft.stuck, fun hordinary ↦ ?_⟩
  obtain ⟨hprocessing, hqueue⟩ := hleft.rest hordinary
  refine ⟨⟨hprocessing, hqueue⟩, ?_, fun later last hlater ↦ ?_⟩
  · intro name v event below hrequest hname hevent hrunning during last hends hduring
    obtain ⟨haccepted, htaken, hstack⟩ := Run.happening_after_send hrequest hname hevent hs hrunning hprocessing hqueue
    have hidle' : last.Idle id := by
      rw [Run.Idle, hends.stack_eq, Run.handling_below hrequest]
      exact hidle
    -- what stands on the stack after the send is gone at its end
    have hne : last ≠ r.step := by
      rintro rfl
      rw [Run.Idle, hstack] at hidle'
      simp at hidle'
    obtain ⟨more, rfl⟩ := hduring.eq_cons hne
    obtain ⟨s', hs', hmachine⟩ := (History.trans (.step .begin) hduring).machine hs
    have hcourse := hpast.course hnew hs
    have hcourse' := (hpast.trans (.trans (.step .begin) hduring)).course hnew hs'
    rw [hidle] at hcourse
    rw [hidle', happenings_append] at hcourse'
    obtain ⟨handlings, hhandlings, hepisodes⟩ := hcourse.handlings_between hrunning hcourse'
    -- the event is accepted outside of all episodes, and the first of them is its own
    have hown : episodic (happenings id (r.step :: more)) =
        .taken s.state event :: episodic (happenings id more) := by
      rw [happenings, List.filterMap_cons_some htaken]
      exact List.filter_cons_of_pos rfl
    have hall : episodic (happenings id (r.step :: more)) = handlings.flatten := by
      rw [← hepisodes, happenings_append, episodic_append]
      simp [haccepted, episodic, Happening.isEpisodic]
    rw [hmachine] at hhandlings
    obtain ⟨own, rest, rfl⟩ := exists_first_handling hhandlings (hown.symm.trans hall)
    obtain ⟨hfirst, hrest⟩ := List.forall_mem_cons.mp hhandlings
    exact ⟨hidle', own, rest, hfirst, hrest, hall⟩
  · obtain ⟨s', -, hsublist⟩ := hlater.ordered hs
    rw [hqueue, List.nil_append] at hsublist
    exact (List.sublist_append_left _ _).trans hsublist

/-- A lamp that is started and then pressed. -/
theorem at_rest_unless_interrupted_of_lamp :
    ∃ own, ∃ more : List (List (Happening Unit)), ((pressed shines).after 19).Idle 0 ∧
      Handling (lamp shines) (.taken ⟨.text "off", .null, [], false⟩ ⟨.text "press", []⟩ :: own) ∧
      episodic (happenings 0 (((pressed shines).after 9).trail 10)) =
        .taken ⟨.text "off", .null, [], false⟩ ⟨.text "press", []⟩ :: own ++ more.flatten := by
  have hs : ((pressed shines).after 8).world.services[0]? = some _ := rfl
  have hordinary : ¬ Interrupted (happenings 0 (.idle (World.ofLamp shines) :: (pressed shines).trail 8)) := by
    rintro ⟨h, hlast, hinterrupt⟩
    cases hlast
    cases hinterrupt
  obtain ⟨-, hsends, -⟩ := (at_rest_unless_interrupted rfl (History.ofLamp shines 8) hs rfl).2 hordinary
  obtain ⟨hidle, own, more, hown, -, hepisodes⟩ := hsends "lamp" (.text "press") _ _ rfl rfl rfl rfl _
    ((pressed shines).after 19) (.of_after (n := 10) (by decide) rfl) (.steps ((pressed shines).after 9) 10)
  exact ⟨own, more, hidle, hown, hepisodes⟩

/-- An interrupt. -/
def interrupt : Failure := .fault .interrupt none

/-- A lamp whose effect is interrupted. -/
def interrupts : Value → Event → Outcome Value := fun _ _ ↦ .error interrupt

/-- A lamp that is on from the beginning, made and started. -/
def litUp : Run Unit :=
  .script (World.ofLit interrupts) [] (.call (.create "lamp") fun _ ↦ .request (.start "lamp"))

/-- A world in which whoever watches the lamp presses it and is interrupted. -/
def World.ofMeddler : World Unit :=
  { World.ofLamp shines with
    behaviour := fun _ _ ↦ .call (.send "lamp" (.text "press")) fun _ ↦ .fail interrupt }

/-- A lamp that is made, started and watched. -/
def meddled : Run Unit :=
  .script World.ofMeddler [] (.call (.create "lamp") fun _ ↦ .call (.start "lamp") fun _ ↦
    .request (.subscribe "lamp" "eye" "eye"))

/-- Interrupts leave the flag of a service set, and events waiting, while nothing of it is under way. -/
theorem left_wedged_by_interrupts :
    (¬ ∀ past r s, History (.idle (World.ofLit interrupts)) past r → r.world.services[0]? = some s → r.Idle 0 →
      s.processing = false) ∧
    ¬ ∀ past r s, History (.idle World.ofMeddler) past r → r.world.services[0]? = some s → r.Idle 0 →
      s.queue = [] := by
  refine ⟨fun h ↦ ?_, fun h ↦ ?_⟩
  · have hflag := h _ _ _ (.trans (.call .begin rfl _) (.steps litUp 12)) rfl rfl
    cases hflag
  · have hqueue := h _ _ _ (.trans (.call .begin rfl _) (.steps meddled 30)) rfl rfl
    cases hqueue

end Statechart
