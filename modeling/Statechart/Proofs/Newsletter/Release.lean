import Statechart.Proofs.Cancellation
import Statechart.Proofs.Newsletter.Chart
import Statechart.Proofs.Provenance

/-!
# Leaving the state of a submission

A service of the signup machine, with any effects for the start of a submission and for the input, among any listeners
and callbacks, and sent any events whose token is null or a token. What an event does is one of four moves
(`Move`, `Standing.move`); only entering the state of a submission takes a token from an event, and leaving it has the
cancellation as its first effect. So the context holds the token with which that state was entered (`Standing`).

The state without a submission is stored one step before its token is asked to be cancelled, and two steps before it is.
In between no listener is called and the service is busy (`Leaving`). Everywhere else the token of a state at rest is
null or cancelled (`attended`), for a cancelled token stays so. `leaving_cancels` puts this together.
-/

set_option autoImplicit false
set_option relaxedAutoImplicit false

namespace Statechart.Newsletter

variable {σ : Type}

/-! ### The moves of a signup -/

/-- What an event does to a signup: nothing that matters to its token, a reset, the begin of a submission or its end. -/
inductive Move (start clear : Callee σ) (sink : Sink) (s : State σ) (c : Signup) (event : Event) (next : State σ)
    (d : Signup) : Prop
  | stays (hvalue : next.value = s.value) (htoken : d.token = c.token) (hactions : next.actions = [])
  | resets (hs : s.value ∈ atRest) (hvalue : next.value ∈ atRest) (htoken : d.token = .null)
      (hactions : next.actions = [clearing clear])
  | enters (hs : s.value ∈ atRest) (hvalue : next.value = submitting) (hkind : submitEvent.alike event.kind = true)
      (htoken : d.token = event.payload "token") (hactions : next.actions = [starting start])
  | leaves {rest} (hs : s.value = submitting) (hvalue : next.value ∈ atRest) (htoken : d.token = c.token)
      (hactions : next.actions = cancelling :: rest)
      (hrest : ∀ e ∈ rest, e = clearing clear ∨ logError sink = .effect e)

section

variable {start clear : Callee σ} {sink : Sink} {s next : State σ} {c : Signup} {event : Event}

/-- What becomes of an event is one of the four moves. -/
theorem Handles.move (h : Handles start clear sink s c event next) :
    ∃ d, next.context = Signup.toValue d ∧ Move start clear sink s c event next d := by
  cases h with
  | ignores => exact ⟨c, rfl, .stays rfl rfl rfl⟩
  | submits hs hkind =>
    exact ⟨{ c with email := event.payload "email", token := event.payload "token" }, rfl,
      .enters hs rfl (Value.alike_of_asText? rfl hkind) rfl rfl⟩
  | resets hs => exact ⟨{}, rfl, .resets hs (List.mem_cons_self ..) rfl rfl⟩
  | fails hs _ hlog =>
    exact ⟨{ c with data := .null, error := event.payload "message" }, rfl,
      .leaves hs (by simp [atRest]) rfl rfl (by simpa using .inr hlog)⟩
  | succeeds hs =>
    exact ⟨{ c with data := event.payload "message", error := .null }, rfl,
      .leaves hs (by simp [atRest]) rfl rfl (by simp)⟩
  | cancels hs => exact ⟨c, rfl, .leaves hs (by simp [atRest]) rfl rfl (by simp)⟩

/-- Cancelling is the first effect of a move, and of leaving the state of a submission only. -/
theorem Move.of_cancelling {d : Signup} {done rest : List (Effect σ)} (h : Move start clear sink s c event next d)
    (hactions : next.actions = done ++ cancelling :: rest) :
    done = [] ∧ s.value = submitting ∧ next.value ∈ atRest ∧ d.token = c.token := by
  cases h with
  | stays _ _ hnone => simp [hnone] at hactions
  | resets _ _ _ hone | enters _ _ _ _ hone =>
    have hmem : cancelling ∈ next.actions := by simp [hactions]
    simp [hone, cancelling, clearing, starting] at hmem
  | @leaves rest' hs hvalue htoken hleaves hrest =>
    refine ⟨?_, hs, hvalue, htoken⟩
    rw [hleaves] at hactions
    cases done with
    | nil => rfl
    | cons e done =>
      have hmem : cancelling ∈ rest' := by
        rw [List.cons_append, List.cons.injEq] at hactions
        simp [hactions.2]
      rcases hrest _ hmem with hclear | hlog
      · simp [cancelling, clearing] at hclear
      · simp [cancelling, logError, Action.ofLog] at hlog

end

/-! ### The signup of a service -/

/-- The state of a submission was entered, by an event that carried a token, and has not been left since. -/
inductive Entered (hs : List (Happening σ)) (token : Value) : Prop
  | intro {before during source event next} (hhs : hs = before ++ .committed source event next :: during)
      (hsource : source.value ≠ submitting) (hnext : next.value = submitting)
      (hkind : submitEvent.alike event.kind = true) (htoken : event.payload "token" = token)
      (hduring : ∀ source' event' next', .committed source' event' next' ∈ during →
        source'.value = submitting ∧ next'.value = submitting)

theorem Entered.append {hs more : List (Happening σ)} {token : Value} (h : Entered hs token)
    (hmore : ∀ source event next, .committed source event next ∈ more →
      source.value = submitting ∧ next.value = submitting) : Entered (hs ++ more) token := by
  obtain ⟨rfl, hsource, hnext, hkind, htoken, hduring⟩ := h
  refine ⟨List.append_assoc .., hsource, hnext, hkind, htoken, fun source event next hmem ↦ ?_⟩
  rcases List.mem_append.mp hmem with hbefore | hlater
  · exact hduring source event next hbefore
  · exact hmore source event next hlater

/-- The context is a signup, which holds the token of the submission under way. -/
def Standing (hs : List (Happening σ)) (s : State σ) (c : Signup) : Prop :=
  s.context = c.toValue ∧ (s.value ∈ atRest ∨ s.value = submitting ∧ Entered hs c.token)

section

variable {start clear : Callee σ} {sink : Sink}

theorem Standing.first {hs : List (Happening σ)} {s : State σ}
    (h : (machine start (some clear) sink).initialState = .ok s) : Standing hs s {} := by
  have hfirst : (machine start (some clear) sink).initialState = .ok ⟨notSubmitted, Signup.toValue {}, [], false⟩ := rfl
  cases hfirst.symm.trans h
  exact ⟨rfl, .inl (List.mem_cons_self ..)⟩

theorem Standing.move {hs : List (Happening σ)} {s next : State σ} {c : Signup} {event : Event} (h : Standing hs s c)
    (hnext : (machine start (some clear) sink).transition s event = .ok next) :
    ∃ d, next.context = Signup.toValue d ∧ Move start clear sink s c event next d := by
  have hvalue : s.value = submitting ∨ s.value ∈ atRest := h.2.symm.imp_left And.left
  exact (handles_of_transition hvalue h.1 hnext).move

theorem Standing.next {hs : List (Happening σ)} {s next : State σ} {c d : Signup} {event : Event}
    (h : Standing hs s c) (hcontext : next.context = d.toValue) (hmove : Move start clear sink s c event next d) :
    Standing (hs ++ [.committed s event next]) next.settled d := by
  refine ⟨hcontext, ?_⟩
  cases hmove with
  | stays hvalue htoken hactions =>
    refine h.2.imp (fun hrest ↦ ?_) fun ⟨hsubmitting, hentered⟩ ↦ ?_
    · exact hvalue ▸ hrest
    · have hstays : next.value = submitting := hvalue.trans hsubmitting
      refine ⟨hstays, htoken ▸ hentered.append fun source event' next' hmem ↦ ?_⟩
      cases List.mem_singleton.mp hmem
      exact ⟨hsubmitting, hstays⟩
  | resets hs hvalue htoken hactions => exact .inl hvalue
  | enters hs hvalue hkind htoken hactions =>
    exact .inr ⟨hvalue, rfl, ne_submitting_of_atRest hs, hvalue, hkind, htoken.symm, by simp⟩
  | leaves hs hvalue htoken hactions hrest => exact .inl hvalue

variable {w : World σ} {past : List (Run σ)} {r : Run σ} {id : Nat} {s : Service σ}

theorem standing (h : History (.idle w) past r) (hnew : w.services = []) (hs : r.world.services[id]? = some s)
    (hmachine : s.machine = machine start (some clear) sink) : ∃ c, Standing (happenings id past) s.state c := by
  refine h.states hnew (P := fun hs s ↦ s.machine = machine start (some clear) sink → ∃ c, Standing hs s.state c)
    ?_ hs hmachine
  intro hs before o s' hstored _ hbefore hmachine
  cases hstored with
  | created hinitial => exact ⟨{}, .first (hmachine ▸ hinitial)⟩
  | @hosted initial s' hinitial hstate =>
    have hfirst : Standing (hs ++ [.started initial]) initial {} := .first (hmachine ▸ hinitial)
    rw [hstate]
    exact ⟨{}, hfirst⟩
  | started hsame hstate =>
    obtain ⟨c, hcontext, hvalue⟩ := hbefore _ rfl (hsame.symm.trans hmachine)
    rw [hstate]
    exact ⟨c, hcontext, hvalue.imp_right fun ⟨hsubmitting, hentered⟩ ↦ ⟨hsubmitting, hentered.append (by simp)⟩⟩
  | committed hsame hnext hstate =>
    have hsource := hsame.symm.trans hmachine
    obtain ⟨c, hstanding⟩ := hbefore _ rfl hsource
    rw [hsource] at hnext
    obtain ⟨d, hcontext, hmove⟩ := hstanding.move hnext
    rw [hstate]
    exact ⟨d, hstanding.next hcontext hmove⟩
  | kept hsame hstate ho =>
    obtain ⟨c, hcontext, hvalue⟩ := hbefore _ rfl (hsame.symm.trans hmachine)
    rw [hstate]
    refine ⟨c, hcontext, hvalue.imp_right fun ⟨hsubmitting, hentered⟩ ↦ ⟨hsubmitting, hentered.append ?_⟩⟩
    intro source event next hmem
    cases ho _ (Option.mem_toList.mp hmem)

end

/-! ### Between leaving and cancelling -/

/-- A value that is no token, or one. -/
def IsToken (v : Value) : Prop := v = .null ∨ ∃ t, v = .token t

/-- The token of a context is null or cancelled. -/
def Free (w : World σ) (context : Value) : Prop :=
  field context "token" = .ok .null ∨ ∃ t, field context "token" = .ok (.token t) ∧ (w.token t).cancelled = true

/-- The token of a context is about to be cancelled: as the next effect, or as the next request. -/
inductive Leaving (id : Nat) (context : Value) : Run σ → Prop
  | due {w event rest below a} :
      Leaving id context ⟨w, .effects id context event (cancelling :: rest) :: below, .returning a⟩
  | asked {w event rest below a} :
      Leaving id context ⟨w, .awaiting (fun _ ↦ cancelling.exec.script context event) ::
        .effects id context event rest :: below, .returning a⟩

theorem Free.step {r : Run σ} {context : Value} (h : Free r.world context) (hnames : r.KeepsNames) :
    Free r.step.world context :=
  h.imp_right fun ⟨t, ht, hcancelled⟩ ↦ ⟨t, ht, Run.cancelled_step hcancelled hnames⟩

theorem free_of_asked {r : Run σ} {c : Signup} (htoken : IsToken c.token) {event : Event} {below : List (Frame σ)}
    (hstack : r.stack = .awaiting (fun _ ↦ cancelling.exec.script c.toValue event) :: below) (hcalm : r.Calm) :
    Free r.step.world c.toValue := by
  obtain ⟨w, stack, signal⟩ := r
  obtain ⟨a, rfl : signal = _⟩ := hcalm
  dsimp only at hstack
  subst hstack
  rcases htoken with hnull | ⟨t, ht⟩
  · exact .inl (by rw [field_token, hnull])
  · refine .inr ⟨t, by rw [field_token, ht], ?_⟩
    let r : Run σ := ⟨w, .awaiting (fun _ ↦ cancelling.exec.script c.toValue event) :: below, .returning a⟩
    have hscript : cancelling.exec.script c.toValue event =
        (.request (.cancel t (.text ("left " ++ submitting.shown ++ " on " ++ event.kind.shown))) : Script σ) := by
      simp only [cancelling, Callee.script, field_token, ht]
    have hrequest : r.request? =
        some (.cancel t (.text ("left " ++ submitting.shown ++ " on " ++ event.kind.shown)),
          .awaiting (fun _ ↦ .done) :: below) := by
      simp only [r, Run.request?, hscript]
      rfl
    exact Run.cancelled_of_request hrequest

namespace Leaving

variable {id : Nat} {r : Run σ} {context : Value}

theorem of_stack {event : Event} {rest : List (Effect σ)} {below : List (Frame σ)}
    (hstack : r.stack = .effects id context event (cancelling :: rest) :: below) (hcalm : r.Calm) :
    Leaving id context r := by
  obtain ⟨w, stack, signal⟩ := r
  obtain ⟨a, rfl : signal = _⟩ := hcalm
  dsimp only at hstack
  subst hstack
  exact .due

theorem busy (h : Leaving id context r) : handling id r.stack ≠ [] := by
  cases h with
  | due => simp
  | asked => simp [Frame.serves]

/-- Nothing happens to the service but the cancellation. -/
theorem happening (h : Leaving id context r) :
    ∀ happened ∈ r.happening id, ∃ e context event, happened = .performed e context event := by
  intro happened hmem
  cases h with
  | due =>
    simp only [Run.happening, World.resumed, if_true, Option.mem_def, Option.some.injEq] at hmem
    exact ⟨_, _, _, hmem.symm⟩
  | @asked w event rest below a =>
    have hnone : w.begun id (cancelling.exec.script context event) = none := by
      simp only [cancelling, Callee.script]
      split
      · rfl
      · rfl
      · simp [Script.request, World.begun, World.requested]
      · rfl
    cases hnone.symm.trans hmem

theorem step {c : Signup} (h : Leaving id c.toValue r) (htoken : IsToken c.token) :
    Leaving id c.toValue r.step ∨ Free r.step.world c.toValue := by
  cases h with
  | due => exact .inl .asked
  | asked => exact .inr (free_of_asked htoken rfl ⟨_, rfl⟩)

end Leaving

section

variable {start clear : Callee σ} {sink : Sink} {w : World σ} {past : List (Run σ)} {r : Run σ} {id : Nat}
  {s : Service σ} {source next : State σ} {event : Event}

/-- A state that is stored comes from the state of the service by a move. -/
theorem move_of_committed (h : History (.idle w) past r) (hnew : w.services = [])
    (hcommit : r.happening id = some (.committed source event next)) (hs : r.world.services[id]? = some s)
    (hmachine : s.machine = machine start (some clear) sink) :
    ∃ c d, Standing (happenings id past) source c ∧ next.context = Signup.toValue d ∧
      Move start clear sink source c event next d := by
  have hturn := r.step_turn id
  rw [hcommit] at hturn
  obtain ⟨s', hs', hsource, hnext⟩ := hturn.transition_of_committed (h.view_course hnew id)
  cases hs.symm.trans hs'
  obtain ⟨c, hstanding⟩ := standing h hnew hs hmachine
  rw [← hsource] at hstanding
  rw [hmachine] at hnext
  obtain ⟨d, hcontext, hmove⟩ := hstanding.move hnext
  exact ⟨c, d, hstanding, hcontext, hmove⟩

theorem move_of_past (h : History (.idle w) past r) (hnew : w.services = []) (hs : r.world.services[id]? = some s)
    (hmachine : s.machine = machine start (some clear) sink)
    (hcommitted : .committed source event next ∈ happenings id past) :
    ∃ c d, Move start clear sink source c event next d := by
  obtain ⟨earlier, p, later, -, hearlier, hlater, hp⟩ := h.exists_of_happened hcommitted
  have hturn := p.step_turn id
  rw [hp] at hturn
  obtain ⟨s', hs', -, -⟩ := hturn.transition_of_committed (hearlier.view_course hnew id)
  obtain ⟨s'', hs'', hsame⟩ := hlater.machine hs'
  cases hs.symm.trans hs''
  obtain ⟨c, d, -, -, hmove⟩ := move_of_committed hearlier hnew hp hs' (hsame.symm.trans hmachine)
  exact ⟨c, d, hmove⟩

theorem isToken_of_entered (h : History (.idle w) past r) (hnew : w.services = [])
    (hs : r.world.services[id]? = some s)
    (hevents : ∀ event ∈ acceptedEvents (happenings id past), IsToken (event.payload "token")) {token : Value}
    (hentered : Entered (happenings id past) token) : IsToken token := by
  cases hentered with
  | @intro before during source event next hhs hsource hnext hkind htoken hduring =>
    have hcommitted : .committed source event next ∈ happenings id past := by simp [hhs]
    rw [← htoken]
    exact hevents event (h.accepted_of_committed hnew hs hcommitted)

theorem free_of_token {c : Signup} (h : Free w c.toValue) {d : Signup} (htoken : d.token = c.token) :
    Free w d.toValue := by
  simpa only [Free, field_token, htoken] using h

/-- The token of a context is free, or it is about to be cancelled. -/
def Attended (id : Nat) (context : Value) (r : Run σ) : Prop :=
  Free r.world context ∨ Leaving id context r ∧ ∃ c, context = Signup.toValue c ∧ IsToken c.token

namespace Attended

variable {context : Value}

theorem step (h : Attended id context r) (hnames : r.KeepsNames) : Attended id context r.step := by
  rcases h with hfree | ⟨hleaving, c, rfl, htoken⟩
  · exact .inl (hfree.step hnames)
  · rcases hleaving.step htoken with hnext | hfree
    · exact .inr ⟨hnext, c, rfl, htoken⟩
    · exact .inl hfree

/-- Nothing but the cancellation happens while it is due. -/
theorem free_step (h : Attended id context r) (hnames : r.KeepsNames) {happened : Happening σ}
    (ho : r.happening id = some happened) (hne : ∀ e context event, happened ≠ .performed e context event) :
    Free r.step.world context := by
  refine (h.resolve_right fun ⟨hleaving, _⟩ ↦ ?_).step hnames
  obtain ⟨e, context, event, heq⟩ := hleaving.happening happened ho
  exact hne e context event heq

end Attended

/-- The state that is stored when the machine is at rest again: its token was free before, or is cancelled next. -/
theorem attended_of_committed (h : History (.idle w) past r) (hnew : w.services = [])
    (hevents : ∀ event ∈ acceptedEvents (happenings id past), IsToken (event.payload "token")) (hnames : r.KeepsNames)
    (hs : r.world.services[id]? = some s) (hmachine : s.machine = machine start (some clear) sink)
    (hbefore : s.state.value ∈ atRest → Attended id s.state.context r)
    (hcommit : r.happening id = some (.committed s.state event next)) (hrest : next.value ∈ atRest) :
    Attended id next.context r.step := by
  obtain ⟨c, d, hstanding, hcontext, hmove⟩ := move_of_committed h hnew hcommit hs hmachine
  rw [hcontext]
  cases hmove with
  | stays hvalue htoken hactions =>
    have hfree := (hbefore (hvalue ▸ hrest)).free_step hnames hcommit (by simp)
    rw [hstanding.1] at hfree
    exact .inl (free_of_token hfree htoken)
  | resets hs hvalue htoken hactions => exact .inl (.inl (by rw [field_token, htoken]))
  | enters hs hvalue hkind htoken hactions => exact absurd hvalue (ne_submitting_of_atRest hrest)
  | leaves hvalue _ htoken hactions =>
    obtain ⟨below, hstack, hcalm⟩ := Run.step_of_committed hcommit
    rw [hactions, hcontext] at hstack
    have hentered := (hstanding.2.resolve_left fun hmem ↦ ne_submitting_of_atRest hmem hvalue).2
    have htoken' : IsToken d.token := htoken ▸ isToken_of_entered h hnew hs hevents hentered
    exact .inr ⟨.of_stack hstack hcalm, d, rfl, htoken'⟩

/-- A state at rest has a token that is free, or is about to be cancelled. -/
theorem attended (h : History (.idle w) past r) (hnew : w.services = [])
    (hevents : ∀ event ∈ acceptedEvents (happenings id past), IsToken (event.payload "token"))
    (hnames : ∀ p ∈ past, p.KeepsNames) (hs : r.world.services[id]? = some s)
    (hmachine : s.machine = machine start (some clear) sink) (hrest : s.state.value ∈ atRest) :
    Attended id s.state.context r := by
  induction h generalizing s with
  | begin =>
    change w.services[id]? = some s at hs
    simp [hnew] at hs
  | @call past r h hidle script ih =>
    have hfree := ih (fun event hmem ↦ hevents event (by simp [hmem])) (fun p hp ↦ hnames p (by simp [hp])) hs hmachine
      hrest
    refine .inl (hfree.resolve_right fun ⟨hleaving, _⟩ ↦ hleaving.busy ?_)
    rw [hidle]
    rfl
  | @step past r h ih =>
    have hevents' (event : Event) (hmem : event ∈ acceptedEvents (happenings id past)) :
        IsToken (event.payload "token") := hevents event (by simp [hmem])
    have hnamesr : r.KeepsNames := hnames r (by simp)
    have hbefore (s : Service σ) := @ih s hevents' fun p hp ↦ hnames p (by simp [hp])
    have hstored := (r.step_turn id).stored (h.view_course hnew id) hs
    generalize hservice : (r.view id).service = before at hstored
    generalize ho : r.happening id = o at hstored
    cases hstored with
    | created hinitial =>
      have hfirst : Standing [] s.state {} := .first (hmachine ▸ hinitial)
      exact .inl (.inl (by rw [hfirst.1]; rfl))
    | @hosted initial s hinitial hstate =>
      have hfirst : Standing [] initial {} := .first (hmachine ▸ hinitial)
      refine .inl (.inl ?_)
      rw [hstate]
      exact (congrArg (field · "token") hfirst.1).trans rfl
    | @started s₀ s hsame hstate =>
      rw [hstate] at hrest ⊢
      exact .inl ((hbefore s₀ hservice (hsame.symm.trans hmachine) hrest).free_step hnamesr ho (by simp))
    | @committed s₀ s event next hsame hnext hstate =>
      have hmachine₀ := hsame.symm.trans hmachine
      rw [hstate] at hrest ⊢
      have hnext' : Attended id next.context r.step :=
        attended_of_committed h hnew hevents' hnamesr hservice hmachine₀ (hbefore s₀ hservice hmachine₀) ho hrest
      exact hnext'
    | @kept s₀ s o hsame hstate ho' =>
      rw [hstate] at hrest ⊢
      exact (hbefore s₀ hservice (hsame.symm.trans hmachine) hrest).step hnamesr

/-! ### What is performed -/

/-- An effect that writes a line and does nothing else. -/
def IsLog (sink : Sink) (e : Effect σ) : Prop :=
  ∀ context event, ∃ text, e.exec.script context event = .request (.write sink "ERROR" text)

theorem isLog_of_logError {e : Effect σ} (h : logError sink = .effect e) : IsLog sink e := by
  cases h
  exact fun context event ↦ ⟨_, rfl⟩

/-- The first state has no effects. -/
theorem no_effects {initial : State σ} (h : (machine start (some clear) sink).initialState = .ok initial) :
    initial.actions = [] := by
  cases h
  rfl

/-- Effects still to be performed are the last ones of a state that was stored by a move. -/
theorem move_of_effects (h : History (.idle w) past r) (hnew : w.services = []) (hs : r.world.services[id]? = some s)
    (hmachine : s.machine = machine start (some clear) sink) {context : Value} {e : Effect σ} {rest : List (Effect σ)}
    {k : List (Frame σ)} (hframes : (r.view id).frames = .effects id context event (e :: rest) :: k) :
    ∃ source next done c d, next.actions = done ++ e :: rest ∧ Move start clear sink source c event next d ∧
      (done = [] → (r.view id).next = .resuming) := by
  rcases View.effects_left (h.view_course hnew id) hframes with
    ⟨s', initial, done, hs', hinitial, ha⟩ | ⟨source, next, done, hcommitted, ha, he⟩
  · cases hs.symm.trans hs'
    rw [hmachine] at hinitial
    rw [no_effects hinitial] at ha
    simp at ha
  · obtain ⟨c, d, hmove⟩ := move_of_past h hnew hs hmachine hcommitted
    exact ⟨source, next, done, c, d, ha, hmove, he⟩

/-- The cancellation is performed in the step after the state of a submission was left. -/
theorem left_of_performed (h : History (.idle w) past r) (hnew : w.services = [])
    (hs : r.world.services[id]? = some s) (hmachine : s.machine = machine start (some clear) sink) {context : Value}
    (hperformed : r.happening id = some (.performed cancelling context event)) :
    ∃ earlier p source next, past = earlier ++ [p] ∧ p.happening id = some (.committed source event next) ∧
      source.value = submitting ∧ next.value ≠ submitting ∧ context = next.context := by
  have hturn := r.step_turn id
  rw [hperformed] at hturn
  obtain ⟨rest, k, hframes, hnext⟩ := hturn.frames_of_performed
  cases h with
  | begin => cases hframes
  | call h hidle script => cases hframes
  | @step past p h =>
    have hcourse := h.view_course hnew id
    rcases (p.step_turn id).effects_due hcourse hframes hnext with
      ⟨source, next, hcommitted, hcontext, hactions⟩ | ⟨initial, hstarted, hactions⟩ | ⟨hbefore, hcovered⟩
    · have hmem : .committed source event next ∈ happenings id (past ++ [p]) := by simp [hcommitted]
      obtain ⟨c, d, hmove⟩ := move_of_past (.step h) hnew hs hmachine hmem
      have hfirst : next.actions = [] ++ cancelling :: rest := hactions.symm
      obtain ⟨-, hsource, hrest, -⟩ := hmove.of_cancelling hfirst
      exact ⟨past, p, source, next, rfl, hcommitted, hsource, ne_submitting_of_atRest hrest, hcontext⟩
    · obtain ⟨s', below, hs', -, hinitial, -⟩ := (h.begins hnew hstarted).effects
      cases hs.symm.trans hs'
      rw [hmachine] at hinitial
      cases hactions.trans (no_effects hinitial)
    · -- the cancellation is the first effect, and the first effect is never covered
      obtain ⟨s', hs' : p.world.services[id]? = some s'⟩ := View.service_of_frames hcourse hbefore
      obtain ⟨s'', hs'', hsame⟩ := History.machine (.step .begin) hs'
      cases hs.symm.trans hs''
      obtain ⟨source, next, done, c, d, ha, hmove, he⟩ :=
        move_of_effects h hnew hs' (hsame.symm.trans hmachine) hbefore
      cases hcovered.symm.trans (he (hmove.of_cancelling ha).1)

/-! ### The result -/

/-- What the machine does with tokens at the end of a history, and in the next step. -/
structure Releases (start clear : Callee σ) (sink : Sink) (id : Nat) (past : List (Run σ)) (r : Run σ)
    (s : Service σ) : Prop where
  told : ∀ l snapshot, r.Tells id l snapshot → snapshot.value ≠ submitting → Free r.world snapshot.context
  idle : r.Idle id → s.state.value ≠ submitting → Free r.world s.state.context
  leaves : ∀ source event next, r.happening id = some (.committed source event next) → source.value = submitting →
    next.value ≠ submitting → r.step.happening id = some (.performed cancelling next.context event) ∧
      ∃ token, Entered (happenings id past) token ∧ field next.context "token" = .ok token ∧
        ∀ t, token = .token t → ((r.after 3).world.token t).cancelled = true
  performs : ∀ e context event, r.happening id = some (.performed e context event) →
    e = starting start ∨ e = clearing clear ∨ IsLog sink e ∨
      e = cancelling ∧ ∃ earlier p source next, past = earlier ++ [p] ∧
        p.happening id = some (.committed source event next) ∧ source.value = submitting ∧ next.value ≠ submitting ∧
          context = next.context
  silent : s.machine.Silent

theorem free_of_rest (h : History (.idle w) past r) (hnew : w.services = [])
    (hevents : ∀ event ∈ acceptedEvents (happenings id past), IsToken (event.payload "token"))
    (hnames : ∀ p ∈ past, p.KeepsNames) (hs : r.world.services[id]? = some s)
    (hmachine : s.machine = machine start (some clear) sink) (hopen : ¬ Leaving id s.state.context r)
    (hvalue : s.state.value ≠ submitting) : Free r.world s.state.context := by
  obtain ⟨c, hstanding⟩ := standing h hnew hs hmachine
  have hrest : s.state.value ∈ atRest := hstanding.2.resolve_right fun hsubmitting ↦ hvalue hsubmitting.1
  exact (attended h hnew hevents hnames hs hmachine hrest).resolve_right fun hleaving ↦ hopen hleaving.1

/-- Where the state of a submission is left, its token is cancelled as the first effect. -/
theorem cancelled_of_left (h : History (.idle w) past r) (hnew : w.services = [])
    (hs : r.world.services[id]? = some s) (hmachine : s.machine = machine start (some clear) sink)
    (hcommitted : r.happening id = some (.committed source event next)) (hsource : source.value = submitting)
    (hnext : next.value ≠ submitting) : r.step.happening id = some (.performed cancelling next.context event) ∧
      ∃ token, Entered (happenings id past) token ∧ field next.context "token" = .ok token ∧
        ∀ t, token = .token t → ((r.after 3).world.token t).cancelled = true := by
  obtain ⟨c, d, hstanding, hcontext, hmove⟩ := move_of_committed h hnew hcommitted hs hmachine
  have hentered := (hstanding.2.resolve_left fun hmem ↦ ne_submitting_of_atRest hmem hsource).2
  cases hmove with
  | stays hvalue => exact absurd (hvalue.trans hsource) hnext
  | resets hrest | enters hrest => exact absurd hsource (ne_submitting_of_atRest hrest)
  | @leaves rest _ hrest htoken hactions =>
    obtain ⟨below, hstack, hcalm⟩ := Run.step_of_committed hcommitted
    rw [hactions] at hstack
    obtain ⟨hperformed, w', hstep⟩ := Run.step_of_due hstack hcalm
    refine ⟨hperformed, c.token, hentered, by rw [hcontext, field_token, htoken], ?_⟩
    rintro t ht
    have hd : d.token = .token t := htoken.trans ht
    have hasked : (r.after 2).stack = .awaiting (fun _ ↦ cancelling.exec.script d.toValue event) ::
        .effects id next.context event rest :: below := by
      rw [← hcontext]
      exact congrArg Run.stack hstep
    have hcalm' : (r.after 2).Calm := ⟨.null, congrArg Run.signal hstep⟩
    have hfree : Free (r.after 3).world d.toValue := free_of_asked (.inr ⟨t, hd⟩) hasked hcalm'
    rw [Free, field_token, hd] at hfree
    obtain ⟨t', ht', hcancelled⟩ := hfree.resolve_left (by simp)
    cases ht'
    exact hcancelled

/-- The machine performs the effects that it was given, writes a line, and cancels a submission that is left. -/
theorem performed_of_machine (h : History (.idle w) past r) (hnew : w.services = [])
    (hs : r.world.services[id]? = some s) (hmachine : s.machine = machine start (some clear) sink) {e : Effect σ}
    {context : Value} (hperformed : r.happening id = some (.performed e context event)) :
    e = starting start ∨ e = clearing clear ∨ IsLog sink e ∨
      e = cancelling ∧ ∃ earlier p source next, past = earlier ++ [p] ∧
        p.happening id = some (.committed source event next) ∧ source.value = submitting ∧ next.value ≠ submitting ∧
          context = next.context := by
  have hturn := r.step_turn id
  rw [hperformed] at hturn
  obtain ⟨rest, k, hframes, -⟩ := hturn.frames_of_performed
  obtain ⟨source, next, done, c, d, ha, hmove, -⟩ := move_of_effects h hnew hs hmachine hframes
  have hmem : e ∈ next.actions := by simp [ha]
  cases hmove with
  | stays _ _ hactions => simp [hactions] at hmem
  | resets _ _ _ hactions =>
    rw [hactions, List.mem_singleton] at hmem
    exact .inr (.inl hmem)
  | enters _ _ _ _ hactions =>
    rw [hactions, List.mem_singleton] at hmem
    exact .inl hmem
  | leaves _ _ _ hactions hrest =>
    rw [hactions, List.mem_cons] at hmem
    rcases hmem with rfl | hmem
    · exact .inr (.inr (.inr ⟨rfl, left_of_performed h hnew hs hmachine hperformed⟩))
    · rcases hrest e hmem with hclear | hlog
      · exact .inr (.inl hclear)
      · exact .inr (.inr (.inl (isLog_of_logError hlog)))

theorem releases (h : History (.idle w) past r) (hnew : w.services = [])
    (hevents : ∀ event ∈ acceptedEvents (happenings id past), IsToken (event.payload "token"))
    (hnames : ∀ p ∈ past, p.KeepsNames) (hs : r.world.services[id]? = some s)
    (hmachine : s.machine = machine start (some clear) sink) : Releases start clear sink id past r s where
  told := by
    intro l snapshot htold hvalue
    obtain ⟨s', hs', rfl⟩ := h.told_current hnew htold
    cases hs.symm.trans hs'
    refine free_of_rest h hnew hevents hnames hs hmachine (fun hleaving ↦ ?_) hvalue
    rcases htold with hnotified | hreplayed
    · obtain ⟨e, context, event, heq⟩ := hleaving.happening _ hnotified
      cases heq
    · obtain ⟨e, context, event, heq⟩ := hleaving.happening _ hreplayed
      cases heq
  idle := fun hidle hvalue ↦
    free_of_rest h hnew hevents hnames hs hmachine (fun hleaving ↦ hleaving.busy hidle) hvalue
  leaves := fun _ _ _ hcommitted hsource hnext ↦ cancelled_of_left h hnew hs hmachine hcommitted hsource hnext
  performs := fun _ _ _ hperformed ↦ performed_of_machine h hnew hs hmachine hperformed
  silent := hmachine ▸ silent_machine start clear sink

end

/-- The callable that clears the input: as given, or one that does nothing. -/
def clearer (clear : Option (Callee σ)) : Callee σ := clear.getD (.effect (some "<lambda>") fun _ _ ↦ .done)

theorem machine_clearer (start : Callee σ) (clear : Option (Callee σ)) (sink : Sink) :
    machine start clear sink = machine start (some (clearer clear)) sink := by
  cases clear <;> rfl

/-- Leaving the state of a submission always cancels it. Assumes: a history of a world that began without services,
with any effects for the start of a submission and for the input, and with any callbacks, which may call the service
back at any point and fail in any way; the token of every event that the service accepted is null or a token, and no
token is made under the name of a cancelled one. At every call of a listener, and whenever the service has nothing under
way, the token of a state without a submission is null or cancelled. Where the state of a submission is left, the
cancellation is performed next, with the context that was stored, which holds the token with which that state was
entered, and two steps later that token is cancelled. The machine performs nothing else but the effects that it was
given and a written line, and its guards and assignments call nothing. -/
theorem leaving_cancels {w : World σ} (hnew : w.services = []) {past : List (Run σ)} {r : Run σ}
    (hpast : History (.idle w) past r) {id : Nat} {s : Service σ} (hs : r.world.services[id]? = some s)
    {start : Callee σ} {clear : Option (Callee σ)} {sink : Sink} (hmachine : s.machine = machine start clear sink)
    (hevents : ∀ event ∈ acceptedEvents (happenings id past), IsToken (event.payload "token"))
    (hnames : ∀ p ∈ past, p.KeepsNames) : Releases start (clearer clear) sink id past r s :=
  releases hpast hnew hevents hnames hs (hmachine.trans (machine_clearer start clear sink))

/-- A world of signup machines whose effects do nothing. -/
def plain : World Unit :=
  { machine := some (machine (.effect none fun _ _ ↦ .done) none .library), behaviour := fun _ _ ↦ .done, memory := () }

/-- A signup that is watched, submitted with a token and cancelled. -/
def signedUp : Run Unit :=
  .script plain [] (.call (.create "form") fun _ ↦ .call (.subscribe "form" "eye" "eye") fun _ ↦
    .call (.start "form") fun _ ↦ .call (.send "form" (Wish.submit (.text "a") (.token "t")).value) fun _ ↦
      .request (.send "form" Wish.cancel.value))

theorem history_signedUp (n : Nat) : History (.idle plain) (.idle plain :: signedUp.trail n) (signedUp.after n) :=
  .trans (.call .begin rfl _) (.steps signedUp n)

/-- When the listener hears that the signup was cancelled, so was its token. -/
theorem leaving_cancels_of_signedUp :
    ∃ snapshot, (signedUp.after 35).Tells 0 (.named "eye") snapshot ∧ snapshot.value = notSubmitted ∧
      field snapshot.context "token" = .ok (.token "t") ∧ Free (signedUp.after 35).world snapshot.context := by
  have hs : (signedUp.after 35).world.services[0]? = some _ := rfl
  have haccepted : acceptedEvents (happenings 0 (.idle plain :: signedUp.trail 35)) =
      [(Wish.submit (.text "a") (.token "t")).event, Wish.cancel.event] := rfl
  have hevents : ∀ event ∈ acceptedEvents (happenings 0 (.idle plain :: signedUp.trail 35)),
      IsToken (event.payload "token") := by
    rw [haccepted]
    simp only [List.mem_cons, List.not_mem_nil, or_false, forall_eq_or_imp, forall_eq]
    exact ⟨.inr ⟨"t", rfl⟩, .inl rfl⟩
  have hnames : ∀ p ∈ .idle plain :: signedUp.trail 35, p.KeepsNames := by decide +kernel
  have hreleases := leaving_cancels rfl (history_signedUp 35) hs rfl hevents hnames
  have htold : (signedUp.after 35).Tells 0 (.named "eye")
      ⟨notSubmitted, Signup.toValue { email := .text "a", token := .token "t" }, [], true⟩ := .inl rfl
  exact ⟨_, htold, rfl, rfl, hreleases.told _ _ htold (by simp [notSubmitted, submitting])⟩

end Statechart.Newsletter
