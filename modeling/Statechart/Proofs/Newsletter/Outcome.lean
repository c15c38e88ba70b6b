import Statechart.Proofs.Newsletter.Upkeep
import Statechart.Proofs.Reply

/-!
# The outcome of a signup

A submission that asks a server ends as the response says (`outcome_unless_too_deep`): on a status of success the form
shows the message of the body and clears its input, on any other it shows the status and the body as an error, and so
it shows what fails on the way. It shows this at some moment while the submission reports, and still when the report is
over if what is done on changes only looks on (`Form.Ends`).

The report is followed to that moment (`leads_told`): the machine takes it, the host is told the state, and the rest of
the run changes nothing that is shown if the code that is called is an onlooker's (`leads_onlooker`, `leads_released`).

The one body that is not read as it should is JSON whose arrays or objects stand too deep within each other: it is not
read as text but fails the submission. The example is a text of which there are only openings of arrays
(`not_ended_as_told_of_opened`).
-/

set_option autoImplicit false
set_option relaxedAutoImplicit false

namespace Statechart.Newsletter

open Run (Leads)

/-! ### Who looks on -/

/-- A request that leaves the form and its input alone. -/
def Glance (q : Request FormMemory) : Prop :=
  ∀ w stack, ∃ v signal, Run.perform w stack q = ⟨v, stack, signal⟩ ∧ Beside w v ∧
    v.memory.own.input = w.memory.own.input ∧ ∀ f, signal = .failing f → f.isOrdinary = true

/-- The scripts that only look on; they may fail, though not by an interrupt. -/
inductive Onlooker : Script FormMemory → Prop
  | done : Onlooker .done
  | fail {f : Failure} (h : f.isOrdinary = true) : Onlooker (.fail f)
  | call {q : Request FormMemory} {next : Answer → Script FormMemory} (h : Glance q) (hnext : ∀ a, Onlooker (next a)) :
    Onlooker (.call q next)
  | attempt {q : Request FormMemory} {next : Outcome Answer → Script FormMemory} (h : Glance q)
    (hnext : ∀ o, Onlooker (next o)) : Onlooker (.attempt q next)

section

variable {named : String → Published → Script FormMemory} {sink : Sink} {report : Option (Value × Event)}
  {v w : World FormMemory} {t : Service FormMemory} {c : Signup} {stack : List (Frame FormMemory)}
  {P : Run FormMemory → Prop} {f : Form} {n : Nat} {s : Submission}

/-- An onlooker comes to its end, and the form is as it was. -/
theorem leads_onlooker {script : Script FormMemory} (hscript : Onlooker script)
    (h : ∀ v signal, Beside w v → v.memory.own.input = w.memory.own.input →
      (∀ f, signal = .failing f → f.isOrdinary = true) → Leads (Current report) P ⟨v, stack, signal⟩) :
    Leads (Current report) P (Run.proceed w stack script) := by
  induction hscript generalizing w with
  | done => exact h w _ (.refl w) rfl (by simp)
  | @fail f hf =>
    refine h w _ (.refl w) rfl fun g hg ↦ ?_
    cases hg
    rw [w.isOrdinary_pictureFailure]
    exact hf
  | @call q next hq _ ih =>
    obtain ⟨v, signal, hrun, hbeside, hinput, hordinary⟩ := hq w (.awaiting next :: stack)
    change Leads _ _ (Run.perform w (.awaiting next :: stack) q)
    rw [hrun]
    cases signal with
    | returning a =>
      refine .resume (current_of_frame (by simp)) (ih a fun v' signal' hv' hinput' ↦ ?_)
      exact h v' signal' (hbeside.trans hv') (hinput'.trans hinput)
    | failing f => exact .step (current_of_frame (by simp)) (h v _ hbeside hinput hordinary)
  | @attempt q next hq _ ih =>
    obtain ⟨v, signal, hrun, hbeside, hinput, hordinary⟩ := hq w (.attempting next :: stack)
    change Leads _ _ (Run.perform w (.attempting next :: stack) q)
    rw [hrun]
    cases signal with
    | returning a =>
      refine .resume (current_of_frame (by simp)) (ih (.ok a) fun v' signal' hv' hinput' ↦ ?_)
      exact h v' signal' (hbeside.trans hv') (hinput'.trans hinput)
    | failing f =>
      refine .step (current_of_frame (by simp)) (ih (.error f) fun v' signal' hv' hinput' ↦ ?_)
      exact h v' signal' (hbeside.trans hv') (hinput'.trans hinput)

/-- What is below the call of the host while a report is announced. -/
def underRound (what : Published) : List (Frame FormMemory) :=
  .round (some 0) what [] :: .drain 0 :: .sent 0 :: Form.underReport

/-- The service of a form once no event waits or is handled any more. -/
def released (w : World FormMemory) (t : Service FormMemory) : World FormMemory :=
  { w with services := [{ t with queue := [], processing := false }] }

/-- When the host was told, the handling of the report ends. -/
theorem leads_released (hservices : w.services = [t]) (hqueue : t.queue = []) {what : Published} {signal : Signal}
    (hsignal : ∀ f, signal = .failing f → f.isOrdinary = true)
    (h : ∀ last : Signal, (∀ f, last = .failing f → f.isOrdinary = true) →
      Leads (Current report) P ⟨released w t, [], last⟩) :
    Leads (Current report) P ⟨w, underRound what, signal⟩ := by
  refine .step (current_of_frame (by simp)) ?_
  cases signal with
  | returning a =>
    have hdrain : Run.resume w (.sent 0 :: Form.underReport) .null (.drain 0) =
        ⟨released w t, .sent 0 :: Form.underReport, .returning .null⟩ := by
      simp [Run.resume, Run.drain, hservices, hqueue, w.updateService_of_single hservices, Run.answer, released]
    have hsent : Run.resume (released w t) Form.underReport .null (.sent 0) =
        ⟨released w t, Form.underReport, .returning (.state t.state.snapshot)⟩ := rfl
    refine .resume (current_of_frame (by simp)) ?_
    rw [hdrain]
    refine .resume (current_of_frame (by simp)) ?_
    rw [hsent]
    exact .resume (current_of_frame (by simp)) (h _ (by simp))
  | failing f =>
    have hf := hsignal f rfl
    have hdrain : Run.unwind w (.sent 0 :: Form.underReport) f (.drain 0) =
        ⟨released w t, .sent 0 :: Form.underReport, .failing f⟩ := by
      simp [Run.unwind, hf, w.updateService_of_single hservices, released]
    refine .step (current_of_frame (by simp)) ?_
    change Leads _ _ (Run.unwind w (.sent 0 :: Form.underReport) f (.drain 0))
    rw [hdrain]
    exact .step (current_of_frame (by simp)) (.step (current_of_frame (by simp)) (h _ hsignal))

/-! ### What a form shows -/

namespace Form

/-- A form shows a state with a message and an error, and its input holds something. -/
structure Shows (f : Form) (value data error input : Value) : Prop where
  state : ∃ p, f.current? = some p ∧ p.value = value ∧ field p.context "data" = .ok data ∧
    field p.context "error" = .ok error
  input : f.desk.input = input

/-- The form in the world of a run. -/
def during (f : Form) (r : Run FormMemory) : Form := { f with world := r.world }

/-- A form shows how a submission has ended: with a message and a cleared input, or with the text of a failure. -/
def ShowsEnd (f : Form) (o : Outcome String) (input : Value) : Prop :=
  match o with
  | .ok message => f.Shows success (.text message) .null (.text "")
  | .error e => f.Shows failed .null (.text e.said) input

/-- What the host was told is shown. -/
theorem showsEnd_of_host {o : Outcome String} {input : Value} {host : Host}
    (hknown : World.lookup? f.world.names Form.host = some (.host 0)) (hhosts : f.world.hosts = [host])
    (hvalue : host.current.value = endedIn (o.map .text))
    (hcontext : host.current.context = (c.ended (o.map .text)).toValue)
    (hinput : f.desk.input = endedInput input (o.map .text)) : f.ShowsEnd o input := by
  have hcurrent : f.current? = some (f.world.pictureSnapshot host.current) := by
    simp [current?, hknown, hhosts]
  cases o with
  | ok message =>
    refine ⟨⟨_, hcurrent, ?_, ?_, ?_⟩, hinput⟩
    · simp only [World.pictureSnapshot, hvalue]; rfl
    · simp only [World.pictureSnapshot, hcontext]; rfl
    · simp only [World.pictureSnapshot, hcontext]; rfl
  | error e =>
    refine ⟨⟨_, hcurrent, ?_, ?_, ?_⟩, hinput⟩
    · simp only [World.pictureSnapshot, hvalue]; rfl
    · simp only [World.pictureSnapshot, hcontext]; rfl
    · simp only [World.pictureSnapshot, hcontext]; rfl

/-- A form that shows the same state over the same input shows the same end. -/
theorem ShowsEnd.of_same {g : Form} {o : Outcome String} {input : Value} (h : f.ShowsEnd o input)
    (hcurrent : g.current? = f.current?) (hinput : g.desk.input = f.desk.input) : g.ShowsEnd o input := by
  cases o with
  | ok message => exact ⟨hcurrent ▸ h.state, hinput.trans h.input⟩
  | error e => exact ⟨hcurrent ▸ h.state, hinput.trans h.input⟩

/-- What leaves a form and its input alone leaves what it shows. -/
theorem ShowsEnd.beside {g : Form} {o : Outcome String} {input : Value} (h : f.ShowsEnd o input)
    (hbeside : Beside f.world g.world) (hinput : g.desk.input = f.desk.input) : g.ShowsEnd o input :=
  h.of_same (current?_of_beside hbeside) hinput

/-- A report that is sent to a service that runs leads to the host being told how the submission has ended. -/
theorem leads_told (hrest : Rest named sink False false f.world t c) (hrunning : t.status = .running)
    {o : Outcome String} (h : f.Reports n s (o.map .text))
    (hafter : ∀ (v : World FormMemory) (t : Service FormMemory) (host : Host), v.services = [t] → t.queue = [] →
      v.hosts = [host] → v.behaviour = behaviour named →
      ({ f with world := told v host t.state.snapshot } : Form).ShowsEnd o f.desk.input →
      Leads (Current (some (s.token, reportedEvent (o.map .text)))) P
        (Run.call v (underRound (.state t.state.snapshot)) (.keeper 0) (.state t.state.snapshot))) :
    Leads (Current (some (s.token, reportedEvent (o.map .text)))) P (f.reporting n s (o.map .text)) := by
  refine leads_of_running hrest hrunning h fun next v hto hkept _ hinput ↦ ?_
  refine leads_announced hkept hrunning fun v' hv' hinput' ↦ ?_
  have hkept' := hkept.beside hv'
  obtain ⟨host, hhosts, -, -⟩ := hkept'.host
  refine hafter v' _ host hkept'.services rfl hhosts hkept'.behaviour ?_
  exact showsEnd_of_host (c := c) hkept'.lookup_host rfl hto hkept'.context (hinput'.trans hinput)

/-- There is a moment at which the form shows how the submission has ended. -/
theorem exists_showsEnd (hrest : Rest named sink False false f.world t c) (hrunning : t.status = .running)
    {o : Outcome String} (h : f.Reports n s (o.map .text)) :
    ∃ k, (f.during ((f.reporting n s (o.map .text)).after k)).ShowsEnd o f.desk.input := by
  let P (r : Run FormMemory) : Prop := (f.during r).ShowsEnd o f.desk.input
  have hleads : Leads (Current (some (s.token, reportedEvent (o.map .text)))) P (f.reporting n s (o.map .text)) := by
    refine leads_told hrest hrunning h fun v t host _ _ hhosts _ hshows ↦ .here ?_
    rw [call_keeper hhosts]
    cases host.onChange with
    | none => exact hshows
    | some name => exact hshows
  exact hleads.exists_after

/-- Where what is done on changes only looks on, the report ends so. -/
theorem ending_showsEnd (honlooker : ∀ name what, Onlooker (named name what))
    (hrest : Rest named sink False false f.world t c) (hrunning : t.status = .running) {o : Outcome String}
    (h : f.Reports n s (o.map .text)) :
    ∃ last : Run FormMemory, (f.reporting n s (o.map .text)).ending = (last.world, last.signal) ∧
      (f.during last).ShowsEnd o f.desk.input ∧ ∀ e, last.signal = .failing e → e.isOrdinary = true := by
  let P (r : Run FormMemory) : Prop :=
    r.stack = [] ∧ (f.during r).ShowsEnd o f.desk.input ∧ ∀ e, r.signal = .failing e → e.isOrdinary = true
  have hleads : Leads (Current (some (s.token, reportedEvent (o.map .text)))) P (f.reporting n s (o.map .text)) := by
    refine leads_told hrest hrunning h fun v t host hservices hqueue hhosts hbehaviour hshows ↦ ?_
    -- from here on the form shows what it is to show
    have hlast {u : World FormMemory} {signal : Signal} (hu : Beside (told v host t.state.snapshot) u)
        (hinput : u.memory.own.input = v.memory.own.input) (hsignal : ∀ e, signal = .failing e → e.isOrdinary = true) :
        Leads (Current (some (s.token, reportedEvent (o.map .text)))) P
          ⟨u, underRound (.state t.state.snapshot), signal⟩ := by
      refine leads_released (hu.services.trans hservices) hqueue hsignal fun last hlast ↦ .here ⟨rfl, ?_, hlast⟩
      have hshown : ({ f with world := u } : Form).ShowsEnd o f.desk.input := hshows.beside hu hinput
      exact hshown.of_same rfl rfl
    rw [call_keeper hhosts]
    cases host.onChange with
    | none => exact hlast (.refl _) rfl (by simp)
    | some name =>
      have hscript : Onlooker (v.behaviour (.named name) (.state t.state.snapshot)) := by
        rw [hbehaviour]
        exact honlooker name _
      exact .resume (current_of_frame (by simp)) (leads_onlooker hscript fun u signal hu hinput ↦ hlast hu hinput)
  obtain ⟨last, ⟨-, hshows, hsignal⟩, hending⟩ := hleads.ends And.left
  exact ⟨last, hending, hshows, hsignal⟩

/-- The report of a submission is the run in which it is sent. -/
theorem report_eq_play {o : Outcome Value} (h : f.Reports n s o) :
    (f.turnedTo n).report s o = ({ f.turnedTo n with world := f.reportWorld n s o } : Form).play (send (reported o)) := by
  have hfree : (f.turnedTo n).isCancelled s.token = .ok false := h.free
  unfold report
  rw [hfree]
  cases o with
  | ok message => rfl
  | error e =>
    simp only [h.ordinary e rfl, Bool.not_true, Bool.false_eq_true, if_false]
    rfl

/-- A submission ends with its report. A failure on the way ends with it, if it is no interrupt. -/
theorem finish_of_report {o : Outcome Value} {g : Form} {reported : Outcome Unit}
    (h : (f.turnedTo n).report s o = (g, reported)) (hordinary : ∀ e, reported = .error e → e.isOrdinary = true) :
    (f.finish n s (some o)).2 = .ok () ∧ (f.finish n s (some o)).1 = g.changeDesk fun d ↦
      { d.update n fun s ↦ { s with phase := .finished } with current := none } := by
  have hreport : (f.changeDesk fun d ↦ { d with current := some n }).report s o = (g, reported) := h
  simp only [finish, hreport, and_true]
  cases reported with
  | ok _ => rfl
  | error e => exact if_pos (hordinary e rfl)

/-- Where the report ends by no interrupt, the form is left as its last run left it. -/
theorem finish_of_ending {o : Outcome Value} (h : f.Reports n s o) {last : Run FormMemory}
    (hending : (f.reporting n s o).ending = (last.world, last.signal))
    (hordinary : ∀ e, last.signal = .failing e → e.isOrdinary = true) :
    (f.finish n s (some o)).2 = .ok () ∧ (f.finish n s (some o)).1.current? = (f.during last).current? ∧
      (f.finish n s (some o)).1.desk.input = (f.during last).desk.input := by
  have hplay : ({ f.turnedTo n with world := f.reportWorld n s o } : Form).world.play (send (reported o)) =
      (last.world, last.signal) := hending
  have hreport := report_eq_play h
  unfold play at hreport
  rw [hplay] at hreport
  obtain ⟨w, stack, signal⟩ := last
  cases signal with
  | returning a =>
    obtain ⟨hout, hform⟩ := finish_of_report hreport nofun
    exact ⟨hout, by rw [hform]; rfl, by rw [hform]; rfl⟩
  | failing e =>
    obtain ⟨hout, hform⟩ := finish_of_report hreport fun e' he ↦ by
      cases he
      exact hordinary e rfl
    exact ⟨hout, by rw [hform]; rfl, by rw [hform]; rfl⟩

/-! ### Asking a server -/

/-- A submission that is about to ask a server, and is neither cancelled nor one of a closed form. A status outside of
success is a failure. -/
structure Asks (f : Form) (n : Nat) (s : Submission) (url : Value) (client : Http.Client) : Prop where
  found : f.desk.submissions[n]? = some s
  fresh : s.phase = .fresh
  kept : s.aborted = false
  free : f.isCancelled s.token = .ok false
  opened : f.isClosed = false
  server : f.submitter = .http url client
  refuses : client.refusesFailures = true

/-- The form when the submitter was asked for a submission. -/
def asked (f : Form) (s : Submission) : Form :=
  { (f.submitter.records s.email).foldl note f with submitter := f.submitter.ask.1 }

/-- How a submission ends that goes on now: at some moment while it reports, the form shows a state with a message and
an error over an input, and it still shows them afterwards if what is done on changes only looks on. -/
structure Ends (f : Form) (named : String → Published → Script FormMemory) (n : Nat) (s : Submission)
    (value data error input : Value) : Prop where
  passes : ∃ r, (f.asked s).UnderWay (some (n, s, f.submitter.ask.2.outcome)) r ∧
    ((f.asked s).during r).Shows value data error input
  stays : (∀ name what, Onlooker (named name what)) → (f.advance n s).2 = .ok () ∧
    (f.advance n s).1.Shows value data error input ∧ (f.advance n s).1.isBusy = false

variable {url : Value} {client : Http.Client}

/-- Asking a server leaves a record. -/
theorem Asks.world_asked (h : f.Asks n s url client) :
    (f.asked s).world = f.world.note (Http.Client.record (.text "GET") url) := by
  rw [asked, h.server]
  rfl

/-- What a server makes of a submission is its outcome. -/
theorem Asks.outcome_eq (h : f.Asks n s url client) :
    f.submitter.ask.2.outcome = (client.submit url).2.map .text := by
  rw [h.server]
  rfl

theorem Asks.advance_eq (h : f.Asks n s url client) :
    f.advance n s = (f.asked s).finish n s (some f.submitter.ask.2.outcome) := by
  obtain ⟨-, hphase, haborted, -, -, hserver, -⟩ := h
  obtain ⟨world, submitter, gates⟩ := f
  obtain ⟨email, token, phase, aborted⟩ := s
  cases hserver
  cases hphase
  cases haborted
  rfl

/-- A submission reports what a server makes of it, unless that is an interrupt. -/
theorem Asks.reports (h : f.Asks n s url client)
    (hordinary : ∀ e, (client.submit url).2 = .error e → e.isOrdinary = true) :
    (f.asked s).Reports n s ((client.submit url).2.map .text) where
  found := by
    rw [desk, h.world_asked]
    exact h.found
  unfinished := by simp [Submission.isFinished, h.fresh]
  free := by
    unfold isCancelled
    rw [h.world_asked]
    exact h.free
  ordinary e he := by
    cases hout : (client.submit url).2 with
    | ok message =>
      rw [hout] at he
      cases he
    | error e' =>
      rw [hout] at he
      cases he
      exact hordinary e hout

/-- What a server makes of a submission is what the form comes to show. -/
theorem Asks.showsEnd (h : f.Asks n s url client) (hnamed : ∀ name what, Guest (named name what))
    (hf : f.Live named sink) (hordinary : ∀ e, (client.submit url).2 = .error e → e.isOrdinary = true) :
    (∃ r, (f.asked s).UnderWay (some (n, s, f.submitter.ask.2.outcome)) r ∧
      ((f.asked s).during r).ShowsEnd (client.submit url).2 f.desk.input) ∧
    ((∀ name what, Onlooker (named name what)) → (f.advance n s).2 = .ok () ∧
      (f.advance n s).1.ShowsEnd (client.submit url).2 f.desk.input) := by
  have hbeside : Beside f.world (f.asked s).world := by
    rw [h.world_asked]
    exact .note _ _
  have hinput : (f.asked s).desk.input = f.desk.input := by
    rw [desk, h.world_asked]
    rfl
  have hclosed : (f.asked s).isClosed = false := by
    unfold isClosed
    rw [h.world_asked]
    exact h.opened
  have hreports := h.reports hordinary
  obtain ⟨service, c, hrest⟩ := (hf.atRest hnamed).beside hbeside
  have hrunning : service.status = .running := by
    rw [status_of_rest hrest, hclosed]
    rfl
  rw [h.outcome_eq, h.advance_eq, h.outcome_eq, ← hinput]
  constructor
  · obtain ⟨k, hk⟩ := exists_showsEnd hrest hrunning hreports
    exact ⟨_, UnderWay.after (.report hreports) k, hk⟩
  · intro honlooker
    obtain ⟨last, hending, hlast, hsignal⟩ := ending_showsEnd honlooker hrest hrunning hreports
    obtain ⟨hout, hcurrent, hinput⟩ := finish_of_ending hreports hending hsignal
    exact ⟨hout, hlast.of_same hcurrent hinput⟩

/-- A form shows one state. -/
theorem Shows.value_eq {value data error input value' data' error' input' : Value} (h : f.Shows value data error input)
    (h' : f.Shows value' data' error' input') : value = value' := by
  obtain ⟨p, hp, rfl, -⟩ := h.state
  obtain ⟨p', hp', rfl, -⟩ := h'.state
  rw [Option.some.inj (hp.symm.trans hp')]

/-- A form that shows another state than that of a submission is not busy. -/
theorem Shows.isBusy {value data error input : Value} (h : f.Shows value data error input)
    (hvalue : value.same Newsletter.submitting = false) : f.isBusy = false := by
  obtain ⟨p, hcurrent, rfl, -⟩ := h.state
  rw [Form.isBusy, hcurrent]
  exact hvalue

theorem Asks.ends (h : f.Asks n s url client) (hnamed : ∀ name what, Guest (named name what))
    (hf : f.Live named sink) (hordinary : ∀ e, (client.submit url).2 = .error e → e.isOrdinary = true)
    {value data error input : Value} (hvalue : value.same Newsletter.submitting = false)
    (hend : ∀ g : Form, g.ShowsEnd (client.submit url).2 f.desk.input → g.Shows value data error input) :
    f.Ends named n s value data error input := by
  obtain ⟨⟨r, hr, hpasses⟩, hstays⟩ := h.showsEnd hnamed hf hordinary
  refine ⟨⟨r, hr, hend _ hpasses⟩, fun honlooker ↦ ?_⟩
  obtain ⟨hended, hshows⟩ := hstays honlooker
  exact ⟨hended, hend _ hshows, (hend _ hshows).isBusy hvalue⟩

theorem Asks.ends_of_ok (h : f.Asks n s url client) (hnamed : ∀ name what, Guest (named name what))
    (hf : f.Live named sink) {message : String} (hout : (client.submit url).2 = .ok message) :
    f.Ends named n s success (.text message) .null (.text "") := by
  refine h.ends hnamed hf (fun e he ↦ ?_) rfl fun g hg ↦ ?_
  · rw [hout] at he
    cases he
  · rw [hout] at hg
    exact hg

theorem Asks.ends_of_error (h : f.Asks n s url client) (hnamed : ∀ name what, Guest (named name what))
    (hf : f.Live named sink) {e : Failure} (hout : (client.submit url).2 = .error e) (he : e.isOrdinary = true) :
    f.Ends named n s failed .null (.text e.said) f.desk.input := by
  refine h.ends hnamed hf (fun e' he' ↦ ?_) rfl fun g hg ↦ ?_
  · rw [hout] at he'
    cases he'
    exact he
  · rw [hout] at hg
    exact hg

end Form

end

/-- A submission that asks a server ends as the response says: with the message of the body on a status of success, and
with the status and the body as an error on any other. The body is JSON where the headers say so and it can be read so,
and text otherwise. If the body cannot be read, which is so where its arrays or objects are too deep and where there is
no text of it, or if there is no response, the submission ends with the text of that failure. There is no other case
(`Http.Response.hasBody_or_unreadable`). Assumes: what is done on changes is what a guest does, and the response is
delivered. -/
theorem outcome_unless_too_deep {named : String → Published → Script FormMemory} {sink : Sink} {f : Form} {n : Nat}
    {s : Submission} {url : Value} {client : Http.Client} {reaction : Http.Reaction}
    (hnamed : ∀ name what, Guest (named name what)) (hf : f.Live named sink) (h : f.Asks n s url client)
    (hmeets : client.Meets url reaction) :
    (∀ r v, reaction = .response r → r.HasBody v → (∀ kind, ¬ r.IsTooDeep kind) →
      (200 ≤ r.status ∧ r.status < 300 → ∀ message, Http.Message v message →
        f.Ends named n s success (.text message) .null (.text "")) ∧
      (¬ (200 ≤ r.status ∧ r.status < 300) →
        f.Ends named n s failed .null (.text ("HTTP " ++ toString r.status ++ ": " ++ v.shown)) f.desk.input)) ∧
    (∀ r e, reaction = .response r → r.Unreadable e → f.Ends named n s failed .null (.text e.said) f.desk.input) ∧
    (∀ e, reaction = .failure e → e.isOrdinary = true →
      f.Ends named n s failed .null (.text e.said) f.desk.input) := by
  refine ⟨?_, ?_, ?_⟩
  · rintro r v rfl hbody hdeep
    have hout := hmeets.submit_of_response h.refuses
    rw [Http.Response.body_of_hasBody hbody hdeep] at hout
    constructor
    · intro hstatus message hmessage
      refine h.ends_of_ok hnamed hf (hout.trans ?_)
      rw [← Http.Client.confirmation_of_message hmessage r.status r.headers]
      change (Http.Client.judged r v).map _ = _
      rw [Http.Client.judged, if_pos hstatus]
      rfl
    · intro hstatus
      rw [← Http.Client.said_refusal]
      refine h.ends_of_error hnamed hf (hout.trans ?_) rfl
      change (Http.Client.judged r v).map _ = _
      rw [Http.Client.judged, if_neg hstatus]
      rfl
  · rintro r e rfl hunreadable
    refine h.ends_of_error hnamed hf ((hmeets.submit_of_response h.refuses).trans ?_) hunreadable.isOrdinary
    rw [Http.Response.body_of_unreadable hunreadable]
    rfl
  · rintro e rfl hordinary
    exact h.ends_of_error hnamed hf hmeets.submit_of_failure hordinary

/-! ### A form that is drawn -/

/-- Draws the form on every change. -/
def drawing (_ : String) (_ : Published) : Script FormMemory := .request (.journal (.began "draw"))

theorem guest_drawing (name : String) (what : Published) : Guest (drawing name what) :=
  guest_request (.aside (aside_journal _))

theorem onlooker_drawing (name : String) (what : Published) : Onlooker (drawing name what) :=
  .call (fun w _ ↦ ⟨_, _, rfl, .note w _, rfl, nofun⟩) fun _ ↦ .done

namespace Form

/-- The URL of a server. -/
def address : Value := .text "http://h"

/-- A client to which a server answers so. -/
def answered (r : Http.Response) : Http.Client := { reactions := [.response r] }

theorem meets_answered {r : Http.Response} (hcookies : r.cookies = []) (hlocation : r.location? = none) :
    (answered r).Meets address (.response r) := by
  have hbase : Http.Url.asBase {} = .ok {} := if_pos (by decide +kernel)
  have hconnection : (answered r).connection = .ok ⟨{}, [], false⟩ := by
    change (do return { base := ← Http.Url.asBase {}, headers := [], hasCookies := false } : Outcome Http.Connection) = _
    rw [hbase]
    rfl
  have hsent : Http.Connection.request ⟨{}, [], false⟩ (.text "GET") address .null =
      .ok ⟨"GET", { scheme := "http", host := "h" }, []⟩ := rfl
  have hjar : (answered r).collected ⟨"GET", { scheme := "http", host := "h" }, []⟩ r = .ok [] := by
    rw [Http.Client.collected, hcookies]
    rfl
  exact .response hconnection hsent rfl hjar fun location h ↦ by simp [hlocation] at h

/-- A form that is drawn and was submitted to. -/
@[irreducible] def drawn : Form :=
  let created := ({ world := blank drawing .library, submitter := .scripted [] 0 } : Form).visited
    (.request (.createHost host (some "draw"))) 14
  created.visited (submit (some (.text "a"))) 40

theorem live_drawn : drawn.Live drawing .library := by
  have hcreated : (Form.visited { world := blank drawing .library, submitter := .scripted [] 0 }
      (.request (.createHost host (some "draw"))) 14).Live drawing .library :=
    live_of_after (by decide +kernel) rfl (by decide +kernel)
  unfold drawn
  exact hcreated.visited (guest_submit (some (.text "a"))) (by decide +kernel)

/-- The form, about to ask a server. -/
def posted (r : Http.Response) : Form := { drawn with submitter := .http address (answered r) }

theorem live_posted (r : Http.Response) : (posted r).Live drawing .library := .apart live_drawn (.refl _)

/-- The submission to the form. -/
def posting : Submission := { email := .text "a", token := .token "newsletter-submit/0" }

theorem asks_posted (r : Http.Response) : (posted r).Asks 0 posting address (answered r) where
  found := by
    have hdrawn : drawn.desk.submissions[0]? = some posting := by
      unfold drawn
      rfl
    exact hdrawn
  fresh := rfl
  kept := rfl
  free := by
    have hfree : (drawn.world.token "newsletter-submit/0").cancelled = false := by
      unfold drawn
      rfl
    exact congrArg Except.ok hfree
  opened := by
    have hopened : drawn.isClosed = false := by
      unfold drawn
      rfl
    exact hopened
  server := rfl
  refuses := rfl

end Form

/-- A response with a text in JSON. -/
def quoted : Http.Response :=
  { headers := [("content-type", "application/json")], content := [0x22, 0x6F, 0x6B, 0x22] }

theorem isJson_quoted : quoted.IsJson (.text "ok") := by
  refine ⟨quoted.saysJson_iff.mp (by decide), "\"ok\"", by decide, rfl⟩

theorem outcome_unless_too_deep_of_quoted :
    (Form.posted quoted).Live drawing .library ∧
      (Form.posted quoted).Ends drawing 0 Form.posting success (.text "ok") .null (.text "") := by
  have hlive := Form.live_posted quoted
  obtain ⟨hread, -⟩ := outcome_unless_too_deep guest_drawing hlive (Form.asks_posted quoted)
    (Form.meets_answered rfl rfl)
  obtain ⟨hsuccess, -⟩ := hread quoted _ rfl (.json isJson_quoted) isJson_quoted.not_isTooDeep
  exact ⟨hlive, hsuccess (by decide) "ok" (.whole nofun)⟩

/-- Openings of arrays are a text that is the body of a response with a status of success. But the submission ends with a
failure and not with the text. -/
theorem not_ended_as_told_of_opened :
    let r := Http.opened 10000
    let text := String.ofList (List.replicate 10000 '[')
    (Form.posted r).Live drawing .library ∧ (Form.posted r).Asks 0 Form.posting Form.address (Form.answered r) ∧
      (Form.answered r).Meets Form.address (.response r) ∧
      r.status = 200 ∧ r.HasBody (.text text) ∧ Http.Message (.text text) text ∧
      ¬ (Form.posted r).Ends drawing 0 Form.posting success (.text text) .null (.text "") ∧
      (Form.posted r).Ends drawing 0 Form.posting failed .null
        (.text "maximum recursion depth exceeded while decoding a JSON array from a unicode string")
        (Form.posted r).desk.input := by
  intro r text
  have hdeep : r.IsTooDeep "array" := Http.Response.isTooDeep_opened (by decide)
  have hbody : r.HasBody (.text text) := Http.Response.hasBody_opened (by decide)
  have hmeets : (Form.answered r).Meets Form.address (.response r) := Form.meets_answered rfl rfl
  have hasks := Form.asks_posted r
  have hout : ((Form.answered r).submit Form.address).2 =
      .error (.foreign .tooDeep (Http.Content.depthNote "array")) := by
    rw [hmeets.submit_of_response rfl, Http.Response.body_of_isTooDeep hdeep]
    rfl
  have hends := hasks.ends_of_error guest_drawing (Form.live_posted r) hout rfl
  refine ⟨Form.live_posted r, hasks, hmeets, rfl, hbody, .whole nofun, fun htold ↦ ?_, hends⟩
  obtain ⟨-, hfailed, -⟩ := hends.stays onlooker_drawing
  obtain ⟨-, hsuccess, -⟩ := htold.stays onlooker_drawing
  exact absurd (hsuccess.value_eq hfailed) (by simp [success, failed])

end Statechart.Newsletter
