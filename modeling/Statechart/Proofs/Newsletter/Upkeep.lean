import Statechart.Proofs.Newsletter.Conduct

/-!
# A live form between calls

Between calls a live form is at rest: nothing waits or is being handled, the account of its submissions is balanced,
its host shows the state of its service, and its name is known (`Form.Live.atRest`). A run that is under way leads from
point to point (`Form.UnderWay.leads`). A submission that is not cancelled is the one whose token the context holds, so
that the report of it is accepted for that token.
-/

set_option autoImplicit false
set_option relaxedAutoImplicit false

namespace Statechart.Newsletter

open Run (Leads)

variable {named : String → Published → Script FormMemory} {sink : Sink} {creating : Prop} {f g : Form}

/-- A run that leads from point to point leaves a form between calls as it ends. -/
theorem rest_of_ending (hnamed : ∀ name what, Guest (named name what)) {report : Option (Value × Event)}
    {r : Run FormMemory} (hr : Leads (Current report) (Point named sink creating) r)
    (hworld : ∃ s c, Rest named sink creating false r.world s c) :
    ∃ s c, Rest named sink creating false r.ending.1 s c := by
  rcases hr.ending (Point.leads hnamed) with hforever | ⟨last, ⟨busy, s, c, hbelow, hrest, -⟩, hstack, hlast⟩
  · rw [hforever]
    exact hworld
  · rw [hstack] at hbelow
    cases hbelow
    rw [hlast]
    exact ⟨s, c, hrest⟩

/-- A guest that is called between calls begins a point. -/
theorem leads_of_guest (hf : ∃ s c, Rest named sink creating false f.world s c) {script : Script FormMemory}
    (hscript : Guest script) :
    Leads (Current none) (Point named sink creating) (.script f.world [] script) := by
  obtain ⟨s, c, hrest⟩ := hf
  exact .here (point_of_rest (.awaiting (fun _ ↦ hscript) .nil) hrest _)

/-- The world in which a form is created. -/
def blank (named : String → Published → Script FormMemory) (sink : Sink) : World FormMemory :=
  { machine := some (machine startSubmission (some clearInput) sink)
    behaviour := behaviour named
    memory := { own := { canBegin := true } } }

/-- The service of a form that was just created. -/
def firstService (sink : Sink) : Service FormMemory :=
  { machine := machine startSubmission (some clearInput) sink
    status := .running
    state := ⟨notSubmitted, Signup.toValue {}, [], false⟩
    listeners := ⟨[(0, .keeper 0)], 1⟩ }

/-- The account of a form without submissions is balanced. -/
theorem rest_first (journal : List Entry) {host : Host} (hservice : host.service = 0) (hclosed : host.closed = false)
    (hcurrent : host.current.value = notSubmitted) :
    Rest named sink True false
      { blank named sink with services := [firstService sink], hosts := [host], journal := journal }
      (firstService sink) {} where
  services := rfl
  behaviour := rfl
  machine := rfl
  context := rfl
  listeners := fun _ ↦ rfl
  host := ⟨host, rfl, hservice, by rw [hclosed]; rfl⟩
  known := .inr ⟨trivial, rfl⟩
  canBegin := rfl
  callbacks := fun _ _ hl ↦ by cases hl
  issued := fun _ ht ↦ by cases ht
  distinct := List.nodup_nil
  queue := ⟨[], rfl, List.nodup_nil, fun _ ht ↦ by cases ht⟩
  processing := rfl
  idle := fun _ ↦ rfl
  balanced := .inr ⟨by simp [firstService, atRest], rfl⟩
  shown := ⟨host, rfl, hcurrent⟩

/-- The creation of a form leads to its host being told the first state. -/
theorem leads_create (hnamed : ∀ name what, Guest (named name what)) (onChange : Option String) :
    Leads (Current none) (Point named sink True)
      (.script (blank named sink) [] (.request (.createHost Form.host onChange))) := by
  -- the machine's first state is computed, the service is made and started, and its empty queue is looked at
  refine .resume (current_of_frame (by simp)) (.resume (current_of_frame (by simp)) ?_)
  refine .resume (current_of_frame (by simp)) (.resume (current_of_frame (by simp)) ?_)
  refine .resume (current_of_frame (by simp)) (.resume (current_of_frame (by simp)) ?_)
  refine .resume (current_of_frame (by simp)) (.resume (current_of_frame (by simp)) ?_)
  change Leads _ _ (Run.call
    { blank named sink with services := [firstService sink], hosts := [⟨0, onChange, _, false⟩], journal := _ }
    [.hostReady 0 Form.host, .awaiting fun _ ↦ .done] (.keeper 0) (.state (firstService sink).state.snapshot))
  exact leads_keeper hnamed (.hostReady (.awaiting (fun _ ↦ .done) .nil)) rfl (rest_first _ rfl rfl rfl)

namespace Form

/-- The state of rest that a form has between calls. -/
def AtRest (named : String → Published → Script FormMemory) (sink : Sink) (f : Form) : Prop :=
  ∃ s c, Rest named sink False false f.world s c

/-- What leaves a form alone leaves it at rest. -/
theorem AtRest.beside (hf : f.AtRest named sink) (h : Beside f.world g.world) : g.AtRest named sink := by
  obtain ⟨s, c, hrest⟩ := hf
  exact ⟨s, c, hrest.beside h⟩

theorem atRest_of_create (hnamed : ∀ name what, Guest (named name what)) {submitter : Submitter}
    {onChange : Option String} (h : create submitter sink true onChange named = (f, .ok ()))
    (hshown : f.current?.isSome = true) : f.AtRest named sink := by
  have hworld : f.world = (Run.ending (.script (blank named sink) [] (.request (.createHost host onChange)))).1 :=
    (congrArg (fun p : Form × Outcome Unit ↦ p.1.world) h).symm
  have hknown : World.lookup? f.world.names host ≠ none := by
    intro hunknown
    simp [current?, hunknown] at hshown
  have hleads : Leads (Current none) (Point named sink True)
      (.script (blank named sink) [] (.request (.createHost host onChange))) := leads_create hnamed onChange
  rcases hleads.ending (Point.leads hnamed) with hforever | ⟨last, ⟨busy, s, c, hbelow, hrest, -⟩, hstack, hlast⟩
  · -- a creation that goes on forever shows no form
    rw [hworld, hforever] at hknown
    exact absurd rfl hknown
  · rw [hstack] at hbelow
    cases hbelow
    rw [← hlast, ← hworld] at hrest
    exact ⟨s, c, { hrest with known := hrest.known.imp_right fun hunknown ↦ absurd hunknown.2 hknown }⟩

theorem AtRest.play (hnamed : ∀ name what, Guest (named name what)) (hf : f.AtRest named sink)
    {script : Script FormMemory} (hscript : Guest script) : (f.play script).1.AtRest named sink :=
  rest_of_ending hnamed (leads_of_guest hf hscript) hf

/-- The form while a submission is the one that is going on. -/
def turnedTo (f : Form) (n : Nat) : Form := f.changeDesk fun d ↦ { d with current := some n }

theorem beside_turnedTo (f : Form) (n : Nat) : Beside f.world (f.turnedTo n).world := ⟨_, _, rfl, rfl, rfl, rfl⟩

/-- A submission with an outcome reports if it is not cancelled and no interrupt ended it; otherwise it says nothing. -/
theorem report_turnedTo (f : Form) (n : Nat) (s : Submission) (o : Outcome Value) :
    ((f.turnedTo n).report s o).1 = f.turnedTo n ∨
      f.isCancelled s.token = .ok false ∧ (∀ e, o = .error e → e.isOrdinary = true) ∧
        ((f.turnedTo n).report s o).1.world = (f.reporting n s o).ending.1 := by
  have hcancelled : (f.turnedTo n).isCancelled s.token = f.isCancelled s.token := rfl
  unfold report
  rw [hcancelled]
  cases o with
  | ok message =>
    cases f.isCancelled s.token with
    | error e => exact .inl rfl
    | ok cancelled =>
      cases cancelled with
      | true => exact .inl rfl
      | false => exact .inr ⟨rfl, fun _ he ↦ (by cases he), rfl⟩
  | error e =>
    by_cases hordinary : e.isOrdinary = true
    · simp only [hordinary, Bool.not_true, Bool.false_eq_true, if_false]
      cases f.isCancelled s.token with
      | error e => exact .inl rfl
      | ok cancelled =>
        cases cancelled with
        | true => exact .inl rfl
        | false => exact .inr ⟨rfl, fun _ he ↦ (by cases he; exact hordinary), rfl⟩
    · simp [hordinary]

/-- The end of a submission leaves a form alone, but for the report that the submission makes. -/
theorem finish_beside (f : Form) (n : Nat) (s : Submission) (outcome : Option (Outcome Value)) :
    Beside f.world (f.finish n s outcome).1.world ∨
      ∃ o, outcome = some o ∧ f.isCancelled s.token = .ok false ∧ (∀ e, o = .error e → e.isOrdinary = true) ∧
        Beside (f.reporting n s o).ending.1 (f.finish n s outcome).1.world := by
  have hended (g : Form) : Beside g.world (g.changeDesk fun d ↦
      { d.update n fun s ↦ { s with phase := .finished } with current := none }).world := by
    obtain ⟨hcanBegin, htokens, hsubmissions⟩ :=
      g.desk.alike_update n (fun _ ↦ rfl : ∀ s : Submission, { s with phase := Phase.finished }.token = s.token)
    exact ⟨_, _, rfl, hcanBegin, htokens, hsubmissions⟩
  cases outcome with
  | none => exact .inl (hended f)
  | some o =>
    have hfinish : (f.finish n s (some o)).1.world = (((f.turnedTo n).report s o).1.changeDesk fun d ↦
        { d.update n fun s ↦ { s with phase := .finished } with current := none }).world := rfl
    rw [hfinish]
    rcases f.report_turnedTo n s o with hsilent | ⟨hfree, hordinary, hreport⟩
    · rw [hsilent]
      exact .inl ((f.beside_turnedTo n).trans (hended _))
    · refine .inr ⟨o, rfl, hfree, hordinary, ?_⟩
      rw [← hreport]
      exact hended _

theorem beside_reportWorld (f : Form) (n : Nat) (s : Submission) (o : Outcome Value) :
    Beside f.world (f.reportWorld n s o) := by
  cases o with
  | ok message => exact f.beside_turnedTo n
  | error e => exact (f.beside_turnedTo n).trans (.note _ _)

/-- A submission whose token is not cancelled is the one that the state of the service is about. -/
theorem current_of_free {w : World FormMemory} {s : Service FormMemory} {c : Signup}
    (h : Rest named sink creating false w s c) {token : Value} (hbegun : token ∈ begun w)
    (hlive : isLive w token = true) : s.state.value = Newsletter.submitting ∧ c.token = token := by
  have hmem : token ∈ live w := List.mem_filter.mpr ⟨hbegun, hlive⟩
  rcases h.balanced with ⟨hvalue, honly⟩ | ⟨-, hnone⟩
  · rw [honly, List.mem_singleton] at hmem
    exact ⟨hvalue, hmem.symm⟩
  · rw [hnone] at hmem
    cases hmem

/-- The token of a submission that is asked whether it is cancelled. -/
theorem isLive_iff (hf : f.AtRest named sink) {n : Nat} {s : Submission} (hs : f.desk.submissions[n]? = some s) :
    s.token ∈ begun f.world ∧ (f.isCancelled s.token = .ok false ↔ isLive f.world s.token = true) := by
  obtain ⟨service, c, hrest⟩ := hf
  have hbegun : s.token ∈ begun f.world := List.mem_map.mpr ⟨s, List.mem_of_getElem? hs, rfl⟩
  obtain ⟨k, -, htoken⟩ := hrest.issued _ hbegun
  refine ⟨hbegun, ?_⟩
  rw [htoken]
  simp [isCancelled, isLive]

/-- What is below a report that is sent. -/
def underReport : List (Frame FormMemory) := [.awaiting fun _ ↦ .done]

/-- A report that is sent to a service that runs leads to the end of its effects, and is accepted for the token of the
context. -/
theorem leads_of_running {service : Service FormMemory} {c : Signup} {P : Run FormMemory → Prop}
    (hrest : Rest named sink False false f.world service c) (hrunning : service.status = .running) {n : Nat}
    {s : Submission} {o : Outcome Value} (h : f.Reports n s o)
    (hafter : ∀ (next : State FormMemory) (v : World FormMemory), next.value = endedIn o →
      Kept named sink False v { service with queue := [], processing := true, state := next.settled } (c.ended o) →
      live v = [] → v.memory.own.input = endedInput f.desk.input o →
      Leads (Current (some (s.token, reportedEvent o))) P
        ⟨v, .effects 0 next.context (reportedEvent o) [] :: .announce 0 (reportedEvent o) :: .drain 0 :: .sent 0 ::
          underReport, .returning .null⟩) :
    Leads (Current (some (s.token, reportedEvent o))) P (f.reporting n s o) := by
  obtain ⟨hbegun, hlive⟩ := isLive_iff ⟨service, c, hrest⟩ h.found
  obtain ⟨hvalue, htoken⟩ := current_of_free hrest hbegun (hlive.mp h.free)
  have hinput : (f.reportWorld n s o).memory.own.input = f.desk.input := by
    cases o with
    | ok _ => rfl
    | error _ => rfl
  have hrest := hrest.beside (f.beside_reportWorld n s o)
  have honly : live (f.reportWorld n s o) = [c.token] := hrest.balanced.submitting hvalue
  obtain ⟨journal, hsend⟩ := Run.send_of_idle underReport hrest.services hrunning hrest.processing (ofValue_reported o)
  refine .resume (current_of_frame (by simp)) ?_
  change Leads _ _ (Run.perform (f.reportWorld n s o) underReport (.send host (reported o)))
  rw [hrest.perform_send hrest.lookup_host, hsend, hrest.idle rfl]
  refine .resume (current_of_frame (by simp)) ?_
  rw [← hinput] at hafter
  exact leads_reported hrest.toKept hrunning hvalue honly (by rw [htoken]) journal hafter

/-- A report leads to the next point. -/
theorem leads_of_report (hnamed : ∀ name what, Guest (named name what)) (hf : f.AtRest named sink) {n : Nat}
    {s : Submission} {o : Outcome Value} (h : f.Reports n s o) :
    Leads (Current (some (s.token, reportedEvent o))) (Point named sink False) (f.reporting n s o) := by
  obtain ⟨service, c, hrest⟩ := hf
  have hbelow : Below false underReport := .awaiting (fun _ ↦ .done) .nil
  by_cases hrunning : service.status = .running
  · refine leads_of_running hrest hrunning h fun next v hto hv hnone _ ↦ ?_
    exact leads_settled hnamed (.sent hbelow) hv rfl hrunning (.inr ⟨hto ▸ endedIn_atRest o, hnone⟩)
  · have hrest := hrest.beside (f.beside_reportWorld n s o)
    refine .resume (current_of_frame (by simp)) ?_
    change Leads _ _ (Run.perform (f.reportWorld n s o) underReport (.send host (reported o)))
    rw [hrest.perform_send hrest.lookup_host, Run.send_of_not_running _ hrunning (ofValue_reported o)]
    exact .here (point_of_rest hbelow (hrest.beside (.mark _ 0 _)) _)

/-- A live form is at rest. -/
theorem Live.atRest (hnamed : ∀ name what, Guest (named name what)) (hf : f.Live named sink) :
    f.AtRest named sink := by
  induction hf with
  | created h hshown => exact atRest_of_create hnamed h hshown
  | called _ hscript ih => exact ih.play hnamed hscript
  | @ended f n s _ hs hopen outcome ih =>
    rcases f.finish_beside n s outcome with hbeside | ⟨o, -, hfree, hordinary, hbeside⟩
    · exact ih.beside hbeside
    · have hleads := leads_of_report hnamed ih ⟨hs, hopen, hfree, hordinary⟩
      obtain ⟨service, c, hrest⟩ := ih
      obtain ⟨service', c', hrest'⟩ :=
        rest_of_ending hnamed hleads ⟨service, c, hrest.beside (f.beside_reportWorld n s o)⟩
      exact ⟨service', c', hrest'.beside hbeside⟩
  | apart _ hbeside ih => exact ih.beside hbeside

/-- What a run that is under way may have accepted. -/
def reportOf (who? : Option (Nat × Submission × Outcome Value)) : Option (Value × Event) :=
  who?.map fun (_, s, o) ↦ (s.token, reportedEvent o)

/-- A run that is under way leads from point to point. -/
theorem UnderWay.leads (hnamed : ∀ name what, Guest (named name what)) (hf : f.AtRest named sink)
    {who? : Option (Nat × Submission × Outcome Value)} {r : Run FormMemory} (h : f.UnderWay who? r) :
    Leads (Current (reportOf who?)) (Point named sink False) r := by
  induction h with
  | call hscript => exact leads_of_guest hf hscript
  | report h => exact leads_of_report hnamed hf h
  | step _ ih => exact (ih.next (Point.leads hnamed)).2

theorem UnderWay.after {who? : Option (Nat × Submission × Outcome Value)} {r : Run FormMemory} (h : f.UnderWay who? r)
    (k : Nat) : f.UnderWay who? (r.after k) := by
  induction k with
  | zero => exact h
  | succ k ih => exact ih.step

/-- A run under way that is not a guest's is that of a submission that reports. -/
theorem UnderWay.reports {who? : Option (Nat × Submission × Outcome Value)} {r : Run FormMemory}
    (h : f.UnderWay who? r) {n : Nat} {s : Submission} {o : Outcome Value} (hwho : who? = some (n, s, o)) :
    f.Reports n s o := by
  induction h with
  | call _ => cases hwho
  | report h => cases hwho; exact h
  | step _ ih => exact ih hwho

/-! ### What a form shows -/

/-- The token of a submission is not cancelled. -/
def IsLive (f : Form) (n : Nat) : Prop :=
  ∃ s, f.desk.submissions[n]? = some s ∧ f.isCancelled s.token = .ok false

/-- No two submissions are live. -/
theorem AtRest.unique (hf : f.AtRest named sink) {m n : Nat} (hm : f.IsLive m) (hn : f.IsLive n) : m = n := by
  obtain ⟨s, hs, hsfree⟩ := hm
  obtain ⟨t, ht, htfree⟩ := hn
  obtain ⟨hsbegun, hslive⟩ := isLive_iff hf hs
  obtain ⟨htbegun, htlive⟩ := isLive_iff hf ht
  obtain ⟨service, c, hrest⟩ := hf
  obtain ⟨-, hstoken⟩ := current_of_free hrest hsbegun (hslive.mp hsfree)
  obtain ⟨-, httoken⟩ := current_of_free hrest htbegun (htlive.mp htfree)
  have hsm : (begun f.world)[m]? = some c.token := by
    rw [begun, List.getElem?_map, show f.world.memory.own.submissions[m]? = some s from hs, hstoken]
    rfl
  have htn : (begun f.world)[n]? = some c.token := by
    rw [begun, List.getElem?_map, show f.world.memory.own.submissions[n]? = some t from ht, httoken]
    rfl
  have hlt : m < (begun f.world).length := (List.getElem?_eq_some_iff.mp hsm).1
  exact (List.getElem?_inj hlt hrest.distinct).mp (hsm.trans htn.symm)

/-- The form was closed. -/
def isClosed (f : Form) : Bool :=
  ((World.lookup? f.world.names host).bind f.world.report).any fun r ↦ r.closed == some true

/-- The service of a form is stopped if the form is closed, and runs otherwise. -/
theorem status_of_rest {s : Service FormMemory} {c : Signup} (h : Rest named sink False false f.world s c) :
    s.status = if f.isClosed then .stopped else .running := by
  have hknown := h.lookup_host
  obtain ⟨host, hhosts, hservice, hstatus⟩ := h.host
  have hclosed : f.isClosed = host.closed := by
    simp [isClosed, hknown, World.report, hhosts, hservice, h.services]
  rw [hclosed, hstatus]

/-- What leaves a form alone leaves what it shows. -/
theorem current?_of_beside (h : Beside f.world g.world) : g.current? = f.current? := by
  obtain ⟨journal, memory, hworld, -⟩ := h
  unfold current?
  rw [hworld]
  rfl

/-- The report of a submission to a closed form: it is sent, dropped, and over. -/
def Dropped (f : Form) (n : Nat) (s : Submission) (o : Outcome Value) (r : Run FormMemory) : Prop :=
  Beside f.world r.world ∧
    (r = f.reporting n s o ∨ (∃ a, r = ⟨r.world, [.awaiting fun _ ↦ .done], .returning a⟩) ∨ r.stack = [])

theorem UnderWay.dropped (hf : f.AtRest named sink) (hclosed : f.isClosed = true)
    {who? : Option (Nat × Submission × Outcome Value)} {r : Run FormMemory} (h : f.UnderWay who? r) {n : Nat}
    {s : Submission} {o : Outcome Value} (hwho : who? = some (n, s, o)) : f.Dropped n s o r := by
  obtain ⟨service, c, hrest⟩ := hf
  have hstopped : service.status = .stopped := by rw [status_of_rest hrest, hclosed]; rfl
  induction h with
  | call _ => cases hwho
  | report _ =>
    cases hwho
    exact ⟨f.beside_reportWorld n s o, .inl rfl⟩
  | @step who? r _ ih =>
    obtain ⟨hbeside, rfl | ⟨a, hr⟩ | hempty⟩ := ih hwho
    · have hrest := hrest.beside (f.beside_reportWorld n s o)
      have hstep : (f.reporting n s o).step = Run.perform (f.reportWorld n s o) [.awaiting fun _ ↦ .done]
          (.send host (reported o)) := rfl
      rw [hstep, hrest.perform_send hrest.lookup_host,
        Run.send_of_not_running _ (by simp [hstopped]) (ofValue_reported o)]
      exact ⟨(f.beside_reportWorld n s o).trans (.mark _ 0 _), .inr (.inl ⟨_, rfl⟩)⟩
    · have hstep : r.step = ⟨r.world, [], .returning .null⟩ := by
        rw [hr]
        rfl
      rw [hstep]
      exact ⟨hbeside, .inr (.inr rfl)⟩
    · rw [Run.step_of_empty hempty]
      exact ⟨hbeside, .inr (.inr hempty)⟩

/-- Nothing happens to the service of a closed form while a submission reports. -/
theorem Dropped.happening (hf : f.AtRest named sink) (hclosed : f.isClosed = true) {n : Nat} {s : Submission}
    {o : Outcome Value} {r : Run FormMemory} (h : f.Dropped n s o r) : r.happening 0 = none := by
  obtain ⟨service, c, hrest⟩ := hf
  have hstopped : service.status = .stopped := by rw [status_of_rest hrest, hclosed]; rfl
  obtain ⟨-, rfl | ⟨a, hr⟩ | hempty⟩ := h
  · have hservices := (hrest.beside (f.beside_reportWorld n s o)).services
    have hrequest : (f.reporting n s o).happening 0 =
        (f.reportWorld n s o).requested 0 (.send host (reported o)) := rfl
    rw [hrequest]
    simp only [World.requested, hservices, List.getElem?_cons_zero, Option.bind_some, hstopped]
    split <;> simp
  · rw [hr]
    rfl
  · exact Run.happening_of_empty 0 hempty

/-- A form that was visited by a guest for a number of steps. -/
def visited (f : Form) (script : Script FormMemory) (n : Nat) : Form :=
  { f with world := ((Run.script f.world [] script).after n).world }

theorem play_of_after {script : Script FormMemory} {n : Nat}
    (hend : ((Run.script f.world [] script).after n).stack.isEmpty = true) :
    (f.play script).1 = f.visited script n ∧
      ∀ a, ((Run.script f.world [] script).after n).signal = .returning a → (f.play script).2 = .ok () := by
  have hplay := Run.ending_of_after (List.isEmpty_iff.mp hend)
  constructor
  · rw [play, World.play, hplay, visited]
  · intro a hsignal
    rw [play, World.play, hplay, hsignal]

/-- A form stays live when the visit of a guest ends. -/
theorem Live.visited (h : f.Live named sink) {script : Script FormMemory} (hscript : Guest script) {n : Nat}
    (hend : ((Run.script f.world [] script).after n).stack.isEmpty = true) : (f.visited script n).Live named sink := by
  rw [← (play_of_after hend).1]
  exact h.called hscript

/-- A form whose creation ends is live. -/
theorem live_of_after {submitter : Submitter} {onChange : Option String} {n : Nat}
    (hend : ((Run.script (blank named sink) [] (.request (.createHost host onChange))).after n).stack.isEmpty = true)
    {a : Answer}
    (hsignal : ((Run.script (blank named sink) [] (.request (.createHost host onChange))).after n).signal = .returning a)
    (hshown : (({ world := blank named sink, submitter } : Form).visited
      (.request (.createHost host onChange)) n).current?.isSome = true) :
    (({ world := blank named sink, submitter } : Form).visited (.request (.createHost host onChange)) n).Live
      named sink := by
  obtain ⟨hworld, hsuccess⟩ := play_of_after (f := { world := blank named sink, submitter }) hend
  exact .created (Prod.ext hworld (hsuccess a hsignal)) hshown

end Form

end Statechart.Newsletter
