import Statechart.Proofs.Lead
import Statechart.Proofs.Newsletter.Chart

/-!
# The life of a form

The code around a form, at the top and in what it does on changes, is a guest (`Guest`): a script that submits,
cancels, resets and closes in any order, with any answers in mind, fails and catches failures, and otherwise makes only
requests that leave the form alone (`Aside`). A form is live (`Form.Live`) if it was created and guests were called and
submissions came to their ends since then, in any order: a submission ends with any outcome, early or late, aborted or
not, or without one. Between calls the submitter may do what leaves the form alone.

`Form.UnderWay f who? r` tells the runs `r` that go on from a form `f`: of a guest, or of a submission that reports. A
submission reports in a run of its own, which sends what it has to say (`Form.reporting`).
-/

set_option autoImplicit false
set_option relaxedAutoImplicit false

namespace Statechart.Newsletter

/-- Two desks agree in whether submissions can be begun, in the tokens of those that were, and in how many tokens were
made. -/
def Desk.Alike (d e : Desk) : Prop :=
  e.canBegin = d.canBegin ∧ e.tokens = d.tokens ∧ e.submissions.map (·.token) = d.submissions.map (·.token)

theorem Desk.Alike.refl (d : Desk) : d.Alike d := ⟨rfl, rfl, rfl⟩

theorem Desk.Alike.trans {d e f : Desk} (h : d.Alike e) (h' : e.Alike f) : d.Alike f :=
  ⟨h'.1.trans h.1, h'.2.1.trans h.2.1, h'.2.2.trans h.2.2⟩

theorem Desk.Alike.begin {d e : Desk} (h : d.Alike e) (email token : Value) :
    (d.begin? email token).2.Alike (e.begin? email token).2 := by
  obtain ⟨hcanBegin, htokens, hsubmissions⟩ := h
  unfold begin?
  rw [hcanBegin]
  split
  · exact ⟨rfl, htokens, by simp [hsubmissions]⟩
  · exact ⟨hcanBegin, htokens, hsubmissions⟩

/-- A desk on which a submission was changed, but not its token. -/
theorem Desk.alike_update (d : Desk) (n : Nat) {change : Submission → Submission}
    (h : ∀ s, (change s).token = s.token) : d.Alike (d.update n change) := by
  refine ⟨rfl, rfl, ?_⟩
  refine List.ext_getElem? fun i ↦ ?_
  rw [List.getElem?_map, List.getElem?_map, update, List.getElem?_modify]
  cases d.submissions[i]? with
  | none => simp
  | some s =>
    by_cases hi : n = i
    · simp [hi, h s]
    · simp [hi]

theorem Desk.alike_wake (d : Desk) (n : Nat) : d.Alike (d.wake n) := by
  unfold wake
  split
  · exact .refl d
  · exact ⟨rfl, rfl, rfl⟩

theorem Desk.alike_abort (d : Desk) (n : Nat) : d.Alike (d.abort n) := by
  unfold abort
  split
  · split
    · exact .refl d
    · refine .trans (d.alike_update n ?_) (alike_wake _ n)
      exact fun _ ↦ rfl
  · exact .refl d

theorem Desk.input_abort (d : Desk) (n : Nat) : (d.abort n).input = d.input := by
  unfold abort wake
  grind [update]

theorem Desk.alike_openGate (d : Desk) (gate : String) : d.Alike (d.openGate gate) := by
  unfold Desk.openGate
  refine List.foldlRecOn (motive := d.Alike) _ _ (.refl d) fun e he p _ ↦ ?_
  by_cases hwaiting : p.1.isWaitingFor gate
  · simp only [hwaiting, if_true]
    exact he.trans (e.alike_wake p.2)
  · simp only [hwaiting]
    exact he

/-- A world that differs from another only in its journal and in what a form does not go by. -/
def Beside (w v : World FormMemory) : Prop :=
  ∃ journal memory, v = { w with journal := journal, memory := memory } ∧ w.memory.own.Alike memory.own

theorem Beside.refl (w : World FormMemory) : Beside w w := ⟨_, _, rfl, .refl _⟩

theorem Beside.trans {u v w : World FormMemory} (h : Beside u v) (h' : Beside v w) : Beside u w := by
  obtain ⟨_, _, rfl, halike⟩ := h
  obtain ⟨_, _, rfl, halike'⟩ := h'
  exact ⟨_, _, rfl, halike.trans halike'⟩

section

variable {v w : World FormMemory} (h : Beside w v)

include h

theorem Beside.services : v.services = w.services := by
  obtain ⟨_, _, rfl, _⟩ := h
  rfl

theorem Beside.behaviour : v.behaviour = w.behaviour := by
  obtain ⟨_, _, rfl, _⟩ := h
  rfl

theorem Beside.names : v.names = w.names := by
  obtain ⟨_, _, rfl, _⟩ := h
  rfl

theorem Beside.hosts : v.hosts = w.hosts := by
  obtain ⟨_, _, rfl, _⟩ := h
  rfl

theorem Beside.token (id : String) : v.token id = w.token id := by
  obtain ⟨_, _, rfl, _⟩ := h
  rfl

theorem Beside.canBegin : v.memory.own.canBegin = w.memory.own.canBegin := by
  obtain ⟨_, _, rfl, halike⟩ := h
  exact halike.1

theorem Beside.setToken (id : String) (token : Token) : Beside (w.setToken id token) (v.setToken id token) := by
  obtain ⟨_, _, rfl, halike⟩ := h
  exact ⟨_, _, rfl, halike⟩

end

theorem Beside.note (w : World FormMemory) (e : Entry) : Beside w (w.note e) := ⟨_, _, rfl, .refl _⟩

theorem Beside.mark (w : World FormMemory) (id : Nat) (what : Milestone) : Beside w (w.mark id what) := by
  unfold World.mark
  split
  · exact ⟨_, _, rfl, .refl _⟩
  · exact .refl w

/-- A request that is answered at once and leaves the form alone. -/
def Aside (q : Request FormMemory) : Prop :=
  ∀ w stack, ∃ v signal, Run.perform w stack q = ⟨v, stack, signal⟩ ∧ Beside w v ∧
    ∀ f, signal = .failing f → f.isOrdinary = true

theorem aside_journal (e : Entry) : Aside (.journal e) :=
  fun w _ ↦ ⟨_, _, rfl, .note w e, fun _ h ↦ by cases h⟩

theorem aside_onDesk {change : Desk → Answer × Desk} (h : ∀ d : Desk, d.Alike (change d).2) : Aside (onDesk change) :=
  fun w _ ↦ ⟨_, _, rfl, ⟨_, _, rfl, h w.memory.own⟩, fun _ hf ↦ by cases hf⟩

theorem aside_reach (number : Nat) : Aside (.change (Memory.reach number)) :=
  fun _ _ ↦ ⟨_, _, rfl, ⟨_, _, rfl, .refl _⟩, fun _ h ↦ by cases h⟩

theorem aside_report (name : String) : Aside (.report name) := by
  intro w stack
  cases h : (World.lookup? w.names name).bind w.report with
  | none => exact ⟨w, _, by rw [Run.perform, h]; rfl, .refl w, fun f hf ↦ by cases hf; rfl⟩
  | some r => exact ⟨w, _, by rw [Run.perform, h]; rfl, .refl w, fun f hf ↦ by cases hf⟩

/-! ### Guests -/

/-- Submits an address, or what the input holds, with a token of its own; what is done with the request that sends the
event is left open. -/
def Form.submitting (email : Option Value) (sending : Request FormMemory → Script FormMemory) : Script FormMemory :=
  .call (onDesk fun d ↦ (.value (.tuple [.bool d.canBegin, email.getD d.input]), d)) fun a ↦
    match a with
    | .value (.tuple [.bool true, email]) =>
      .call (onDesk fun d ↦
        let (id, d) := d.nextToken
        (.value (.text id), d)) fun a ↦
      match a with
      | .value (.text id) =>
        .call (.createToken id Form.tokenName) fun _ ↦ sending (.send Form.host (Wish.submit email (.token id)).value)
      | _ => .done
    | _ => .fail (.plain .runtime)

theorem Form.submit_eq (email : Option Value) : Form.submit email = Form.submitting email Script.request := rfl

/-- What a guest requests besides submitting. -/
inductive Visit : Request FormMemory → Prop
  | cancel : Visit (.send Form.host Wish.cancel.value)
  | reset : Visit (.send Form.host Wish.reset.value)
  | close : Visit (.close Form.host)
  | aside {q} (h : Aside q) : Visit q

/-- The scripts of the code around a form, which may catch failures and may fail, though not by an interrupt. -/
inductive Guest : Script FormMemory → Prop
  | done : Guest .done
  | fail {f} (h : f.isOrdinary = true) : Guest (.fail f)
  | call {q next} (h : Visit q) (hnext : ∀ a, Guest (next a)) : Guest (.call q next)
  | attempt {q next} (h : Visit q) (hnext : ∀ o, Guest (next o)) : Guest (.attempt q next)
  | submit {next} (email) (hnext : ∀ a, Guest (next a)) : Guest (Form.submitting email fun q ↦ .call q next)
  | trySubmit {next} (email) (hnext : ∀ o, Guest (next o)) : Guest (Form.submitting email fun q ↦ .attempt q next)

theorem guest_request {q : Request FormMemory} (h : Visit q) : Guest (.request q) := .call h fun _ ↦ .done

theorem guest_submit (email : Option Value) : Guest (Form.submit email) := .submit email fun _ ↦ .done

theorem guest_reset : Guest Form.reset := guest_request .reset

theorem guest_close : Guest Form.close := guest_request .close

theorem guest_setInput (v : Value) : Guest (Form.setInput v) :=
  guest_request (.aside (aside_onDesk fun _ ↦ ⟨rfl, rfl, rfl⟩))

/-! ### Live forms -/

namespace Form

/-- The world in which a submission reports how it ended, with its record of a failure. -/
def reportWorld (f : Form) (n : Nat) (s : Submission) (o : Outcome Value) : World FormMemory :=
  let f := f.changeDesk fun d ↦ { d with current := some n }
  match o with
  | .ok _ => f.world
  | .error e => (f.note (failureRecord s.email e)).world

/-- A submission reports how it ended. -/
def reporting (f : Form) (n : Nat) (s : Submission) (o : Outcome Value) : Run FormMemory :=
  .script (f.reportWorld n s o) [] (send (reported o))

/-- A submission that has something to report and is not cancelled. -/
structure Reports (f : Form) (n : Nat) (s : Submission) (o : Outcome Value) : Prop where
  found : f.desk.submissions[n]? = some s
  unfinished : s.isFinished = false
  free : f.isCancelled s.token = .ok false
  ordinary : ∀ e, o = .error e → e.isOrdinary = true

/-- The runs that go on from a form: those of guests, and those of submissions that report. -/
inductive UnderWay (f : Form) : Option (Nat × Submission × Outcome Value) → Run FormMemory → Prop
  | call {script} (h : Guest script) : UnderWay f none (.script f.world [] script)
  | report {n s o} (h : f.Reports n s o) : UnderWay f (some (n, s, o)) (f.reporting n s o)
  | step {who? r} (h : UnderWay f who? r) : UnderWay f who? r.step

/-- A form whose creation has come to an end, and what may have become of it between calls: guests visit it, and each
of its submissions ends once, in any order and in any way. -/
inductive Live (named : String → Published → Script FormMemory) (sink : Sink) : Form → Prop
  | created {submitter onChange f} (h : create submitter sink true onChange named = (f, .ok ()))
    (hshown : f.current?.isSome = true) : Live named sink f
  | called {f script} (h : Live named sink f) (hscript : Guest script) : Live named sink (f.play script).1
  | ended {f n s} (h : Live named sink f) (hs : f.desk.submissions[n]? = some s) (hopen : s.isFinished = false)
    (outcome : Option (Outcome Value)) : Live named sink (f.finish n s outcome).1
  | apart {f g} (h : Live named sink f) (hbeside : Beside f.world g.world) : Live named sink g

/-! ### The order in which submissions go on -/

namespace Live

variable {named : String → Published → Script FormMemory} {sink : Sink} {f : Form}

theorem changeDesk {change : Desk → Desk} (h : Live named sink f) (hchange : ∀ d : Desk, d.Alike (change d)) :
    Live named sink (f.changeDesk change) := .apart h ⟨_, _, rfl, hchange f.desk⟩

theorem note (h : Live named sink f) (e : Entry) : Live named sink (f.note e) := .apart h (.note f.world e)

theorem follow (h : Live named sink f) {n : Nat} {s : Submission} (hs : f.desk.submissions[n]? = some s)
    (hopen : s.isFinished = false) (course : Course) : Live named sink (f.follow n s course).1 := by
  have hwait : Live named sink (f.changeDesk (·.update n fun s ↦ { s with phase := .waiting course })) :=
    h.changeDesk fun d ↦ d.alike_update n fun _ ↦ rfl
  unfold Form.follow
  split
  · exact .ended h hs hopen _
  · split
    · exact .ended h hs hopen _
    · exact hwait

theorem records (h : Live named sink f) {n : Nat} {s : Submission} (hs : f.desk.submissions[n]? = some s)
    (entries : List Entry) :
    Live named sink (entries.foldl Form.note f) ∧ (entries.foldl Form.note f).desk.submissions[n]? = some s := by
  induction entries generalizing f with
  | nil => exact ⟨h, hs⟩
  | cons e rest ih => exact ih (h.note e) hs

/-- A submission goes on: it asks, waits, or ends. -/
theorem advance (h : Live named sink f) {n : Nat} {s : Submission} (hs : f.desk.submissions[n]? = some s) :
    Live named sink (f.advance n s).1 := by
  unfold Form.advance
  split
  · exact h
  · next hphase _ => exact .ended h hs (by simp [Submission.isFinished, hphase]) none
  · next hphase _ =>
    obtain ⟨hlive, hfound⟩ := h.records hs (f.submitter.records s.email)
    let asked := (f.submitter.records s.email).foldl Form.note f
    have hasked : Live named sink { asked with submitter := asked.submitter.ask.1 } := .apart hlive (.refl _)
    exact hasked.follow hfound (by simp [Submission.isFinished, hphase]) asked.submitter.ask.2
  · next course hphase _ => exact .ended (h.note _) hs (by simp [Submission.isFinished, hphase]) course.whenAborted
  · next course hphase _ => exact h.follow hs (by simp [Submission.isFinished, hphase]) course

theorem settleFor (h : Live named sink f) (fuel : Nat) : Live named sink (settleFor fuel f).1 := by
  induction fuel generalizing f with
  | zero => exact h
  | succ fuel ih =>
    unfold Form.settleFor
    split
    · exact h
    · next n rest hready =>
      have htaken : Live named sink (f.changeDesk fun d ↦ { d with ready := rest }) :=
        h.changeDesk fun _ ↦ ⟨rfl, rfl, rfl⟩
      simp only
      split
      · exact ih htaken
      · next s hs =>
        have hadvanced := htaken.advance hs
        split
        · next g hg => rw [hg] at hadvanced; exact ih hadvanced
        · next g e hg => rw [hg] at hadvanced; exact hadvanced

/-- A form stays live when its submissions go on. -/
theorem settle (h : Live named sink f) : Live named sink f.settle.1 := h.settleFor turns

theorem openGate (h : Live named sink f) (gate : String) : Live named sink (f.openGate gate) := by
  have hopened : Live named sink { f with gates := gate :: f.gates } := .apart h (.refl _)
  exact hopened.changeDesk fun d ↦ d.alike_openGate gate

theorem closeAll (h : Live named sink f) : Live named sink f.closeAll.1 := by
  have hclosed : Live named sink (f.play close).1 := .called h guest_close
  rcases hplay : f.play close with ⟨g, outcome⟩
  rw [hplay] at hclosed
  simp only [Form.closeAll, hplay]
  cases outcome with
  | ok _ => exact .apart hclosed (.refl _)
  | error e => exact hclosed

end Live

end Form

end Statechart.Newsletter
