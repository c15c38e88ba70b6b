import Statechart.Newsletter.Form
import Statechart.Proofs.Equality
import Statechart.Proofs.Transition

/-!
# The chart of the signup machine

What the signup machine does with an event, for any context that is a signup: which state follows, with which context
and which effects (`Handles`). This depends on the name of the event, on whether a submission is under way and, for a
submission, on its address. A state is at rest unless a submission is under way in it. Leaving the state of a submission
keeps the token of the context and has its cancellation as the first effect; entering it takes the token of the event
and has the start of the submission as the only effect. The events of a form are wishes and reports (`transition_wish`,
`transition_reported`).
-/

set_option autoImplicit false
set_option relaxedAutoImplicit false

namespace Statechart

variable {σ : Type}

/-- The event is one of a name, given as a text or as a symbol. -/
def Event.Is (event : Event) (name : String) : Prop := event.kind.asText? = some name

/-- An event has one name. -/
theorem Event.Is.unique {e : Event} {name other : String} (h : e.Is name) (hother : e.Is other) : name = other :=
  Option.some.inj (h.symm.trans hother)

namespace Newsletter

/-- What is asked of the machine from outside. -/
inductive Wish where
  | submit (email token : Value)
  | cancel
  | reset

namespace Wish

def event : Wish → Event
  | .submit email token => ⟨submitEvent, [(.text "email", email), (.text "token", token)]⟩
  | .cancel => ⟨cancelEvent, []⟩
  | .reset => ⟨resetEvent, []⟩

/-- The name of the event. -/
def name : Wish → String
  | .submit _ _ => "SUBMIT"
  | .cancel => "CANCEL"
  | .reset => "RESET"

theorem is_name (wish : Wish) : wish.event.Is wish.name := by
  cases wish <;> rfl

/-- The value that is sent for a wish. -/
def value : Wish → Value
  | .submit email token => Form.event submitEvent [("email", email), ("token", token)]
  | .cancel => cancelEvent
  | .reset => resetEvent

theorem ofValue_value (wish : Wish) : Event.ofValue wish.value = .ok wish.event := by
  cases wish <;> rfl

end Wish

/-- The value with which a submission reports how it ended. -/
def reported : Outcome Value → Value
  | .ok message => Form.event logSuccessEvent [("message", message)]
  | .error e => Form.event logErrorEvent [("message", .text e.said)]

/-- The event with which a submission reports how it ended. -/
def reportedEvent : Outcome Value → Event
  | .ok message => ⟨logSuccessEvent, [(.text "message", message)]⟩
  | .error e => ⟨logErrorEvent, [(.text "message", .text e.said)]⟩

theorem ofValue_reported (o : Outcome Value) : Event.ofValue (reported o) = .ok (reportedEvent o) := by
  cases o <;> rfl

/-- The state in which a submission leaves the machine. -/
def endedIn : Outcome Value → Value
  | .ok _ => success
  | .error _ => failed

/-- What a submission leaves of a signup. -/
def Signup.ended (c : Signup) : Outcome Value → Signup
  | .ok message => { c with data := message, error := .null }
  | .error e => { c with data := .null, error := .text e.said }

/-- What a submission leaves of the input. -/
def endedInput (input : Value) : Outcome Value → Value
  | .ok _ => .text ""
  | .error _ => input

/-- An event that reports how a submission ended. -/
def isResult (event : Event) : Bool := event.kind.same logSuccessEvent || event.kind.same logErrorEvent

theorem isResult_event (wish : Wish) : isResult wish.event = false := by
  cases wish <;> rfl

/-- The states in which no submission is under way. -/
def atRest : List Value := [notSubmitted, success, failed]

theorem endedIn_atRest (o : Outcome Value) : endedIn o ∈ atRest := by
  cases o with
  | ok _ => simp [endedIn, atRest]
  | error _ => simp [endedIn, atRest]

theorem submitting_not_atRest : submitting ∉ atRest := by
  simp [atRest, submitting, notSubmitted, success, failed]

theorem ne_submitting_of_atRest {value : Value} (h : value ∈ atRest) : value ≠ submitting := by
  rintro rfl
  exact submitting_not_atRest h

/-- The effect of an action that is one. -/
def clearing (clear : Callee σ) : Effect σ := ⟨"clearInput", clear⟩

def starting (start : Callee σ) : Effect σ := ⟨"startSubmission", start⟩

/-- The effect that cancels the token of the context. -/
def cancelling : Effect σ :=
  ⟨"cancelSubmission", .effect (some "_cancel_submission") fun context event ↦
    match field context "token" with
    | .error f => .fail f
    | .ok .null => .done
    | .ok (.token id) => .request (.cancel id (.text ("left " ++ submitting.shown ++ " on " ++ event.kind.shown)))
    | .ok _ => .fail (.plain .missingAttribute)⟩

theorem field_token (c : Signup) : field c.toValue "token" = .ok c.token := rfl

section

variable (start clear : Callee σ) (sink : Sink)

/-- The machine of a form calls nothing while it computes a state. -/
theorem silent_machine : (machine start (some clear) sink).Silent := by
  have hentry (e : Effect σ) : ∀ a ∈ [Action.effect e], a.Silent := by
    intro a ha
    rw [List.mem_singleton.mp ha]
    exact Action.silent_effect e
  have hassign (name : String) (body : Value → Event → Outcome Value) : (assign name body : Action σ).Silent :=
    Action.silent_function (some name) body
  have hresting : ∀ q ∈ (resting (optionalEffect "clearInput" (some clear))).on, (∀ a ∈ q.2.actions, a.Silent) ∧
      ∀ guard ∈ q.2.guard, ∀ context event, guard.calls context event = .done := by
    intro q hq
    simp only [resting, List.mem_cons, List.not_mem_nil, or_false] at hq
    rcases hq with rfl | rfl
    · simp only [submit, List.mem_singleton, forall_eq, Option.mem_def, Option.some.injEq, forall_eq']
      exact ⟨hassign _ _, fun _ _ ↦ rfl⟩
    · simp only [reset, List.mem_cons, List.not_mem_nil, or_false, forall_eq_or_imp, forall_eq]
      exact ⟨⟨Action.silent_effect _, hassign _ _⟩, by simp⟩
  intro p hp
  simp only [machine, List.mem_cons, List.not_mem_nil, or_false] at hp
  rcases hp with rfl | rfl | rfl | rfl
  · exact ⟨by simp [resting], hresting⟩
  · refine ⟨?_, ?_⟩
    · simp only [List.cons_append, List.nil_append, List.mem_cons, List.not_mem_nil, or_false, forall_eq_or_imp,
        forall_eq]
      exact ⟨Action.silent_effect _, Action.silent_effect _⟩
    · simp only [List.mem_cons, List.not_mem_nil, or_false, forall_eq_or_imp, forall_eq]
      exact ⟨⟨⟨hassign _ _, Action.silent_effect _⟩, by simp⟩,
        ⟨⟨Action.silent_effect _, hassign _ _⟩, by simp⟩, ⟨by simp, by simp⟩⟩
  · exact ⟨by simp [resting], hresting⟩
  · exact ⟨by simp [resting], hresting⟩

end

/-! ### What becomes of an event -/

/-- The value and the context after an event, and the effects that are left to perform. -/
inductive Handles (start clear : Callee σ) (sink : Sink) (s : State σ) (c : Signup) (e : Event) : State σ → Prop
  | ignores (hresting : s.value ∈ atRest → ¬ e.Is "RESET" ∧ (e.Is "SUBMIT" → hasEmail e = false))
      (hsubmitting : s.value = submitting → ¬ e.Is "LOG_ERROR" ∧ ¬ e.Is "LOG_SUCCESS" ∧ ¬ e.Is "CANCEL") :
      Handles start clear sink s c e ⟨s.value, c.toValue, [], false⟩
  | submits (hs : s.value ∈ atRest) (hkind : e.Is "SUBMIT") (hemail : hasEmail e = true) :
      Handles start clear sink s c e
        ⟨submitting, { c with email := e.payload "email", token := e.payload "token" }.toValue, [starting start], true⟩
  | resets (hs : s.value ∈ atRest) (hkind : e.Is "RESET") :
      Handles start clear sink s c e ⟨notSubmitted, Signup.toValue {}, [clearing clear], true⟩
  | fails {log} (hs : s.value = submitting) (hkind : e.Is "LOG_ERROR") (hlog : logError sink = .effect log) :
      Handles start clear sink s c e
        ⟨failed, { c with data := .null, error := e.payload "message" }.toValue, [cancelling, log], true⟩
  | succeeds (hs : s.value = submitting) (hkind : e.Is "LOG_SUCCESS") :
      Handles start clear sink s c e
        ⟨success, { c with data := e.payload "message", error := .null }.toValue, [cancelling, clearing clear], true⟩
  | cancels (hs : s.value = submitting) (hkind : e.Is "CANCEL") :
      Handles start clear sink s c e ⟨notSubmitted, c.toValue, [cancelling], true⟩

section

variable {start clear : Callee σ} {sink : Sink} {s next : State σ} {c : Signup} {e : Event}

/-- A kind of event is one of the machine's exactly if it has its name. -/
theorem event_alike (hkey : e.kind.isKey = true) (name : String) :
    (event name).alike e.kind = (e.kind.asText? == some name) := by
  rw [Bool.eq_iff_iff, beq_iff_eq]
  exact ⟨fun h ↦ Value.asText?_of_isKey h hkey rfl, Value.alike_of_asText? rfl⟩

/-- The address that lets a submission pass is an item of the event. -/
theorem item_of_hasEmail (h : hasEmail e = true) : e.item (.text "email") = .ok (e.payload "email") := by
  cases hfound : Entries.find? e.data (.text "email") with
  | none =>
    have hnone : e.payload "email" = .null := by simp [Event.payload, Entries.get?, hfound]
    rw [hasEmail, hnone] at h
    cases h
  | some v => simp [Event.item, Event.payload, Entries.get?, hfound, Value.isKey]

/-- An address that lets a submission pass is a text that is not blank. -/
theorem text_of_hasEmail (h : hasEmail e = true) :
    ∃ text, (e.payload "email").asText? = some text ∧ (Text.trim text).isEmpty = false := by
  unfold hasEmail at h
  split at h
  · next text htext => exact ⟨text, htext, by simpa using h⟩
  · cases h

/-- Of transitions that stand under names, a node takes the first one under the name of the event. -/
theorem reaction_named (hkey : e.kind.isKey = true) (transitions : List (String × Transition σ))
    (entry exit : List (Action σ)) : Machine.reaction ⟨transitions.map fun p ↦ (event p.1, p.2), entry, exit⟩ e.kind =
      .ok (e.kind.asText?.bind (transitions.lookup ·)) := by
  rw [Machine.reaction, if_pos hkey]
  refine congrArg Except.ok ?_
  induction transitions with
  | nil => cases e.kind.asText? <;> rfl
  | cons p rest ih =>
    obtain ⟨name, t⟩ := p
    simp only [Entries.find?, List.map_cons, List.find?_cons, event_alike hkey] at ih ⊢
    cases htext : e.kind.asText? with
    | none => simpa [htext] using ih
    | some text =>
      by_cases hname : text = name
      · simp [hname]
      · have hother : (text == name) = false := by simpa using hname
        simpa [htext, hother, List.lookup_cons] using ih

/-- A node without a transition for the name of an event does not react. -/
theorem lookup_eq_none {α : Type} {entries : List (String × α)} (h : ∀ p ∈ entries, ¬ e.Is p.1) :
    e.kind.asText?.bind (entries.lookup ·) = none := by
  cases htext : e.kind.asText? with
  | none => rfl
  | some text =>
    rw [Option.bind_some, List.lookup_eq_none_iff]
    intro p hp
    have hother : text ≠ p.1 := fun hsame ↦ h p hp (hsame ▸ htext)
    simpa using hother

theorem node_of_atRest {value : Value} (h : value ∈ atRest) :
    (machine start (some clear) sink).node value = .ok (resting (optionalEffect "clearInput" (some clear))) := by
  simp only [atRest, List.mem_cons, List.not_mem_nil, or_false] at h
  rcases h with rfl | rfl | rfl <;> rfl

/-- What becomes of any event in a state at rest. -/
theorem handles_of_atRest (hvalue : s.value ∈ atRest) (hcontext : s.context = c.toValue)
    (hkey : e.kind.isKey = true) :
    ∃ next, (machine start (some clear) sink).transition s e = .ok next ∧ Handles start clear sink s c e next := by
  have hnode : (machine start (some clear) sink).node s.value = _ := node_of_atRest hvalue
  have ht := reaction_named hkey [("SUBMIT", submit), ("RESET", reset (optionalEffect "clearInput" (some clear)))] [] []
  have hne : s.value ≠ submitting := ne_submitting_of_atRest hvalue
  by_cases hsubmit : e.Is "SUBMIT"
  · have hother : ¬ e.Is "RESET" := fun hreset ↦ absurd (hsubmit.unique hreset) (by decide)
    rw [hsubmit] at ht
    have hallows : (submit : Transition σ).allows s.context e = .ok (hasEmail e) := rfl
    cases hemail : hasEmail e with
    | false =>
      rw [hemail] at hallows
      exact ⟨_, hcontext ▸ Machine.transition_of_refused hnode ht hallows,
        .ignores (fun _ ↦ ⟨hother, fun _ ↦ hemail⟩) fun h ↦ absurd h hne⟩
    | true =>
      rw [hemail] at hallows
      have hparts : Action.partition s.context e ([] ++ submit.actions ++ [.effect ⟨"startSubmission", start⟩]) =
          .ok ({ c with email := e.payload "email", token := e.payload "token" }.toValue, [starting start]) := by
        simp only [hcontext, submit, assign, List.nil_append, List.cons_append, Action.partition, Callee.apply,
          takeSubmission, item_of_hasEmail hemail]
        rfl
      exact ⟨_, Machine.transition_of_allowed hnode ht hallows rfl hparts, .submits hvalue hsubmit hemail⟩
  · by_cases hreset : e.Is "RESET"
    · rw [hreset] at ht
      exact ⟨_, Machine.transition_of_allowed hnode ht rfl rfl rfl, .resets hvalue hreset⟩
    · rw [lookup_eq_none (by simp [hsubmit, hreset])] at ht
      exact ⟨_, hcontext ▸ Machine.transition_of_none hnode ht,
        .ignores (fun _ ↦ ⟨hreset, fun h ↦ absurd h hsubmit⟩) fun h ↦ absurd h hne⟩

/-- The ways out of the state of a submission, under the names of their events. -/
def endings (clear : Callee σ) (sink : Sink) : List (String × Transition σ) := [
  ("LOG_ERROR", ⟨some failed, none, [assign "_record_error" recordError, logError sink]⟩),
  ("LOG_SUCCESS", ⟨some success, none, [optionalEffect "clearInput" (some clear),
    assign "_record_success" recordSuccess]⟩),
  ("CANCEL", ⟨some notSubmitted, none, []⟩)]

/-- What becomes of any event while a submission is under way. -/
theorem handles_of_submitting (hvalue : s.value = submitting) (hcontext : s.context = c.toValue)
    (hkey : e.kind.isKey = true) :
    ∃ next, (machine start (some clear) sink).transition s e = .ok next ∧ Handles start clear sink s c e next := by
  have hnode : (machine start (some clear) sink).node s.value =
      .ok ⟨(endings clear sink).map fun p ↦ (event p.1, p.2), [.effect ⟨"startSubmission", start⟩],
        [cancelSubmission]⟩ := by
    rw [hvalue]
    rfl
  have ht := reaction_named hkey (endings clear sink) [.effect ⟨"startSubmission", start⟩] [cancelSubmission]
  by_cases herror : e.Is "LOG_ERROR"
  · rw [herror] at ht
    exact ⟨_, Machine.transition_of_allowed hnode ht rfl rfl (by rw [hcontext]; rfl), .fails hvalue herror rfl⟩
  · by_cases hsuccess : e.Is "LOG_SUCCESS"
    · rw [hsuccess] at ht
      exact ⟨_, Machine.transition_of_allowed hnode ht rfl rfl (by rw [hcontext]; rfl), .succeeds hvalue hsuccess⟩
    · by_cases hcancel : e.Is "CANCEL"
      · rw [hcancel] at ht
        exact ⟨_, Machine.transition_of_allowed hnode ht rfl rfl (by rw [hcontext]; rfl), .cancels hvalue hcancel⟩
      · rw [lookup_eq_none (by simp [endings, herror, hsuccess, hcancel])] at ht
        exact ⟨_, hcontext ▸ Machine.transition_of_none hnode ht,
          .ignores (fun h ↦ absurd hvalue (ne_submitting_of_atRest h)) fun _ ↦ ⟨herror, hsuccess, hcancel⟩⟩

/-- Every event whose kind can be a key is handled. -/
theorem exists_handles (start clear : Callee σ) (sink : Sink) (hvalue : s.value = submitting ∨ s.value ∈ atRest)
    (hcontext : s.context = c.toValue) (hkey : e.kind.isKey = true) :
    ∃ next, (machine start (some clear) sink).transition s e = .ok next ∧ Handles start clear sink s c e next :=
  hvalue.elim (handles_of_submitting · hcontext hkey) (handles_of_atRest · hcontext hkey)

/-- What follows a state is what becomes of the event. -/
theorem handles_of_transition (hvalue : s.value = submitting ∨ s.value ∈ atRest) (hcontext : s.context = c.toValue)
    (h : (machine start (some clear) sink).transition s e = .ok next) : Handles start clear sink s c e next := by
  obtain ⟨next', hnext, hhandles⟩ := exists_handles start clear sink hvalue hcontext (Machine.isKey_of_transition h)
  cases h.symm.trans hnext
  exact hhandles

end

/-! ### Wishes and reports -/

section

variable (start clear : Callee σ) (sink : Sink) {s : State σ} {c : Signup}

/-- What a wish leads to: nothing new, a cleared signup, the start of a submission or its cancellation. -/
theorem transition_wish (hvalue : s.value = submitting ∨ s.value ∈ atRest) (hcontext : s.context = c.toValue)
    (wish : Wish) :
    ∃ next d, (machine start (some clear) sink).transition s wish.event = .ok next ∧
      next.context = Signup.toValue d ∧
      ((next.actions = [] ∧ next.value = s.value ∧ d = c) ∨
        (next.actions = [clearing clear] ∧ s.value ∈ atRest ∧ next.value ∈ atRest) ∨
        (next.actions = [starting start] ∧ s.value ∈ atRest ∧ next.value = submitting ∧
          ∃ email, wish = .submit email d.token) ∨
        (next.actions = [cancelling] ∧ s.value = submitting ∧ next.value ∈ atRest ∧ d.token = c.token)) := by
  have hkey : wish.event.kind.isKey = true := by cases wish <;> rfl
  obtain ⟨next, hnext, hhandles⟩ := exists_handles start clear sink hvalue hcontext hkey
  cases hhandles with
  | ignores => exact ⟨_, c, hnext, rfl, .inl ⟨rfl, rfl, rfl⟩⟩
  | submits hs hkind =>
    have hname := hkind.unique wish.is_name
    cases wish with
    | submit email token => exact ⟨_, _, hnext, rfl, .inr (.inr (.inl ⟨rfl, hs, rfl, email, rfl⟩))⟩
    | cancel | reset => exact absurd hname (by decide)
  | resets hs => exact ⟨_, {}, hnext, rfl, .inr (.inl ⟨rfl, hs, by simp [atRest]⟩)⟩
  | fails _ hkind | succeeds _ hkind =>
    have hname := hkind.unique wish.is_name
    cases wish <;> simp [Wish.name] at hname
  | cancels hs => exact ⟨_, c, hnext, rfl, .inr (.inr (.inr ⟨rfl, hs, by simp [atRest], rfl⟩))⟩

/-- What a report leads to: a success with its message and a cleared input, or an error with its text. -/
theorem transition_reported (hvalue : s.value = submitting) (hcontext : s.context = c.toValue) (o : Outcome Value) :
    ∃ next, (machine start (some clear) sink).transition s (reportedEvent o) = .ok next ∧ next.value = endedIn o ∧
      next.context = (c.ended o).toValue ∧
      match o with
      | .ok _ => next.actions = [cancelling, clearing clear]
      | .error _ => ∃ log, logError sink = .effect log ∧ next.actions = [cancelling, log] := by
  obtain ⟨value, context, actions, changed⟩ := s
  subst hcontext hvalue
  cases o with
  | ok message => exact ⟨_, rfl, rfl, rfl, rfl⟩
  | error e => exact ⟨_, rfl, rfl, rfl, _, rfl, rfl⟩

end

end Newsletter

end Statechart
