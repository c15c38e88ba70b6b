import Statechart.Proofs.Newsletter.Release

/-!
# What a signup holds

A signup machine handles whatever events occur, one after the other (`Machine.Trace`). From what becomes of each of
them (`Handles`) it follows what the machine accepts and ignores, and when it starts a submission (`Conduct`). The
context holds a message or an error, never both, and the address that was submitted last (`Contents`): this is preserved
by every event (`Contents.step`), although a submission and its cancellation leave an old message or error where it is.
-/

set_option autoImplicit false
set_option relaxedAutoImplicit false

namespace Statechart

variable {σ : Type}

/-! ### Steps of a machine -/

namespace Machine

/-- An event that a machine handles, with the states before and after it. -/
structure Step (σ : Type) where
  source : State σ
  event : Event
  next : State σ

/-- A machine handles events one after the other, from a first state on. -/
inductive Trace (m : Machine σ) (first : State σ) : List (Step σ) → State σ → Prop
  | refl : Trace m first [] first
  | snoc {steps s event next} (h : Trace m first steps s) (hnext : m.transition s event = .ok next) :
      Trace m first (steps ++ [⟨s, event, next⟩]) next

/-- A trace is a fold of the transition function. -/
theorem Trace.foldlM {m : Machine σ} {first s : State σ} {steps : List (Step σ)} (h : m.Trace first steps s) :
    (steps.map Step.event).foldlM m.transition first = .ok s := by
  induction h with
  | refl => rfl
  | snoc h hnext ih =>
    rw [List.map_append, List.foldlM_append, ih, ok_bind, List.map_singleton, List.foldlM_cons, hnext]
    rfl

namespace Step

/-- The event leaves value and context as they are, and nothing is left to perform. -/
structure Ignored (x : Step σ) : Prop where
  value : x.next.value = x.source.value
  context : x.next.context = x.source.context
  actions : x.next.actions = []
  changed : x.next.changed = false

/-- An event of a name is accepted. -/
def Accepts (x : Step σ) (name : String) : Prop := x.event.Is name ∧ x.next.changed = true

end Step

end Machine

/-- An item is the last one of a list that is as told. -/
def Latest {α : Type} (p : α → Prop) (xs : List α) (x : α) : Prop :=
  ∃ before after, xs = before ++ x :: after ∧ p x ∧ ∀ y ∈ after, ¬ p y

namespace Latest

variable {α : Type} {p : α → Prop} {xs : List α} {x y : α}

theorem of_last (xs : List α) (h : p x) : Latest p (xs ++ [x]) x := ⟨xs, [], rfl, h, nofun⟩

theorem snoc (h : Latest p xs x) (hy : ¬ p y) : Latest p (xs ++ [y]) x := by
  obtain ⟨before, after, rfl, hx, hafter⟩ := h
  refine ⟨before, after ++ [y], by simp, hx, fun z hz ↦ ?_⟩
  rcases List.mem_append.mp hz with hz | hz
  · exact hafter z hz
  · exact List.mem_singleton.mp hz ▸ hy

end Latest

namespace Newsletter

/-! ### Single steps -/

/-- What the machine does in a step: which events it ignores and accepts where, that it starts a submission once for
each one that it accepts, and at no other time. -/
structure Conduct (start : Callee σ) (x : Machine.Step σ) : Prop where
  underway : x.source.value = submitting → x.event.Is "SUBMIT" ∨ x.event.Is "RESET" → x.Ignored
  resting : x.source.value ≠ submitting →
    x.event.Is "LOG_SUCCESS" ∨ x.event.Is "LOG_ERROR" ∨ x.event.Is "CANCEL" → x.Ignored
  submit : x.source.value ≠ submitting → x.event.Is "SUBMIT" → (x.next.changed = true ↔ hasEmail x.event = true)
  reset : x.source.value ≠ submitting → x.event.Is "RESET" → x.next.changed = true
  cleared : x.Accepts "RESET" → x.next.context = Signup.toValue {}
  started : x.Accepts "SUBMIT" → x.next.actions.filter (·.kind == "startSubmission") = [starting start]
  unstarted : ¬ x.Accepts "SUBMIT" → x.next.actions.filter (·.kind == "startSubmission") = []

section

variable {start clear : Callee σ} {sink : Sink} {s next : State σ} {c : Signup} {e : Event}
  {steps : List (Machine.Step σ)}

theorem Handles.conduct (h : Handles start clear sink s c e next) (hvalue : s.value = submitting ∨ s.value ∈ atRest)
    (hcontext : s.context = c.toValue) : Conduct start ⟨s, e, next⟩ where
  underway hs hkind := by
    cases h with
    | ignores => exact ⟨rfl, hcontext.symm, rfl, rfl⟩
    | submits hrest | resets hrest => exact absurd hs (ne_submitting_of_atRest hrest)
    | fails _ hname | succeeds _ hname | cancels _ hname =>
      rcases hkind with hkind | hkind <;> exact absurd (hkind.unique hname) (by decide)
  resting hs hkind := by
    cases h with
    | ignores => exact ⟨rfl, hcontext.symm, rfl, rfl⟩
    | submits _ hname | resets _ hname =>
      rcases hkind with hkind | hkind | hkind <;> exact absurd (hkind.unique hname) (by decide)
    | fails hunderway | succeeds hunderway | cancels hunderway => exact absurd hunderway hs
  submit hs hkind := by
    cases h with
    | ignores hresting => simp [(hresting (hvalue.resolve_left hs)).2 hkind]
    | submits _ _ hemail => simp [hemail]
    | resets _ hname => exact absurd (hkind.unique hname) (by decide)
    | fails hunderway | succeeds hunderway | cancels hunderway => exact absurd hunderway hs
  reset hs hkind := by
    cases h with
    | ignores hresting => exact absurd hkind (hresting (hvalue.resolve_left hs)).1
    | _ => rfl
  cleared haccepted := by
    obtain ⟨hkind, hchanged⟩ := haccepted
    cases h with
    | ignores => cases hchanged
    | resets => rfl
    | submits _ hname | fails _ hname | succeeds _ hname | cancels _ hname =>
      exact absurd (hkind.unique hname) (by decide)
  started haccepted := by
    obtain ⟨hkind, hchanged⟩ := haccepted
    cases h with
    | ignores => cases hchanged
    | submits => rfl
    | resets _ hname | fails _ hname | succeeds _ hname | cancels _ hname =>
      exact absurd (hkind.unique hname) (by decide)
  unstarted hrefused := by
    cases h with
    | submits _ hname => exact absurd ⟨hname, rfl⟩ hrefused
    | fails _ _ hlog =>
      cases hlog
      rfl
    | _ => rfl

/-! ### The context -/

/-- What a signup holds after some steps of its machine: a message or an error, in the states that are named for them
the one with which they were entered, and the address that was submitted last, unless nothing was submitted. -/
structure Contents (steps : List (Machine.Step σ)) (s : State σ) (c : Signup) : Prop where
  context : s.context = c.toValue
  value : s.value = submitting ∨ s.value ∈ atRest
  exclusive : c.data = .null ∨ c.error = .null
  succeeded : s.value = success → c.error = .null ∧ ∃ x, Latest (·.next.changed = true) steps x ∧
    x.source.value = submitting ∧ x.next.value = success ∧ x.event.Is "LOG_SUCCESS" ∧ c.data = x.event.payload "message"
  broke : s.value = failed → c.data = .null ∧ ∃ x, Latest (·.next.changed = true) steps x ∧
    x.source.value = submitting ∧ x.next.value = failed ∧ x.event.Is "LOG_ERROR" ∧ c.error = x.event.payload "message"
  address : s.value ∈ [submitting, success, failed] →
    (∃ text, c.email.asText? = some text ∧ (Text.trim text).isEmpty = false) ∧
      ∃ x, Latest (·.Accepts "SUBMIT") steps x ∧ x.event.item (.text "email") = .ok c.email

/-- Where nothing was submitted, a message and an error still exclude each other. -/
theorem Contents.of_notSubmitted (hcontext : s.context = c.toValue) (hvalue : s.value = notSubmitted)
    (hexclusive : c.data = .null ∨ c.error = .null) : Contents steps s c where
  context := hcontext
  value := .inr (by simp [hvalue, atRest])
  exclusive := hexclusive
  succeeded h := by simp [hvalue, notSubmitted, success] at h
  broke h := by simp [hvalue, notSubmitted, failed] at h
  address h := by simp [hvalue, notSubmitted, submitting, success, failed] at h

/-- Every event preserves what a signup holds. -/
theorem Contents.step (h : Contents steps s c) (hnext : Handles start clear sink s c e next) :
    ∃ d, Contents (steps ++ [⟨s, e, next⟩]) next d := by
  -- an event of another name than a submission leaves the address where it is
  have haddress {name : String} (hkind : e.Is name) (hname : name ≠ "SUBMIT") (hs : s.value = submitting) :
      (∃ text, c.email.asText? = some text ∧ (Text.trim text).isEmpty = false) ∧
        ∃ x, Latest (·.Accepts "SUBMIT") (steps ++ [⟨s, e, next⟩]) x ∧ x.event.item (.text "email") = .ok c.email := by
    obtain ⟨htext, x, hlatest, hitem⟩ := h.address (by simp [hs])
    exact ⟨htext, x, hlatest.snoc fun haccepted ↦ hname (hkind.unique haccepted.1), hitem⟩
  cases hnext with
  | ignores =>
    refine ⟨c, rfl, h.value, h.exclusive, fun hs ↦ ?_, fun hs ↦ ?_, fun hs ↦ ?_⟩
    · obtain ⟨herror, x, hlatest, hx⟩ := h.succeeded hs
      exact ⟨herror, x, hlatest.snoc (by simp), hx⟩
    · obtain ⟨hdata, x, hlatest, hx⟩ := h.broke hs
      exact ⟨hdata, x, hlatest.snoc (by simp), hx⟩
    · obtain ⟨htext, x, hlatest, hitem⟩ := h.address hs
      exact ⟨htext, x, hlatest.snoc (by simp [Machine.Step.Accepts]), hitem⟩
  | submits hs hkind hemail =>
    refine ⟨_, rfl, .inl rfl, h.exclusive, fun hs ↦ ?_, fun hs ↦ ?_, fun _ ↦ ⟨text_of_hasEmail hemail, ?_⟩⟩
    · simp [submitting, success] at hs
    · simp [submitting, failed] at hs
    · exact ⟨_, .of_last steps ⟨hkind, rfl⟩, item_of_hasEmail hemail⟩
  | fails hs hkind hlog =>
    refine ⟨_, rfl, .inr (by simp [atRest]), .inl rfl, fun hs' ↦ ?_, fun _ ↦ ⟨rfl, ?_⟩, fun _ ↦ ?_⟩
    · simp [failed, success] at hs'
    · exact ⟨_, .of_last steps rfl, hs, rfl, hkind, rfl⟩
    · exact haddress hkind (by decide) hs
  | succeeds hs hkind =>
    refine ⟨_, rfl, .inr (by simp [atRest]), .inr rfl, fun _ ↦ ⟨rfl, ?_⟩, fun hs' ↦ ?_, fun _ ↦ ?_⟩
    · exact ⟨_, .of_last steps rfl, hs, rfl, hkind, rfl⟩
    · simp [failed, success] at hs'
    · exact haddress hkind (by decide) hs
  | resets => exact ⟨{}, .of_notSubmitted rfl rfl (.inl rfl)⟩
  | cancels => exact ⟨c, .of_notSubmitted rfl rfl h.exclusive⟩

/-- Whatever events follow, they are handled one after the other, and what a signup holds is preserved. -/
theorem Contents.run {first : State σ} {events : List Event} (h : Contents steps s c)
    (htrace : (machine start (some clear) sink).Trace first steps s) (hconduct : ∀ x ∈ steps, Conduct start x)
    (hkeys : ∀ e ∈ events, e.kind.isKey = true) :
    ∃ more final d, (machine start (some clear) sink).Trace first (steps ++ more) final ∧
      more.map Machine.Step.event = events ∧ Contents (steps ++ more) final d ∧
      ∀ x ∈ steps ++ more, Conduct start x := by
  induction events generalizing steps s c with
  | nil => exact ⟨[], s, c, by simpa using htrace, rfl, by simpa using h, by simpa using hconduct⟩
  | cons e rest ih =>
    obtain ⟨hkey, hrest⟩ := List.forall_mem_cons.mp hkeys
    obtain ⟨next, hnext, hhandles⟩ := exists_handles start clear sink h.value h.context hkey
    obtain ⟨d, hd⟩ := h.step hhandles
    have hlast := hhandles.conduct h.value h.context
    obtain ⟨more, final, d', htrace', hmore, hfinal, hconduct'⟩ := ih hd (htrace.snoc hnext)
      (fun x hx ↦ (List.mem_append.mp hx).elim (hconduct x) fun hx ↦ List.mem_singleton.mp hx ▸ hlast) hrest
    rw [List.append_assoc] at htrace' hfinal hconduct'
    exact ⟨⟨s, e, next⟩ :: more, final, d', htrace', by simp [hmore], hfinal, hconduct'⟩

end

/-- What a signup holds. Assumes: a signup machine with any effects for the start of a submission and for the input, and
any finite sequence of events whose kinds can be keys, with any payloads. The machine handles them one after the other
from its first state, and no transition fails. A message and an error are never held together. In the state of success
there is no error, and the message is that of the event that led there; in the state of an error it is the other way
round. In these states and while a submission is under way, the address is a text that is not blank, and that of the
last submission that was accepted. Submissions and resets are ignored while a submission is under way, results and
cancellations in all other states. A reset that is accepted gives the context of the beginning. Each submission that is
accepted has the start of a submission among its effects once, and no other event has it. -/
theorem contents_of_events (start : Callee σ) (clear : Option (Callee σ)) (sink : Sink) (events : List Event)
    (hkeys : ∀ e ∈ events, e.kind.isKey = true) :
    ∃ first steps final c, (machine start clear sink).initialState = .ok first ∧ first.actions = [] ∧
      (machine start clear sink).Trace first steps final ∧ steps.map Machine.Step.event = events ∧
      events.foldlM (machine start clear sink).transition first = .ok final ∧ Contents steps final c ∧
      ∀ x ∈ steps, Conduct start x := by
  have hfirst : (machine start (some (clearer clear)) sink).initialState =
      .ok ⟨notSubmitted, Signup.toValue {}, [], false⟩ := rfl
  have hbegin : Contents [] (⟨notSubmitted, Signup.toValue {}, [], false⟩ : State σ) {} :=
    .of_notSubmitted rfl rfl (.inl rfl)
  obtain ⟨steps, final, c, htrace, hevents, hcontents, hconduct⟩ := hbegin.run .refl nofun hkeys
  rw [machine_clearer]
  exact ⟨_, steps, final, c, hfirst, rfl, htrace, hevents, hevents ▸ htrace.foldlM, hcontents, hconduct⟩

/-- A submission that ends in an error, and another one that ends in success. -/
def retried : List Event := [(Wish.submit (.text "a") .null).event, ⟨logErrorEvent, [(.text "message", .text "no")]⟩,
  (Wish.submit (.text "b") .null).event, ⟨logSuccessEvent, [(.text "message", .text "yes")]⟩]

/-- After both submissions the machine is in the state of success, holds the message of the last event and the address
of the second submission. -/
theorem contents_of_events_of_retried :
    (∀ e ∈ retried, e.kind.isKey = true) ∧
    ∃ first steps final c,
      (machine (.effect none fun _ _ ↦ .done : Callee Unit) none .library).Trace first steps final ∧
      steps.map Machine.Step.event = retried ∧ final.value = success ∧ Contents steps final c ∧
      c.data = .text "yes" ∧ c.email = .text "b" ∧ ∀ x ∈ steps, Conduct (.effect none fun _ _ ↦ .done) x := by
  have hkeys : ∀ e ∈ retried, e.kind.isKey = true := by decide
  obtain ⟨first, steps, final, ⟨email, data, error, token⟩, hfirst, -, htrace, hevents, hfold, hcontents, hconduct⟩ :=
    contents_of_events (.effect none fun _ _ ↦ .done : Callee Unit) none .library retried hkeys
  have hheld := hcontents.context
  cases hfirst
  cases hfold
  cases hheld
  exact ⟨hkeys, _, steps, _, _, htrace, hevents, rfl, hcontents, rfl, rfl, hconduct⟩

end Newsletter

end Statechart
