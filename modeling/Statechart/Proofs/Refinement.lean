import Statechart.Proofs.Call
import Statechart.Proofs.Ledger

/-!
# A service refines the pure machine

Where nothing fails, a service with nothing under way holds the fold of the transition function over the events that
it was sent while it was running, in the order in which they were sent, whoever sent them: scripts from outside,
effects, listeners, or the replay to a new subscriber. Only `stop` cuts the list short. A send made while nothing is
under way comes back with this state (`refines_machine`).
-/

set_option autoImplicit false
set_option relaxedAutoImplicit false

namespace Statechart

variable {σ : Type}

section

variable {w : World σ} {r last : Run σ} {below : List (Frame σ)} {id : Nat} {s : Service σ}

/-- Once its event is handled, a send answers with the state of the service. -/
theorem Run.Ends.answer_of_sent {mid : Run σ} (h : Run.Ends below mid.step last) (hstack : mid.stack = .sent id :: below)
    (hcalm : last.Calm) {s : Service σ} (hs : last.world.services[id]? = some s) :
    last.signal = .returning (.state s.state.snapshot) := by
  obtain ⟨w, stack, signal⟩ := mid
  dsimp only at hstack
  subst hstack
  cases signal with
  | failing f =>
    cases h.eq_of_stack_eq rfl
    obtain ⟨a, ha⟩ := hcalm
    cases ha
  | returning a =>
    cases hservice : w.services[id]? with
    | none =>
      have hstep : Run.step ⟨w, .sent id :: below, .returning a⟩ = Run.answer w below .null := by
        simp [Run.step, Run.resume, hservice]
      rw [hstep] at h
      cases h.eq_of_stack_eq rfl
      rw [Run.answer, hservice] at hs
      cases hs
    | some found =>
      have hstep : Run.step ⟨w, .sent id :: below, .returning a⟩ =
          Run.answer w below (.state found.state.snapshot) := by
        simp [Run.step, Run.resume, hservice]
      rw [hstep] at h
      cases h.eq_of_stack_eq rfl
      rw [Run.answer, hservice] at hs
      cases hs
      rfl

/-- A send that ends with an answer ends with the state that the service then has. -/
theorem Run.Ends.answer_of_send {v : Value} (h : Run.Ends below (Run.send w below id s v) last)
    (hs : w.services[id]? = some s) (hcalm : last.Calm) {s' : Service σ} (hs' : last.world.services[id]? = some s') :
    last.signal = .returning (.state s'.state.snapshot) := by
  unfold Run.send at h
  cases hv : Event.ofValue v with
  | error f =>
    rw [hv] at h
    cases h.eq_of_stack_eq rfl
    obtain ⟨a, ha⟩ := hcalm
    cases ha
  | ok event =>
    simp only [hv] at h
    split at h
    · -- the event is dropped
      cases h.eq_of_stack_eq rfl
      simp only [Run.answer, World.services_mark, hs, Option.some.injEq] at hs'
      rw [← hs']
      rfl
    · split at h
      · -- the event waits
        cases h.eq_of_stack_eq rfl
        simp only [Run.answer, World.services_mark, World.getElem?_updateService_self, hs, Option.map_some,
          Option.some.injEq] at hs'
        rw [← hs']
        rfl
      · -- the event is handled, and the state is looked up when that has come to its end
        obtain ⟨mid, hmid, hlast⟩ := h.through [.drain id] rfl
        exact hlast.answer_of_sent hmid.stack_eq hcalm hs'

/-- A request to send that ends with an answer ends with the state that the service then has. -/
theorem Run.Ends.answer_of_request {p : Run σ} {name : String} {v : Value} (h : p.step.Ends below last)
    (hrequest : p.request? = some (.send name v, below)) (hname : p.world.serviceOf name = .ok id)
    (hcalm : last.Calm) {s : Service σ} (hs : last.world.services[id]? = some s) :
    last.signal = .returning (.state s.state.snapshot) := by
  rw [Run.step_of_request hrequest] at h
  simp only [Run.perform, Run.withService, hname] at h
  cases hservice : p.world.services[id]? with
  | none =>
    simp only [hservice] at h
    cases h.eq_of_stack_eq rfl
    obtain ⟨a, ha⟩ := hcalm
    cases ha
  | some found =>
    simp only [hservice] at h
    exact h.answer_of_send hservice hcalm hs

end

/-- A service refines the machine it runs. Assumes: a history of a world that began without services, with any
callbacks, in which nothing fails. When nothing of the service is under way, its value and context are those of the
fold of the transition function, from the first state of the machine, over a prefix of the events that the service
was sent while it was running, in the order of their sends; the prefix is the whole list if the service was never
stopped. A send made when nothing of the service was under way leaves nothing under way when it ends, and answers
with the state that the service then has. -/
theorem refines_machine {w : World σ} (hnew : w.services = []) {past : List (Run σ)} {r : Run σ}
    (hpast : History (.idle w) past r) (hcalm : ∀ x ∈ past ++ [r], x.Calm) {id : Nat} {s : Service σ}
    (hs : r.world.services[id]? = some s) :
    (r.Idle id → ∃ initial final processed, s.machine.initialState = .ok initial ∧
      processed <+: acceptedEvents (happenings id past) ∧
      (.stopped ∉ happenings id past → processed = acceptedEvents (happenings id past)) ∧
      processed.foldlM s.machine.transition initial = .ok final ∧
      s.state.value = final.value ∧ s.state.context = final.context) ∧
    ∀ p ∈ past, ∀ name v below, p.request? = some (.send name v, below) → p.world.serviceOf name = .ok id →
      p.Idle id → p.step.Ends below r → r.Idle id ∧ r.signal = .returning (.state s.state.snapshot) := by
  have hfaultless := hpast.faultless hcalm id
  refine ⟨fun hidle ↦ ?_, fun p hp name v below hrequest hname hidle hends ↦ ⟨?_, ?_⟩⟩
  · obtain ⟨initial, final, hinitial, hfold, hfinal⟩ := (hpast.ledger hnew hs).folded
    have horder := hpast.in_order hnew hs hfaultless
    have hcourse := hpast.course hnew hs
    rw [hidle] at hcourse
    have htaken := hcourse.takenEvents_eq hfaultless
    have hvalue : s.state.settled.value = final.settled.value := congrArg State.value hfinal
    have hcontext : s.state.settled.context = final.settled.context := congrArg State.context hfinal
    refine ⟨initial, final, committedEvents (happenings id past), hinitial, htaken ▸ horder.taken, ?_, hfold,
      hvalue, hcontext⟩
    intro hstopped
    have hrest := (hpast.at_rest hnew hs hidle fun h hh ↦ Happening.isInterrupt_of_isFault (hfaultless h hh)).2
    have hwhole := horder.waiting hstopped
    rw [hrest, List.append_nil] at hwhole
    rw [← htaken, hwhole]
  · rw [Run.Idle, hends.stack_eq, Run.handling_below hrequest]
    exact hidle
  · exact hends.answer_of_request hrequest hname (hcalm r (by simp)) hs

/-- A lamp at the end of the send that lit it. -/
theorem refines_machine_of_lamp :
    ∃ s, ((pressed shines).after 19).world.services[0]? = some s ∧ s.state.value = .text "on" ∧
      (∃ initial final processed, s.machine.initialState = .ok initial ∧
        processed <+: acceptedEvents (happenings 0 (.idle (World.ofLamp shines) :: (pressed shines).trail 19)) ∧
        processed.foldlM s.machine.transition initial = .ok final ∧ s.state.value = final.value) ∧
      ((pressed shines).after 19).signal = .returning (.state s.state.snapshot) := by
  have hs : ((pressed shines).after 19).world.services[0]? = some _ := rfl
  have h := refines_machine (w := World.ofLamp shines) rfl (History.ofLamp shines 19) (by decide) hs
  obtain ⟨initial, final, processed, hinitial, hprocessed, -, hfold, hvalue, -⟩ := h.1 rfl
  have hsend := h.2 ((pressed shines).after 8) (by simp [Run.trail]) "lamp" (.text "press") _ rfl rfl rfl
    (.of_after (n := 10) (by decide) rfl)
  exact ⟨_, rfl, rfl, ⟨initial, final, processed, hinitial, hprocessed, hfold, hvalue⟩, hsend.2⟩

end Statechart
