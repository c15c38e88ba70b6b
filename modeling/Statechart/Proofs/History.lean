import Statechart.Proofs.Turn

/-!
# Histories

A history is what has led to a run: steps, and between them, whenever nothing is under way, calls of any script. What
it did to a service is read off it as the list of its happenings. An invariant of services that survives every turn
holds at the end of every history (`History.turns`). A history in which nothing fails has no faults among its
happenings (`History.faultless`).
-/

set_option autoImplicit false
set_option relaxedAutoImplicit false

namespace Statechart

variable {σ : Type}

namespace Run

/-- A world with nothing under way. -/
def idle (w : World σ) : Run σ := ⟨w, [], .returning .null⟩

/-- Nothing fails. -/
def Calm (r : Run σ) : Prop := ∃ a, r.signal = .returning a

instance (r : Run σ) : Decidable r.Calm :=
  match h : r.signal with
  | .returning a => .isTrue ⟨a, h⟩
  | .failing f => .isFalse fun ⟨a, ha⟩ ↦ by rw [h] at ha; cases ha

/-- Neither the start of a service nor its handling of events is under way. -/
def Idle (id : Nat) (r : Run σ) : Prop := handling id r.stack = []

/-- The run after a number of steps. -/
def after (r : Run σ) : Nat → Run σ
  | 0 => r
  | n + 1 => (r.after n).step

theorem after_succ (r : Run σ) (n : Nat) : r.after (n + 1) = r.step.after n := by
  induction n with
  | zero => rfl
  | succ n ih => rw [after, ih, after]

/-- The runs before the last of a number of steps. -/
def trail (r : Run σ) : Nat → List (Run σ)
  | 0 => []
  | n + 1 => r.trail n ++ [r.after n]

theorem mem_trail {r x : Run σ} {n : Nat} : x ∈ r.trail n ↔ ∃ k < n, x = r.after k := by
  induction n with
  | zero => simp [trail]
  | succ n ih =>
    simp only [trail, List.mem_append, List.mem_singleton, ih, Nat.lt_succ_iff_lt_or_eq]
    grind

end Run

/-- What leads from one run to another: the runs before the latest, in order. -/
inductive History (first : Run σ) : List (Run σ) → Run σ → Prop
  | begin : History first [] first
  | step {past r} (h : History first past r) : History first (past ++ [r]) r.step
  /-- A script is called when nothing is under way. -/
  | call {past r} (h : History first past r) (hidle : r.stack = []) (s : Script σ) :
      History first (past ++ [r]) (.script r.world [] s)

/-- What the steps of a history did to a service. -/
def happenings (id : Nat) (past : List (Run σ)) : List (Happening σ) := past.filterMap (Run.happening id)

section

variable (id : Nat)

@[simp] theorem happenings_nil : happenings id ([] : List (Run σ)) = [] := rfl

@[simp] theorem happenings_append (past later : List (Run σ)) :
    happenings id (past ++ later) = happenings id past ++ happenings id later :=
  List.filterMap_append

@[simp] theorem happenings_singleton (r : Run σ) : happenings id [r] = (r.happening id).toList := by
  cases h : r.happening id <;> simp [happenings, h]

theorem Run.happening_of_empty {r : Run σ} (h : r.stack = []) : r.happening id = none := by
  rw [happening, h]

theorem Run.view_call_of_empty {r : Run σ} (h : r.stack = []) (s : Script σ) :
    (Run.script r.world [] s).view id = r.view id := by
  rw [view_script, view, h]
  rfl

end

namespace History

variable {first r : Run σ} {past : List (Run σ)}

/-- What holds of a service at first and survives every turn holds at the end of every history. -/
theorem turns {P : List (Happening σ) → View σ → Prop} (h : History first past r) (id : Nat)
    (hbegin : P [] (first.view id))
    (hturn : ∀ {hs v o v'}, P hs v → Turn id v o v' → P (hs ++ o.toList) v') :
    P (happenings id past) (r.view id) := by
  induction h with
  | begin => exact hbegin
  | @step past r h ih =>
    rw [happenings_append, happenings_singleton]
    exact hturn ih (r.step_turn id)
  | @call past r h hidle s ih =>
    rw [happenings_append, happenings_singleton, Run.happening_of_empty id hidle, Run.view_call_of_empty id hidle]
    simpa using ih

theorem steps (r : Run σ) (n : Nat) : History r (r.trail n) (r.after n) := by
  induction n with
  | zero => exact .begin
  | succ n ih => exact .step ih

theorem trans {last : Run σ} {later : List (Run σ)} (h : History first past r) (h' : History r later last) :
    History first (past ++ later) last := by
  induction h' with
  | begin => simpa using h
  | step _ ih =>
    rw [← List.append_assoc]
    exact .step ih
  | call _ hidle s ih =>
    rw [← List.append_assoc]
    exact .call ih hidle s

/-- Every run of the past has a history of its own, and leads on to the latest. -/
theorem split {p : Run σ} (h : History first past r) (hp : p ∈ past) :
    ∃ earlier later, past = earlier ++ p :: later ∧ History first earlier p ∧ History p (p :: later) r := by
  -- a run that is not the last of the past is one of the past before it
  have hsplit {past : List (Run σ)} {r r' : Run σ} (hp : p ∈ past ++ [r]) (h : History first past r)
      (hnext : ∀ {before : Run σ} {later}, History before later r → History before (later ++ [r]) r')
      (ih : p ∈ past → ∃ earlier later, past = earlier ++ p :: later ∧ History first earlier p ∧
        History p (p :: later) r) :
      ∃ earlier later, past ++ [r] = earlier ++ p :: later ∧ History first earlier p ∧
        History p (p :: later) r' := by
    rcases List.mem_append.mp hp with hbefore | hlast
    · obtain ⟨earlier, later, rfl, hearlier, hlater⟩ := ih hbefore
      exact ⟨earlier, later ++ [r], by simp, hearlier, hnext hlater⟩
    · rw [List.mem_singleton] at hlast
      subst hlast
      exact ⟨past, [], rfl, h, hnext .begin⟩
  induction h with
  | begin => simp at hp
  | step h ih => exact hsplit hp h .step ih
  | call h hidle s ih => exact hsplit hp h (fun h ↦ .call h hidle s) ih

end History

/-- A guard, an assignment, an effect or a listener has failed. -/
def Happening.isFault : Happening σ → Bool
  | .refused _ | .failed _ | .abandoned _ => true
  | _ => false

theorem World.isFault_begun (w : World σ) (id : Nat) (s : Script σ) : ∀ h ∈ w.begun id s, h.isFault = false := by
  intro h hh
  have hrequest := w.isRequest_begun id s h hh
  cases h <;> first | rfl | cases hrequest

namespace Run

/-- Where nothing fails before and after a step, the step is no fault of any service. -/
theorem Calm.happening {r : Run σ} (h : r.Calm) (hstep : r.step.Calm) (id : Nat) :
    ∀ happened ∈ r.happening id, happened.isFault = false := by
  intro happened hh
  obtain ⟨a, hsignal⟩ := h
  obtain ⟨a', hstep⟩ := hstep
  cases happens_of_happening hh with
  | awaiting hbegun | attempting hbegun => exact World.isFault_begun _ id _ _ hbegun
  | refused hs hnext => simp [step, resume, move, hs, hnext, fail] at hstep
  | caught | effectFailed | listenerFailed | calculationFailed | openingAbandoned | drainAbandoned
  | announceAbandoned => cases hsignal
  | _ => rfl

end Run

/-- Where nothing fails, no service has a fault. -/
theorem History.faultless {first r : Run σ} {past : List (Run σ)} (h : History first past r)
    (hcalm : ∀ x ∈ past ++ [r], x.Calm) (id : Nat) : ∀ h ∈ happenings id past, h.isFault = false := by
  induction h with
  | begin => simp
  | @step past r h ih =>
    intro happened hh
    rw [happenings_append, happenings_singleton, List.mem_append] at hh
    rcases hh with hbefore | hlast
    · exact ih (fun x hx ↦ hcalm x (List.mem_append_left _ hx)) happened hbefore
    · exact (hcalm r (by simp)).happening (hcalm r.step (by simp)) id happened (Option.mem_toList.mp hlast)
  | @call past r h hidle s ih =>
    rw [happenings_append, happenings_singleton, Run.happening_of_empty id hidle]
    simpa using ih fun x hx ↦ hcalm x (List.mem_append_left _ hx)

/-! ### A small world -/

/-- A machine with two states, the second of which has an effect of its entry. -/
def lamp (shine : Value → Event → Outcome Value) : Machine Unit where
  initial := .text "off"
  states := [(.text "off", ⟨[(.text "press", ⟨some (.text "on"), none, []⟩)], [], []⟩),
    (.text "on", ⟨[], [.effect ⟨"shine", .function none shine⟩], []⟩)]
  context := .null
  events := none
  name := .text "lamp"

/-- A world in which lamps can be made. -/
def World.ofLamp (shine : Value → Event → Outcome Value) : World Unit :=
  { machine := some (lamp shine), behaviour := fun _ _ ↦ .done, memory := () }

/-- A lamp is made, started and pressed. -/
def pressed (shine : Value → Event → Outcome Value) : Run Unit :=
  .script (World.ofLamp shine) [] (.call (.create "lamp") fun _ ↦ .call (.start "lamp") fun _ ↦
    .request (.send "lamp" (.text "press")))

/-- The history of the lamp after a number of steps. -/
theorem History.ofLamp (shine : Value → Event → Outcome Value) (n : Nat) :
    History (.idle (World.ofLamp shine)) (.idle (World.ofLamp shine) :: (pressed shine).trail n)
      ((pressed shine).after n) :=
  .trans (.call .begin rfl _) (.steps (pressed shine) n)

/-- A lamp that works. -/
def shines : Value → Event → Outcome Value := fun _ _ ↦ .ok .null

end Statechart
