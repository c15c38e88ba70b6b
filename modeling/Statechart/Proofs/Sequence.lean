import Statechart.Proofs.Call
import Statechart.Proofs.Lead

/-!
# Scripts and what they come to

A script that is called with nothing under way makes its requests one after another, each in the world that the one
before it has left. `World.Plays` says so of whole scripts, from world to world; it is what the single steps of a run
come to (`World.Plays.ends`), and so what `World.play` gives. A script that follows another begins where that one has
ended, or is not begun at all if that one has failed (`World.Plays.andThen`, `World.Plays.andThen_of_failing`).
-/

set_option autoImplicit false
set_option relaxedAutoImplicit false

namespace Statechart

variable {σ : Type}

namespace Run

variable {w : World σ} {r mid last : Run σ} {stack below : List (Frame σ)} {frame : Frame σ}

/-- What stands below a call makes no difference to it. -/
theorem Ends.onto (h : Ends stack r last) (below : List (Frame σ)) :
    Ends (stack ++ below) (r.onto below) (last.onto below) := by
  induction h with
  | @here r h => exact .here (congrArg (· ++ below) h)
  | @step r last hlt _ ih =>
    refine .step ?_ ?_
    · simpa [Run.onto] using hlt
    · rwa [step_onto r below (List.ne_nil_of_length_pos (Nat.zero_lt_of_lt hlt))]

/-- A call ends by itself as it does above frames that it does not reach. -/
theorem Ends.of_onto (h : Ends (stack ++ below) (r.onto below) last) :
    ∃ alone, Ends stack r alone ∧ last = alone.onto below := by
  generalize hr : r.onto below = r' at h
  induction h generalizing r with
  | here h =>
    subst hr
    exact ⟨r, .here (List.append_cancel_right h), rfl⟩
  | step hlt _ ih =>
    subst hr
    have habove : stack.length < r.stack.length := by simpa [Run.onto] using hlt
    obtain ⟨alone, halone, rfl⟩ :=
      ih (step_onto r below (List.ne_nil_of_length_pos (Nat.zero_lt_of_lt habove))).symm
    exact ⟨alone, .step habove halone, rfl⟩

/-- A call that comes to a frame goes on below it. -/
theorem Ends.of_frame (h : Ends (frame :: below) r mid) (hlast : Ends below mid.step last) : Ends below r last := by
  induction h with
  | @here r h => exact .step (by simp [h]) hlast
  | @step r mid hlt _ ih => exact .step (Nat.lt_of_succ_lt hlt) (ih hlast)

/-- A call that comes to the end of what stands above a part of its stack goes on from there. -/
theorem Ends.onward (h : Ends stack r mid) (hle : below.length ≤ stack.length) (hlast : Ends below mid last) :
    Ends below r last := by
  induction h with
  | here => exact hlast
  | step hlt _ ih => exact .step (Nat.lt_of_le_of_lt hle hlt) (ih hlast)

theorem Ends.ending (h : Ends [] r last) : r.ending = (last.world, last.signal) := by
  obtain ⟨n, rfl, hstack⟩ : ∃ n, last = r.after n ∧ (r.after n).stack = [] := by
    induction h with
    | here h => exact ⟨0, rfl, h⟩
    | step _ _ ih =>
      obtain ⟨n, rfl, hstack⟩ := ih
      exact ⟨n + 1, (after_succ _ n).symm, by rwa [after_succ]⟩
  exact ending_of_after hstack

end Run

namespace World

/-- A request has an answer, or fails, and leaves a world behind. -/
def Asks (w : World σ) (q : Request σ) (w' : World σ) (signal : Signal) : Prop :=
  (Run.perform w [] q).Ends [] ⟨w', [], signal⟩

/-- A script comes to an end in a world. -/
inductive Plays : World σ → Script σ → World σ → Signal → Prop
  | done {w} : Plays w .done w (.returning .null)
  | fail {w f} : Plays w (.fail f) w (.failing (w.pictureFailure f))
  | answered {w w₁ w₂ q next a signal} (hq : w.Asks q w₁ (.returning a)) (hnext : Plays w₁ (next a) w₂ signal) :
      Plays w (.call q next) w₂ signal
  | unanswered {w w₁ q next f} (hq : w.Asks q w₁ (.failing f)) : Plays w (.call q next) w₁ (.failing f)
  | attempted {w w₁ w₂ q next a signal} (hq : w.Asks q w₁ (.returning a))
      (hnext : Plays w₁ (next (.ok a)) w₂ signal) : Plays w (.attempt q next) w₂ signal
  | rescued {w w₁ w₂ q next f signal} (hq : w.Asks q w₁ (.failing f))
      (hnext : Plays w₁ (next (.error f)) w₂ signal) : Plays w (.attempt q next) w₂ signal

variable {w w₁ w₂ : World σ} {q : Request σ} {s t : Script σ} {signal : Signal}

/-- A request of a script ends above the frame that waits for its answer. -/
theorem Asks.ends (h : w.Asks q w₁ signal) (below : List (Frame σ)) :
    (Run.perform w below q).Ends below ⟨w₁, below, signal⟩ := by
  have honto := Run.Ends.onto h below
  rwa [← Run.perform_append] at honto

namespace Plays

/-- A script that comes to an end does so in the steps of its run. -/
theorem ends_proceed (h : w.Plays s w₁ signal) (stack : List (Frame σ)) :
    (Run.proceed w stack s).Ends stack ⟨w₁, stack, signal⟩ := by
  induction h with
  | done => exact .here rfl
  | fail => exact .here rfl
  | answered hq _ ih | attempted hq _ ih | rescued hq _ ih => exact (hq.ends _).of_frame ih
  | unanswered hq => exact (hq.ends _).of_frame (.here rfl)

theorem ends_script (h : w.Plays s w₁ signal) (stack : List (Frame σ)) :
    (Run.script w stack s).Ends stack ⟨w₁, stack, signal⟩ :=
  .step (Nat.lt_succ_self _) (h.ends_proceed stack)

theorem ends (h : w.Plays s w₁ signal) : (Run.script w [] s).Ends [] ⟨w₁, [], signal⟩ := h.ends_script []

theorem play_eq (h : w.Plays s w₁ signal) : w.play s = (w₁, signal) := h.ends.ending

end Plays

/-- A request above the frame that waits for its answer is answered, or fails, and then the frame goes on. -/
theorem asks_of_ends {frame : Frame σ} {stack : List (Frame σ)}
    (h : (Run.perform w (frame :: stack) q).Ends stack ⟨w₂, stack, signal⟩) :
    ∃ w₁ given, w.Asks q w₁ given ∧ (Run.step ⟨w₁, frame :: stack, given⟩).Ends stack ⟨w₂, stack, signal⟩ := by
  have honto := Run.perform_append w [] (frame :: stack) q
  rw [List.nil_append] at honto
  obtain ⟨mid, hmid, hlast⟩ := h.through _ (congrArg Run.stack honto)
  rw [honto] at hmid
  obtain ⟨⟨w₁, alone, given⟩, halone, rfl⟩ :=
    Run.Ends.of_onto (show Run.Ends ([] ++ frame :: stack) _ mid from hmid)
  obtain rfl : alone = [] := halone.stack_eq
  exact ⟨w₁, given, halone, hlast⟩

/-- A script comes to an end where its run does. -/
theorem plays_iff {stack : List (Frame σ)} :
    w.Plays s w₁ signal ↔ (Run.proceed w stack s).Ends stack ⟨w₁, stack, signal⟩ := by
  refine ⟨fun h ↦ h.ends_proceed stack, fun h ↦ ?_⟩
  induction s generalizing w with
  | done =>
    cases h.eq_of_stack_eq rfl
    exact .done
  | fail f =>
    cases h.eq_of_stack_eq rfl
    exact .fail
  | call q next ih =>
    obtain ⟨w', given, hq, hlast⟩ := asks_of_ends h
    cases given with
    | returning a => exact .answered hq (ih a hlast)
    | failing f =>
      cases hlast.eq_of_stack_eq rfl
      exact .unanswered hq
  | attempt q next ih =>
    obtain ⟨w', given, hq, hlast⟩ := asks_of_ends h
    cases given with
    | returning a => exact .attempted hq (ih _ hlast)
    | failing f => exact .rescued hq (ih _ hlast)

/-- A script that follows another begins where that one has ended, and not at all if that one has failed. -/
theorem plays_andThen {s t : Script σ} :
    w.Plays (s.andThen t) w₂ signal ↔
      (∃ w₁ a, w.Plays s w₁ (.returning a) ∧ w₁.Plays t w₂ signal) ∨
        ∃ f, w.Plays s w₂ (.failing f) ∧ signal = .failing f := by
  constructor
  · intro h
    induction s generalizing w with
    | done => exact .inl ⟨w, .null, .done, h⟩
    | fail f =>
      cases h
      exact .inr ⟨_, .fail, rfl⟩
    | call q next ih =>
      cases h with
      | answered hq hnext =>
        rcases ih _ hnext with ⟨w₁, a, hs, ht⟩ | ⟨f, hs, rfl⟩
        · exact .inl ⟨w₁, a, .answered hq hs, ht⟩
        · exact .inr ⟨f, .answered hq hs, rfl⟩
      | unanswered hq => exact .inr ⟨_, .unanswered hq, rfl⟩
    | attempt q next ih =>
      cases h with
      | attempted hq hnext =>
        rcases ih _ hnext with ⟨w₁, a, hs, ht⟩ | ⟨f, hs, rfl⟩
        · exact .inl ⟨w₁, a, .attempted hq hs, ht⟩
        · exact .inr ⟨f, .attempted hq hs, rfl⟩
      | rescued hq hnext =>
        rcases ih _ hnext with ⟨w₁, a, hs, ht⟩ | ⟨f, hs, rfl⟩
        · exact .inl ⟨w₁, a, .rescued hq hs, ht⟩
        · exact .inr ⟨f, .rescued hq hs, rfl⟩
  · rintro (⟨w₁, a, hs, ht⟩ | ⟨f, hs, rfl⟩)
    · generalize hsignal : Signal.returning a = returned at hs
      induction hs with
      | done => exact ht
      | fail | unanswered => cases hsignal
      | answered hq _ ih => exact .answered hq (ih ht hsignal)
      | attempted hq _ ih => exact .attempted hq (ih ht hsignal)
      | rescued hq _ ih => exact .rescued hq (ih ht hsignal)
    · generalize hsignal : Signal.failing f = failed at hs ⊢
      induction hs with
      | done => cases hsignal
      | fail => exact .fail
      | unanswered hq => exact .unanswered hq
      | answered hq _ ih => exact .answered hq (ih hsignal)
      | attempted hq _ ih => exact .attempted hq (ih hsignal)
      | rescued hq _ ih => exact .rescued hq (ih hsignal)

theorem plays_done : w.Plays .done w₁ signal ↔ w₁ = w ∧ signal = .returning .null := by
  constructor
  · rintro ⟨⟩
    exact ⟨rfl, rfl⟩
  · rintro ⟨rfl, rfl⟩
    exact .done

/-! ### Computations that call -/

/-- What a computation comes to whose callables have been called: one of them has failed, or all have come back. -/
def closing {α : Type} (w : World σ) (o : Outcome α) : Signal → Outcome α
  | .returning _ => o.mapError w.pictureFailure
  | .failing f => .error f

/-- A computation whose callables come to an end in a world. -/
def Computes {α : Type} (w : World σ) (calls : Script σ) (o : Outcome α) (w' : World σ) (result : Outcome α) : Prop :=
  ∃ signal, w.Plays calls w' signal ∧ result = w'.closing o signal

section

variable {α β : Type} {calls : Script σ} {o result : Outcome α}

theorem Computes.compute_eq (h : w.Computes calls o w₁ result) : w.compute calls o = (w₁, result) := by
  obtain ⟨signal, hplays, rfl⟩ := h
  rw [compute, hplays.play_eq]
  cases signal <;> rfl

/-- A computation whose calls come to an end comes to a result. -/
theorem computes_of_ends {last : Run σ} (h : (Run.script w [] calls).Ends [] last) (o : Outcome α) :
    ∃ result, w.Computes calls o last.world result := by
  obtain ⟨w', stack, signal⟩ := last
  obtain rfl : stack = [] := h.stack_eq
  cases h with
  | step _ hlast => exact ⟨_, signal, plays_iff.mpr hlast, rfl⟩

/-- Where nothing is called, a computation leaves the world as it is. -/
theorem computes_done : w.Computes .done o w₁ result ↔ w₁ = w ∧ result = o.mapError w.pictureFailure := by
  simp only [Computes, plays_done]
  constructor
  · rintro ⟨_, ⟨rfl, rfl⟩, rfl⟩
    exact ⟨rfl, rfl⟩
  · rintro ⟨rfl, rfl⟩
    exact ⟨_, ⟨rfl, rfl⟩, rfl⟩

theorem closing_map (w : World σ) (f : α → β) (o : Outcome α) (signal : Signal) :
    w.closing (o.map f) signal = (w.closing o signal).map f := by
  cases signal <;> cases o <;> rfl

theorem computes_map {f : α → β} {p : Outcome β} :
    w.Computes calls (o.map f) w₁ p ↔ ∃ result, w.Computes calls o w₁ result ∧ p = result.map f := by
  constructor
  · rintro ⟨signal, hcalls, rfl⟩
    exact ⟨_, ⟨signal, hcalls, rfl⟩, closing_map w₁ f o signal⟩
  · rintro ⟨_, ⟨signal, hcalls, rfl⟩, rfl⟩
    exact ⟨signal, hcalls, (closing_map w₁ f o signal).symm⟩

theorem closing_eq_ok {a : α} : w.closing o signal = .ok a ↔ o = .ok a ∧ ∃ b, signal = .returning b := by
  cases signal with
  | failing f => exact ⟨nofun, fun ⟨_, _, hb⟩ ↦ nomatch hb⟩
  | returning b =>
    cases o with
    | ok x => exact ⟨fun h ↦ ⟨h, b, rfl⟩, fun h ↦ h.1⟩
    | error f => exact ⟨nofun, fun h ↦ nomatch h.1⟩

/-- What goes on with the result of a computation calls in the world that the computation leaves, and nothing if there
is no result. -/
theorem computes_bind {rest : Script σ} (more : α → Script σ) {k : α → Outcome β} {p : Outcome β}
    (hok : ∀ a, o = .ok a → rest = more a) (herror : ∀ f, o = .error f → rest = .done) :
    w.Computes (calls.andThen rest) (o >>= k) w₂ p ↔
      (∃ w₁ a, w.Computes calls o w₁ (.ok a) ∧ w₁.Computes (more a) (k a) w₂ p) ∨
        ∃ f, w.Computes calls o w₂ (.error f) ∧ p = .error f := by
  constructor
  · rintro ⟨signal, hplays, rfl⟩
    rcases plays_andThen.mp hplays with ⟨w₁, a, hcalls, hmore⟩ | ⟨f, hcalls, rfl⟩
    · cases o with
      | ok x => exact .inl ⟨w₁, x, ⟨_, hcalls, rfl⟩, _, hok x rfl ▸ hmore, rfl⟩
      | error f =>
        obtain ⟨rfl, rfl⟩ := plays_done.mp (herror f rfl ▸ hmore)
        exact .inr ⟨_, ⟨_, hcalls, rfl⟩, rfl⟩
    · exact .inr ⟨f, ⟨_, hcalls, rfl⟩, rfl⟩
  · rintro (⟨w₁, x, ⟨given, hcalls, hgiven⟩, signal, hmore, rfl⟩ | ⟨f, ⟨given, hcalls, hgiven⟩, rfl⟩)
    · obtain ⟨rfl, a, rfl⟩ := closing_eq_ok.mp hgiven.symm
      exact ⟨signal, plays_andThen.mpr (.inl ⟨w₁, a, hcalls, hok x rfl ▸ hmore⟩), rfl⟩
    · cases given with
      | failing f' =>
        cases hgiven
        exact ⟨_, plays_andThen.mpr (.inr ⟨f, hcalls, rfl⟩), rfl⟩
      | returning a =>
        cases o with
        | ok x => cases hgiven
        | error f' =>
          cases hgiven
          rw [Computes, herror f' rfl]
          exact ⟨_, plays_andThen.mpr (.inl ⟨w₂, a, hcalls, .done⟩), rfl⟩

end

end World

end Statechart
