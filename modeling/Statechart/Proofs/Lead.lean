import Statechart.Proofs.History

/-!
# Runs that lead to a point

Where a run passes through stretches of steps that are always the same, it is enough to look at the points between
them. `Run.Leads Q P` says that a run comes to a point `P` in finitely many steps, each of them begun in a run with
the property `Q`. If every point has the property and its next step leads to a point again, then so does every later
run (`Run.Leads.after`); a run that has ended is such a point itself (`Run.Leads.ended`).
-/

set_option autoImplicit false
set_option relaxedAutoImplicit false

namespace Statechart

variable {σ : Type}

namespace Run

/-- The run comes to a point in finitely many steps, each begun in a run with a property. -/
inductive Leads (Q P : Run σ → Prop) : Run σ → Prop
  | here {r} (h : P r) : Leads Q P r
  | step {r} (hq : Q r) (h : Leads Q P r.step) : Leads Q P r

theorem step_of_empty {r : Run σ} (h : r.stack = []) : r.step = r := by
  rw [step, h]

/-- The last run of all is the run after some number of steps, with nothing left to do. -/
theorem after_of_last? {r last : Run σ} (h : r.last? = some last) : ∃ n, last = r.after n ∧ last.stack = [] := by
  refine Run.last?.partial_correctness (fun r last ↦ ∃ n, last = r.after n ∧ last.stack = []) ?_ r last h
  intro last? ih r last hlast
  by_cases hempty : r.stack.isEmpty = true
  · rw [if_pos hempty, Option.some.injEq] at hlast
    subst hlast
    exact ⟨0, rfl, List.isEmpty_iff.mp hempty⟩
  · rw [if_neg hempty] at hlast
    obtain ⟨n, hn, hstack⟩ := ih r.step last hlast
    exact ⟨n + 1, by rw [hn, after_succ], hstack⟩

theorem after_of_empty {r : Run σ} (h : r.stack = []) (n : Nat) : r.after n = r := by
  induction n with
  | zero => rfl
  | succ n ih => rw [after, ih, step_of_empty h]

/-- A run that has ended after a number of steps ends so. -/
theorem ending_of_after {r : Run σ} {n : Nat} (h : (r.after n).stack = []) :
    r.ending = ((r.after n).world, (r.after n).signal) := by
  have hlast : r.last? = some (r.after n) := by
    induction n generalizing r with
    | zero =>
      change r.stack = [] at h
      rw [Run.last?, if_pos (List.isEmpty_iff.mpr h)]
      rfl
    | succ n ih =>
      rw [Run.last?]
      by_cases hempty : r.stack = []
      · rw [if_pos (List.isEmpty_iff.mpr hempty), after_of_empty hempty]
      · rw [if_neg (fun he ↦ hempty (List.isEmpty_iff.mp he)), after_succ]
        rw [after_succ] at h
        exact ih h
  rw [ending, hlast]

/-- A run ends as it stands after some number of steps, or it goes on forever. -/
theorem ending_world (r : Run σ) :
    r.ending.1 = r.world ∨ ∃ n, (r.after n).stack = [] ∧ r.ending.1 = (r.after n).world := by
  unfold ending
  cases hlast : r.last? with
  | none => exact .inl rfl
  | some last =>
    obtain ⟨n, rfl, hstack⟩ := after_of_last? hlast
    exact .inr ⟨n, hstack, rfl⟩

namespace Leads

variable {Q P : Run σ → Prop} {r : Run σ}

/-- A run that goes on with its topmost frame. -/
theorem resume {w : World σ} {stack : List (Frame σ)} {a : Answer} {frame : Frame σ}
    (hq : Q ⟨w, frame :: stack, .returning a⟩) (h : Leads Q P (Run.resume w stack a frame)) :
    Leads Q P ⟨w, frame :: stack, .returning a⟩ := .step hq h

/-- A run that has ended is a point. -/
theorem ended (h : Leads Q P r) (hstack : r.stack = []) : P r := by
  induction h with
  | here h => exact h
  | @step r hq h ih =>
    rw [step_of_empty hstack] at ih
    exact ih hstack

theorem next (hpoint : ∀ {r}, P r → Q r ∧ Leads Q P r.step) (h : Leads Q P r) : Q r ∧ Leads Q P r.step := by
  cases h with
  | here h => exact hpoint h
  | step hq h => exact ⟨hq, h⟩

/-- What leads to a point comes to it. -/
theorem exists_after (h : Leads Q P r) : ∃ n, P (r.after n) := by
  induction h with
  | here h => exact ⟨0, h⟩
  | @step r _ _ ih =>
    obtain ⟨n, hn⟩ := ih
    exact ⟨n + 1, by rw [after_succ]; exact hn⟩

/-- Where the next step of every point leads to a point, all later runs do. -/
theorem after (hpoint : ∀ {r}, P r → Q r ∧ Leads Q P r.step) (h : Leads Q P r) (n : Nat) : Leads Q P (r.after n) := by
  induction n with
  | zero => exact h
  | succ n ih => exact (ih.next hpoint).2

/-- A run that leads to a point with nothing left to do ends there. -/
theorem ends (h : Leads Q P r) (hend : ∀ {r}, P r → r.stack = []) :
    ∃ last, P last ∧ r.ending = (last.world, last.signal) := by
  obtain ⟨n, hn⟩ := h.exists_after
  exact ⟨r.after n, hn, ending_of_after (hend hn)⟩

/-- The last run of all, where there is one, is a point. -/
theorem ending (hpoint : ∀ {r}, P r → Q r ∧ Leads Q P r.step) (h : Leads Q P r) :
    r.ending.1 = r.world ∨ ∃ last, P last ∧ last.stack = [] ∧ r.ending.1 = last.world := by
  rcases r.ending_world with hforever | ⟨n, hstack, hworld⟩
  · exact .inl hforever
  · exact .inr ⟨r.after n, (h.after hpoint n).ended hstack, hstack, hworld⟩

end Leads

end Run

end Statechart
