import Statechart.Proofs.Stack
import Statechart.Proofs.History

/-!
# Calls and how they end

A request of a script is a call: what it begins stands above the stack that waits for the answer, and the call ends in
the first run in which this stack is all that is left (`Run.Ends`). A call passes through every frame that stands
below what it has begun (`Run.Ends.through`).
-/

set_option autoImplicit false
set_option relaxedAutoImplicit false

namespace Statechart

variable {σ : Type}

/-- The request with which a script begins, and the stack that waits for the answer. -/
def Script.request? (below : List (Frame σ)) : Script σ → Option (Request σ × List (Frame σ))
  | .call q next => some (q, .awaiting next :: below)
  | .attempt q next => some (q, .attempting next :: below)
  | .done | .fail _ => none

namespace Run

/-- The request that the next step performs, and the stack that waits for the answer. -/
def request? (r : Run σ) : Option (Request σ × List (Frame σ)) :=
  match r.stack, r.signal with
  | .awaiting next :: below, .returning a => (next a).request? below
  | .attempting next :: below, .returning a => (next (.ok a)).request? below
  | .attempting next :: below, .failing f => (next (.error f)).request? below
  | _, _ => none

/-- A run that makes a request, by the frame and the signal that tell the script. -/
inductive Asks (q : Request σ) (below : List (Frame σ)) : Run σ → Prop
  | awaiting {w next stack a} (h : (next a).request? stack = some (q, below)) :
      Asks q below ⟨w, .awaiting next :: stack, .returning a⟩
  | attempting {w next stack a} (h : (next (.ok a)).request? stack = some (q, below)) :
      Asks q below ⟨w, .attempting next :: stack, .returning a⟩
  | caught {w next stack f} (h : (next (.error f)).request? stack = some (q, below)) :
      Asks q below ⟨w, .attempting next :: stack, .failing f⟩

/-- What stands above a stack in one run has come to its end in another. -/
inductive Ends (below : List (Frame σ)) : Run σ → Run σ → Prop
  | here {r} (h : r.stack = below) : Ends below r r
  | step {r last} (h : below.length < r.stack.length) (hlast : Ends below r.step last) : Ends below r last

/-- A run that is reached from another with something above a stack all the way. -/
inductive Above (below : List (Frame σ)) (first : Run σ) : Run σ → Prop
  | begin : Above below first first
  | step {r} (h : Above below first r) (hlt : below.length < r.stack.length) : Above below first r.step

theorem proceed_of_request {w : World σ} {stack below : List (Frame σ)} {s : Script σ} {q : Request σ}
    (h : s.request? stack = some (q, below)) : proceed w stack s = perform w below q := by
  cases s with
  | done => cases h
  | fail f => cases h
  | call q next => cases h; rfl
  | attempt q next => cases h; rfl

theorem handling_of_request {id : Nat} {stack below : List (Frame σ)} {s : Script σ} {q : Request σ}
    (h : s.request? stack = some (q, below)) : handling id below = handling id stack := by
  cases s with
  | done => cases h
  | fail f => cases h
  | call q next => cases h; rfl
  | attempt q next => cases h; rfl

section

variable {r : Run σ} {q : Request σ} {below : List (Frame σ)}

/-- A run that makes a request goes on with a script. -/
theorem asks_of_request (h : r.request? = some (q, below)) : r.Asks q below := by
  obtain ⟨w, stack, signal⟩ := r
  cases stack with
  | nil => cases h
  | cons frame stack =>
    cases frame with
    | awaiting next =>
      cases signal with
      | returning a => exact .awaiting h
      | failing f => cases h
    | attempting next =>
      cases signal with
      | returning a => exact .attempting h
      | failing f => exact .caught h
    | _ => cases signal <;> cases h

/-- The next step of a run that makes a request performs it. -/
theorem step_of_request (h : r.request? = some (q, below)) : r.step = perform r.world below q := by
  cases asks_of_request h with
  | awaiting hs | attempting hs | caught hs => exact proceed_of_request hs

/-- What waits for the answer belongs to the same services as the stack of the run. -/
theorem handling_below (h : r.request? = some (q, below)) (id : Nat) : handling id below = handling id r.stack := by
  cases asks_of_request h with
  | awaiting hs | attempting hs | caught hs =>
    rw [handling_of_request hs]
    rfl

end

namespace Ends

variable {below : List (Frame σ)} {r last : Run σ}

/-- A call whose end is reached in a number of steps, and in none before. -/
theorem of_after {n : Nat} (habove : ∀ m < n, below.length < (r.after m).stack.length)
    (hn : (r.after n).stack = below) : Ends below r (r.after n) := by
  induction n generalizing r with
  | zero => exact .here hn
  | succ n ih =>
    rw [after_succ] at hn ⊢
    refine .step (habove 0 (Nat.zero_lt_succ n)) (ih (fun m hm ↦ ?_) hn)
    rw [← after_succ]
    exact habove (m + 1) (Nat.succ_lt_succ hm)

/-- A call that is still under way ends where what is left of it ends. -/
theorem of_above {first : Run σ} (h : Above below first r) (hlast : Ends below r last) : Ends below first last := by
  induction h with
  | begin => exact hlast
  | step _ hlt ih => exact ih (.step hlt hlast)

/-- A call is part of a history. -/
theorem history (h : Ends below r last) : ∃ later, History r later last := by
  induction h with
  | here _ => exact ⟨[], .begin⟩
  | @step r last _ _ ih =>
    obtain ⟨later, hlater⟩ := ih
    exact ⟨[r] ++ later, .trans (.step .begin) hlater⟩

theorem stack_eq (h : Ends below r last) : last.stack = below := by
  induction h with
  | here h => exact h
  | step _ _ ih => exact ih

/-- What has come to its end already ends there. -/
theorem eq_of_stack_eq (h : Ends below r last) (hstack : r.stack = below) : last = r := by
  cases h with
  | here _ => rfl
  | step hlt _ => rw [hstack] at hlt; exact absurd hlt (Nat.lt_irrefl _)

/-- A call passes through what stands below the frames that it has begun. -/
theorem through {frame : Frame σ} (h : Ends below r last) (above : List (Frame σ))
    (hstack : r.stack = above ++ frame :: below) : ∃ mid, Ends (frame :: below) r mid ∧ Ends below mid.step last := by
  induction h generalizing above with
  | @here r h =>
    have hlength := congrArg List.length (h.symm.trans hstack)
    simp only [List.length_append, List.length_cons] at hlength
    omega
  | @step r last hlt hlast ih =>
    cases above with
    | nil => exact ⟨r, .here hstack, hlast⟩
    | cons top above =>
      have honto : r = Run.onto ⟨r.world, top :: above, r.signal⟩ (frame :: below) := by
        rw [onto, ← hstack]
      have hstep := step_onto ⟨r.world, top :: above, r.signal⟩ (frame :: below) (List.cons_ne_nil _ _)
      rw [← honto] at hstep
      obtain ⟨mid, hmid, hrest⟩ := ih _ (congrArg Run.stack hstep)
      refine ⟨mid, .step ?_ hmid, hrest⟩
      rw [hstack]
      simp only [List.length_append, List.length_cons]
      omega

end Ends

end Run

end Statechart
