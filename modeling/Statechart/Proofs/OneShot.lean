import Statechart.Proofs.Cancellation
import Statechart.Proofs.Frames

/-!
# Tokens are one-shot

A token is followed from where it is new. `Run.token_move` says what one step has to do with it: it cancels the token,
adds a callback, goes on with the loop over the callbacks, or has nothing to do with it. `Token.Phase` is what the past
makes of the token and of the loop: at first the token collects the callbacks that are added; once it is cancelled, it
stays as it is, and the callbacks of the loop are those called and those still to be called. Callbacks may cancel the
token and add callbacks again, from inside the loop as well.
-/

set_option autoImplicit false
set_option relaxedAutoImplicit false

namespace Statechart

variable {σ : Type}

/-- The callbacks that the loop of a token has still to call. -/
def Frame.loop? (t : String) : Frame σ → Option (List Listener)
  | .cancelling t' rest => if t' = t then some rest else none
  | _ => none

/-- What the loops of a token on a stack have still to call, from the topmost loop on. -/
def loops (t : String) (stack : List (Frame σ)) : List (List Listener) := stack.filterMap (Frame.loop? t)

namespace Run

/-- The reason for which the next step asks to cancel a token. -/
def cancels? (t : String) (r : Run σ) : Option Value :=
  match r.request? with
  | some (.cancel t' reason, _) => if t' = t then some reason else none
  | _ => none

/-- The callback that the next step adds to a token. -/
def adds? (t : String) (r : Run σ) : Option Listener :=
  match r.request? with
  | some (.onCancel t' l, _) => if t' = t then some l else none
  | _ => none

/-- The callback that the next step calls out of the loop of a token. -/
def recalls? (t : String) (r : Run σ) : Option Listener :=
  match r.stack, r.signal with
  | .cancelling t' (l :: _) :: _, .returning _ => if t' = t then some l else none
  | _, _ => none

/-- The callback that the next step adds to a token that is cancelled already. -/
def joins? (t : String) (r : Run σ) : Option Listener := if (r.world.token t).cancelled then r.adds? t else none

/-- A failure comes to the loop of a token: the callback that was called last has failed. -/
def Spoils (t : String) (r : Run σ) : Prop :=
  ∃ w rest below f, r = ⟨w, .cancelling t rest :: below, .failing f⟩

end Run

section

variable (t : String) (past : List (Run σ))

/-- The reasons for which a token was to be cancelled. -/
def cancellations : List Value := past.filterMap (Run.cancels? t)

/-- The callbacks that were added to a token. -/
def added : List Listener := past.filterMap (Run.adds? t)

/-- The callbacks that were called out of the loop of a token. -/
def recalled : List Listener := past.filterMap (Run.recalls? t)

/-- The callbacks that were added to a token after it was cancelled. -/
def joined : List Listener := past.filterMap (Run.joins? t)

/-- The past before the first request to cancel a token. -/
def untilCancel : List (Run σ) := past.takeWhile fun r ↦ (r.cancels? t).isNone

/-- The past from the first request to cancel a token on. -/
def sinceCancel : List (Run σ) := past.dropWhile fun r ↦ (r.cancels? t).isNone

end

/-- The token of a name that is to be shown, with what was added to it and the reason of its cancellation. -/
def Token.fate (name : String) (callbacks : List Listener) : Option Value → Token
  | none => { name := name, callbacks := callbacks }
  | some reason => { name := name, cancelled := true, reason := reason }

/-! ### What one step does about a token -/

section

variable {t : String} {w : World σ} {stack below rest : List (Frame σ)} {r : Run σ} {q : Request σ}

theorem Frame.loop?_of_plain {frame : Frame σ} (h : frame.isPlain = true) : frame.loop? t = none := by
  cases frame with
  | cancelling => cases h
  | _ => rfl

theorem loops_cons {frame : Frame σ} (h : frame.loop? t = none) : loops t (frame :: stack) = loops t stack :=
  List.filterMap_cons_none h

@[simp] theorem loops_cancelling (callbacks : List Listener) :
    loops t (.cancelling t callbacks :: stack) = callbacks :: loops t stack :=
  List.filterMap_cons_some (by simp [Frame.loop?])

theorem Run.PlainOn.loops (h : r.PlainOn stack) : loops t r.stack = loops t stack :=
  h.filterMap fun _ ↦ Frame.loop?_of_plain

theorem loops_of_request (h : r.request? = some (q, below)) : loops t r.stack = loops t below := by
  obtain ⟨frame, waiting, stack, hstack, hframe, rfl, hwaiting⟩ := Run.below_of_request h
  rw [hstack, loops_cons (Frame.loop?_of_plain hframe), loops_cons (Frame.loop?_of_plain hwaiting)]

/-- A run that makes a request is not about to go on with a loop. -/
theorem Run.recalls?_of_request (h : r.request? = some (q, below)) : r.recalls? t = none := by
  cases Run.asks_of_request h with
  | awaiting | attempting | caught => rfl

theorem Run.Calm.not_spoils (h : r.Calm) : ¬ r.Spoils t := by
  rintro ⟨w, rest, stack, f, rfl⟩
  obtain ⟨a, ha⟩ := h
  cases ha

theorem Run.eq_of_recalls {l : Listener} (h : r.recalls? t = some l) :
    ∃ w rest below a, r = ⟨w, .cancelling t (l :: rest) :: below, .returning a⟩ := by
  obtain ⟨w, stack, signal⟩ := r
  unfold Run.recalls? at h
  split at h
  · next hstack hsignal =>
    obtain ⟨rfl, hl⟩ := Option.ite_none_right_eq_some.mp h
    cases hl
    obtain rfl : stack = _ := hstack
    obtain rfl : signal = _ := hsignal
    exact ⟨w, _, _, _, rfl⟩
  · cases h

theorem Run.request_of_joins {l : Listener} (h : r.joins? t = some l) :
    (r.world.token t).cancelled = true ∧ ∃ below, r.request? = some (.onCancel t l, below) := by
  obtain ⟨hcancelled, hadds⟩ := Option.ite_none_right_eq_some.mp h
  refine ⟨hcancelled, ?_⟩
  unfold Run.adds? at hadds
  split at hadds
  · next below hrequest =>
    obtain ⟨rfl, hl⟩ := Option.ite_none_right_eq_some.mp hadds
    cases hl
    exact ⟨below, hrequest⟩
  · cases hadds

theorem Run.not_spoils_of_request (h : r.request? = some (q, below)) : ¬ r.Spoils t := by
  rintro ⟨w, rest, stack, f, rfl⟩
  cases h

/-- What one step has to do with the token of a name. -/
inductive Token.Move (t : String) (r : Run σ) : Prop
  | aside (hcancels : r.cancels? t = none) (hadds : r.adds? t = none) (hrecalls : r.recalls? t = none)
      (htoken : r.step.world.token t = r.world.token t) (hloops : loops t r.step.stack = loops t r.stack)
  | made (h : r.made? = some t)
  | cancels {reason below} (h : r.request? = some (.cancel t reason, below))
  | adds {l below} (h : r.request? = some (.onCancel t l, below))
  /-- The loop of the token goes on, or a failure leaves it. -/
  | loops {w rest below signal} (h : r = ⟨w, .cancelling t rest :: below, signal⟩)

namespace Run

@[simp] theorem token_call (l : Listener) (what : Published) :
    (call w stack l what).world.token t = w.token t := by
  have htokens : (call w stack l what).world.tokens = w.tokens :=
    congrArg Holdings.tokens (holdings_call w stack l what)
  rw [World.token, World.token, htokens]

/-- A step that takes no request and does not belong to the loop of a token leaves the loops of the token alone. -/
theorem loops_step {frame : Frame σ} {signal : Signal} (hrequest : request? ⟨w, frame :: stack, signal⟩ = none)
    (hframe : frame.loop? t = none) : loops t (step ⟨w, frame :: stack, signal⟩).stack = loops t stack := by
  rcases step_follows ⟨w, frame :: stack, signal⟩ with hplain | ⟨base, hfollows, hplain⟩
  · exact hplain.loops
  · rw [hplain.loops]
    cases hfollows with
    | creatingHost h | cancelling h => cases hrequest.symm.trans h
    | hostStarted h | round h =>
      cases h
      exact loops_cons rfl
    | @loop t' l rest below h =>
      cases h
      exact loops_cons (by simpa [Frame.loop?] using hframe)

/-- A step that takes no request leaves the token aside, or goes on with its loop. -/
theorem token_move_of_no_request (t : String) (hrequest : r.request? = none) : Token.Move t r := by
  have hcancels : r.cancels? t = none := by simp [cancels?, hrequest]
  have hadds : r.adds? t = none := by simp [adds?, hrequest]
  have htoken : r.step.world.token t = r.world.token t := by
    rw [World.token, World.token, tokens_step hrequest]
  obtain ⟨w, stack, signal⟩ := r
  cases stack with
  | nil => exact .aside hcancels hadds rfl htoken rfl
  | cons frame stack =>
    cases hframe : frame.loop? t with
    | none =>
      have hrecalls : recalls? t (⟨w, frame :: stack, signal⟩ : Run σ) = none := by
        cases frame with
        | cancelling t' callbacks =>
          have hne : t' ≠ t := by simpa [Frame.loop?] using hframe
          cases callbacks <;> cases signal <;> simp [recalls?, hne]
        | _ => rfl
      refine .aside hcancels hadds hrecalls htoken ?_
      rw [loops_step hrequest hframe]
      exact (loops_cons hframe).symm
    | some callbacks =>
      cases frame with
      | cancelling t' rest =>
        obtain ⟨rfl, -⟩ : t' = t ∧ rest = callbacks := by simpa [Frame.loop?] using hframe
        exact .loops rfl
      | _ => cases hframe

/-- A request that leaves the token and its loops alone. -/
theorem aside_of_request (hrequest : r.request? = some (q, below)) (hcancels : r.cancels? t = none)
    (hadds : r.adds? t = none) (htoken : (perform r.world below q).world.token t = r.world.token t)
    (hloops : loops t (perform r.world below q).stack = loops t below) : Token.Move t r := by
  have hstep := step_of_request hrequest
  exact .aside hcancels hadds (recalls?_of_request hrequest) (hstep ▸ htoken)
    (hstep ▸ hloops.trans (loops_of_request hrequest).symm)

/-- A request moves the token where it names it. -/
theorem token_move_of_request (t : String) (hrequest : r.request? = some (q, below)) : Token.Move t r := by
  cases q with
  | createToken t' name =>
    by_cases h : t' = t
    · exact .made (by simp [made?, hrequest, h])
    · exact aside_of_request hrequest (by simp [cancels?, hrequest]) (by simp [adds?, hrequest])
        ((World.token_setToken ..).trans (if_neg h)) rfl
  | cancel t' reason =>
    by_cases h : t' = t
    · subst h
      exact .cancels hrequest
    · refine aside_of_request hrequest (by simp [cancels?, hrequest, h]) (by simp [adds?, hrequest]) ?_ ?_
      · simp only [perform, cancel]
        split
        · rfl
        · exact (World.token_setToken ..).trans (if_neg h)
      · simp only [perform, cancel]
        split
        · rfl
        · exact loops_cons (by simp [Frame.loop?, h])
  | onCancel t' l =>
    by_cases h : t' = t
    · subst h
      exact .adds hrequest
    · refine aside_of_request hrequest (by simp [cancels?, hrequest]) (by simp [adds?, hrequest, h]) ?_
        (plain_perform _ _ rfl).loops
      simp only [perform]
      split
      · exact token_call l _
      · exact (World.token_setToken ..).trans (if_neg h)
  | createHost name onChange =>
    exact aside_of_request hrequest (by simp [cancels?, hrequest]) (by simp [adds?, hrequest]) rfl rfl
  | _ =>
    exact aside_of_request hrequest (by simp [cancels?, hrequest]) (by simp [adds?, hrequest])
      (by rw [World.token, World.token, tokens_perform _ _ rfl]) (plain_perform _ _ rfl).loops

/-- Every step is one of the moves of a token. -/
theorem token_move (r : Run σ) (t : String) : Token.Move t r := by
  cases hrequest : r.request? with
  | none => exact token_move_of_no_request t hrequest
  | some p => exact token_move_of_request t hrequest

end Run

end

/-! ### What the past makes of a token -/

section

variable {t : String} {past : List (Run σ)} {r : Run σ}

@[simp] theorem cancellations_concat :
    cancellations t (past ++ [r]) = cancellations t past ++ (r.cancels? t).toList := by
  cases h : r.cancels? t <;> simp [cancellations, h]

@[simp] theorem added_concat : added t (past ++ [r]) = added t past ++ (r.adds? t).toList := by
  cases h : r.adds? t <;> simp [added, h]

@[simp] theorem recalled_concat : recalled t (past ++ [r]) = recalled t past ++ (r.recalls? t).toList := by
  cases h : r.recalls? t <;> simp [recalled, h]

@[simp] theorem joined_concat : joined t (past ++ [r]) = joined t past ++ (r.joins? t).toList := by
  cases h : r.joins? t <;> simp [joined, h]

theorem uncancelled_iff : cancellations t past = [] ↔ ∀ x ∈ past, (x.cancels? t).isNone = true := by
  simp [cancellations, List.filterMap_eq_nil_iff]

/-- Before the first request for it, all of the past was before the cancellation. -/
theorem untilCancel_of_none (h : cancellations t past = []) (later : List (Run σ)) :
    untilCancel t (past ++ later) = past ++ untilCancel t later :=
  List.takeWhile_append_of_pos (uncancelled_iff.mp h)

theorem sinceCancel_of_none (h : cancellations t past = []) (later : List (Run σ)) :
    sinceCancel t (past ++ later) = sinceCancel t later :=
  List.dropWhile_append_of_pos (uncancelled_iff.mp h)

/-- What comes after the first request is after the cancellation. -/
theorem untilCancel_of_some (h : cancellations t past ≠ []) (later : List (Run σ)) :
    untilCancel t (past ++ later) = untilCancel t past := by
  induction past with
  | nil => exact absurd rfl h
  | cons x past ih =>
    cases hx : x.cancels? t with
    | some reason => simp [untilCancel, hx]
    | none =>
      have hpast : cancellations t past ≠ [] := by simpa [cancellations, hx] using h
      simpa [untilCancel, hx] using ih hpast

theorem sinceCancel_of_some (h : cancellations t past ≠ []) (later : List (Run σ)) :
    sinceCancel t (past ++ later) = sinceCancel t past ++ later := by
  induction past with
  | nil => exact absurd rfl h
  | cons x past ih =>
    cases hx : x.cancels? t with
    | some reason => simp [sinceCancel, hx]
    | none =>
      have hpast : cancellations t past ≠ [] := by simpa [cancellations, hx] using h
      simpa [sinceCancel, hx] using ih hpast

end

/-- What the past makes of a token, and of the loop over its callbacks. -/
inductive Token.Phase (t name : String) (past : List (Run σ)) (r : Run σ) : Prop
  | uncancelled (hnone : cancellations t past = []) (hrecalled : recalled t past = []) (hjoined : joined t past = [])
      (htoken : r.world.token t = { name := name, callbacks := added t past }) (hloops : loops t r.stack = [])
  /-- The loop has called some of the callbacks that were added before; it is under way, or it is over, and then has
  called the rest as well, unless one has failed. -/
  | cancelled {reason more rest} (hsome : cancellations t past = reason :: more)
      (htoken : r.world.token t = { name := name, cancelled := true, reason := reason })
      (hjoined : joined t past = added t (sinceCancel t past))
      (hrecalled : recalled t past ++ rest = added t (untilCancel t past))
      (hloops : loops t r.stack = [rest] ∨
        loops t r.stack = [] ∧ (rest = [] ∨ ∃ y ∈ sinceCancel t past, y.Spoils t))

namespace Token.Phase

variable {t name : String} {past : List (Run σ)} {r : Run σ} {reason : Value} {l : Listener}
  {below : List (Frame σ)}

/-- What a request to cancel a token does. -/
theorem step_of_cancel (h : Phase t name past r) (hr : r.request? = some (.cancel t reason, below)) :
    r.step = if cancellations t past = [] then
        .answer (r.world.setToken t { name := name, cancelled := true, reason := reason })
          (.cancelling t (added t past) :: .reply .yes :: below) .null
      else .answer r.world below (.value (.bool false)) := by
  rw [Run.step_of_request hr]
  cases h with
  | uncancelled hnone _ _ htoken _ => simp [Run.perform, Run.cancel, Token.cancel, htoken, hnone]
  | cancelled hsome htoken => simp [Run.perform, Run.cancel, htoken, hsome]

/-- What a request to add a callback to a token does. -/
theorem step_of_add (h : Phase t name past r) (hr : r.request? = some (.onCancel t l, below)) :
    r.step = if cancellations t past = [] then
        .answer (r.world.setToken t { name := name, callbacks := added t past ++ [l] }) below .null
      else .call r.world (.reply .null :: below) l (.token t) := by
  rw [Run.step_of_request hr]
  cases h with
  | uncancelled hnone _ _ htoken _ => simp [Run.perform, htoken, hnone]
  | cancelled hsome htoken => simp [Run.perform, htoken, hsome]

theorem token (h : Phase t name past r) :
    r.world.token t = Token.fate name (added t past) (cancellations t past).head? := by
  cases h with
  | uncancelled hnone _ _ htoken _ => rw [htoken, hnone]; rfl
  | cancelled hsome htoken => rw [htoken, hsome]; rfl

/-- The loop calls what was added before the cancellation, in order; what is added later is called at once. -/
theorem calls (h : Phase t name past r) :
    recalled t past <+: added t (untilCancel t past) ∧ joined t past = added t (sinceCancel t past) := by
  cases h with
  | uncancelled hnone hrecalled hjoined =>
    have hsince : sinceCancel t past = [] := by simpa [sinceCancel] using sinceCancel_of_none hnone []
    rw [hrecalled, hjoined, hsince]
    exact ⟨List.nil_prefix, rfl⟩
  | cancelled _ _ hjoined hrecalled => exact ⟨⟨_, hrecalled⟩, hjoined⟩

/-- A callback is called on a token that is cancelled. -/
theorem step_of_call (h : Phase t name past r) (hl : r.recalls? t = some l ∨ r.joins? t = some l) :
    ∃ reason, (cancellations t past).head? = some reason ∧ ∃ below, r.step = .call r.world below l (.token t) := by
  have hphase := h
  rcases hl with hrecalls | hjoins
  · obtain ⟨w, rest, below, a, rfl⟩ := Run.eq_of_recalls hrecalls
    cases h with
    | uncancelled _ _ _ _ hloops => simp at hloops
    | cancelled hsome => exact ⟨_, by rw [hsome]; rfl, .cancelling t rest :: below, rfl⟩
  · obtain ⟨hcancelled, below, hr⟩ := Run.request_of_joins hjoins
    cases h with
    | uncancelled _ _ _ htoken => simp [htoken] at hcancelled
    | cancelled hsome =>
      have hstep := hphase.step_of_add hr
      rw [if_neg (by simp [hsome])] at hstep
      exact ⟨_, by rw [hsome]; rfl, _, hstep⟩

/-- A step from a token that is not cancelled. -/
theorem step_of_uncancelled (h : Phase t name past r) (hnone : cancellations t past = []) (hmade : r.made? ≠ some t) :
    Phase t name (past ++ [r]) r.step := by
  have huntil := untilCancel_of_none hnone [r]
  have hsince := sinceCancel_of_none hnone [r]
  have hphase := h
  cases h with
  | cancelled hsome => cases hnone.symm.trans hsome
  | uncancelled _ hrecalled hjoined htoken hloops =>
    have hjoins : r.joins? t = none := by simp [Run.joins?, htoken]
    cases r.token_move t with
    | made h => exact absurd h hmade
    | aside hcancels hadds hrecalls htoken' hloops' =>
      exact .uncancelled (by simp [hnone, hcancels]) (by simp [hrecalled, hrecalls]) (by simp [hjoined, hjoins])
        (by simp [htoken', htoken, hadds]) (hloops'.trans hloops)
    | @cancels reason below hr =>
      have hstep := hphase.step_of_cancel hr
      rw [if_pos hnone] at hstep
      have hcancels : r.cancels? t = some reason := by simp [Run.cancels?, hr]
      have hadds : r.adds? t = none := by simp [Run.adds?, hr]
      have hreason : cancellations t (past ++ [r]) = [reason] := by simp [hnone, hcancels]
      have hcalled : recalled t (past ++ [r]) ++ added t past = added t (untilCancel t (past ++ [r])) := by
        rw [recalled_concat, hrecalled, Run.recalls?_of_request hr, huntil]
        simp [untilCancel, hcancels]
      refine .cancelled hreason ?_ ?_ hcalled (.inl ?_)
      · rw [hstep]
        exact (World.token_setToken ..).trans (if_pos rfl)
      · rw [joined_concat, hjoined, hjoins, hsince]
        simp [sinceCancel, hcancels, added, hadds]
      · rw [hstep]
        change loops t (.cancelling t (added t past) :: .reply .yes :: below) = _
        rw [loops_cancelling, loops_cons rfl, ← loops_of_request hr, hloops]
    | @adds l below hr =>
      have hstep := hphase.step_of_add hr
      rw [if_pos hnone] at hstep
      have hcancels : r.cancels? t = none := by simp [Run.cancels?, hr]
      have hadds : r.adds? t = some l := by simp [Run.adds?, hr]
      refine .uncancelled (by simp [hnone, hcancels]) (by simp [hrecalled, Run.recalls?_of_request hr])
        (by simp [hjoined, hjoins]) ?_ ?_
      · rw [hstep, added_concat, hadds]
        exact (World.token_setToken ..).trans (if_pos rfl)
      · rw [hstep]
        exact (loops_of_request hr).symm.trans hloops
    | loops h => simp [h] at hloops

/-- A token that is cancelled stays so: what was left of its loop is called now or is left still. -/
theorem stays {more : List Value} {rest left : List Listener} (hsome : cancellations t past = reason :: more)
    (htoken : r.world.token t = { name := name, cancelled := true, reason := reason })
    (hjoined : joined t past = added t (sinceCancel t past))
    (hrecalled : recalled t past ++ rest = added t (untilCancel t past))
    (hsame : r.step.world.token t = r.world.token t) (hleft : (r.recalls? t).toList ++ left = rest)
    (hloops : loops t r.step.stack = [left] ∨
      loops t r.step.stack = [] ∧ (left = [] ∨ ∃ y ∈ sinceCancel t (past ++ [r]), y.Spoils t)) :
    Phase t name (past ++ [r]) r.step := by
  have hne : cancellations t past ≠ [] := by simp [hsome]
  have hjoins : r.joins? t = r.adds? t := by simp [Run.joins?, htoken]
  have hreason : cancellations t (past ++ [r]) = reason :: (more ++ (r.cancels? t).toList) := by simp [hsome]
  refine .cancelled hreason (hsame.trans htoken) ?_ ?_ hloops
  · rw [joined_concat, hjoined, hjoins, sinceCancel_of_some hne, added_concat]
  · rw [recalled_concat, List.append_assoc, hleft, untilCancel_of_some hne]
    exact hrecalled

/-- A step that leaves the loop of a cancelled token alone. -/
theorem step_aside (h : Phase t name past r) (hsome : cancellations t past ≠ []) (hrecalls : r.recalls? t = none)
    (hsame : r.step.world.token t = r.world.token t) (hloops' : loops t r.step.stack = loops t r.stack) :
    Phase t name (past ++ [r]) r.step := by
  cases h with
  | uncancelled hnone => exact absurd hnone hsome
  | @cancelled reason more rest hreason htoken hjoined hrecalled hloops =>
    refine stays hreason htoken hjoined hrecalled hsame (by rw [hrecalls]; rfl) ?_
    rw [hloops', sinceCancel_of_some hsome]
    -- a failure in the loop stays in the past
    refine hloops.imp_right fun ⟨hnone, hspoilt⟩ ↦ ⟨hnone, hspoilt.imp_right ?_⟩
    rintro ⟨y, hy, hspoils⟩
    exact ⟨y, List.mem_append_left _ hy, hspoils⟩

/-- The loop of a cancelled token calls its next callback, comes to its end, or is left by a failure. -/
theorem step_of_loop {w : World σ} {waiting : List Listener} {signal : Signal}
    (h : Phase t name past ⟨w, .cancelling t waiting :: below, signal⟩) (hsome : cancellations t past ≠ []) :
    Phase t name (past ++ [⟨w, .cancelling t waiting :: below, signal⟩])
      (Run.step ⟨w, .cancelling t waiting :: below, signal⟩) := by
  cases h with
  | uncancelled hnone => exact absurd hnone hsome
  | @cancelled reason more rest hreason htoken hjoined hrecalled hloops =>
    obtain ⟨rfl, hbelow⟩ : waiting = rest ∧ loops t below = [] := by
      rcases hloops with hloops | ⟨hloops, -⟩
      · simpa using hloops
      · simp at hloops
    cases signal with
    | failing f =>
      have hrecalls : Run.recalls? t ⟨w, .cancelling t waiting :: below, .failing f⟩ = none := by cases waiting <;> rfl
      refine stays hreason htoken hjoined hrecalled rfl (by rw [hrecalls]; rfl) (.inr ⟨hbelow, .inr ?_⟩)
      rw [sinceCancel_of_some hsome]
      exact ⟨_, List.mem_append_right _ (List.mem_singleton_self _), w, waiting, below, f, rfl⟩
    | returning a =>
      cases waiting with
      | nil => exact stays hreason htoken hjoined hrecalled rfl rfl (.inr ⟨hbelow, .inl rfl⟩)
      | cons l waiting =>
        have hcalled : (Run.recalls? t ⟨w, .cancelling t (l :: waiting) :: below, .returning a⟩).toList ++ waiting =
            l :: waiting := by simp [Run.recalls?]
        refine stays hreason htoken hjoined hrecalled (Run.token_call l _) hcalled (.inl ?_)
        refine (Run.plain_call w (.cancelling t waiting :: below) l (.token t)).loops.trans ?_
        rw [loops_cancelling, hbelow]

/-- A step from a token that is cancelled. -/
theorem step_of_cancelled (h : Phase t name past r) (hsome : cancellations t past ≠ []) (hmade : r.made? ≠ some t) :
    Phase t name (past ++ [r]) r.step := by
  cases r.token_move t with
  | made h => exact absurd h hmade
  | aside hcancels hadds hrecalls htoken hloops => exact h.step_aside hsome hrecalls htoken hloops
  | cancels hr =>
    have hstep := h.step_of_cancel hr
    rw [if_neg hsome] at hstep
    exact h.step_aside hsome (Run.recalls?_of_request hr) (by rw [hstep]; rfl) (by rw [hstep, loops_of_request hr]; rfl)
  | @adds l below hr =>
    have hstep := h.step_of_add hr
    rw [if_neg hsome] at hstep
    refine h.step_aside hsome (Run.recalls?_of_request hr) (by rw [hstep, Run.token_call]) ?_
    rw [hstep, (Run.plain_call _ (.reply .null :: below) _ _).loops, loops_of_request hr, loops_cons rfl]
  | loops hr =>
    subst hr
    exact h.step_of_loop hsome

/-- Every step leads from a phase to the next. -/
theorem step (h : Phase t name past r) (hmade : r.made? ≠ some t) : Phase t name (past ++ [r]) r.step := by
  by_cases hnone : cancellations t past = []
  · exact h.step_of_uncancelled hnone hmade
  · exact h.step_of_cancelled hnone hmade

/-- The call of a script when nothing is under way changes no phase. -/
theorem call (h : Phase t name past r) (hidle : r.stack = []) (hmade : r.made? ≠ some t) (s : Script σ) :
    Phase t name (past ++ [r]) (.script r.world [] s) := by
  have hstep := h.step hmade
  have hstill : r.step = r := by rw [Run.step, hidle]
  rw [hstill] at hstep
  -- the frame of the script is none of a loop
  have hscript : loops t (Run.script r.world [] s).stack = loops t r.stack := by rw [hidle]; rfl
  cases hstep with
  | uncancelled hnone hrecalled hjoined htoken hloops =>
    exact .uncancelled hnone hrecalled hjoined htoken (hscript.trans hloops)
  | cancelled hsome htoken hjoined hrecalled hloops =>
    exact .cancelled hsome htoken hjoined hrecalled (by rwa [hscript])

/-- What follows in a history leads from phase to phase. -/
theorem later {later : List (Run σ)} {last : Run σ} (h : Phase t name past r) (hlater : History r later last)
    (hmade : ∀ x ∈ later, x.made? ≠ some t) : Phase t name (past ++ later) last := by
  induction hlater with
  | begin => simpa using h
  | @step later last _ ih =>
    rw [← List.append_assoc]
    exact (ih fun x hx ↦ hmade x (by simp [hx])).step (hmade last (by simp))
  | @call later last _ hidle s ih =>
    rw [← List.append_assoc]
    exact (ih fun x hx ↦ hmade x (by simp [hx])).call hidle (hmade last (by simp)) s

end Token.Phase

/-! ### The end of a cancellation -/

namespace Run

variable {t : String} {stack below : List (Frame σ)} {r : Run σ}

/-- The loop of a token is under way above a stack. -/
def Recalling (t : String) (stack : List (Frame σ)) (r : Run σ) : Prop :=
  ∃ above rest, r.stack = above ++ .cancelling t rest :: stack

/-- A loop goes on or comes to its end, as long as no callback fails. -/
theorem Recalling.step (h : r.Recalling t stack) (hspoils : ¬ r.Spoils t) :
    r.step.Recalling t stack ∨ r.step = ⟨r.world, stack, .returning .null⟩ := by
  obtain ⟨above, rest, hstack⟩ := h
  obtain ⟨w, _, signal⟩ := r
  obtain rfl := hstack
  cases above with
  | cons frame above =>
    have honto := step_onto ⟨w, frame :: above, signal⟩ (.cancelling t rest :: stack) (List.cons_ne_nil _ _)
    exact .inl ⟨_, rest, congrArg Run.stack honto⟩
  | nil =>
    cases signal with
    | failing f => exact absurd ⟨w, rest, stack, f, rfl⟩ hspoils
    | returning a =>
      cases rest with
      | nil => exact .inr rfl
      | cons l rest =>
        obtain ⟨above, hcall, -⟩ := plain_call w (.cancelling t rest :: stack) l (.token t)
        exact .inl ⟨above, rest, hcall⟩

/-- A cancellation comes to its end with a positive answer, unless a callback fails. -/
theorem Recalling.answers {n : Nat} (h : r.Recalling t (.reply .yes :: below))
    (hspoils : ∀ k < n, ¬ (r.after k).Spoils t) (hunder : ∀ k < n, below.length < (r.after k).stack.length)
    (hn : (r.after n).stack = below) : (r.after n).signal = .returning .yes := by
  have hstages (k : Nat) (hk : k ≤ n) : (r.after k).Recalling t (.reply .yes :: below) ∨
      (∃ w, r.after k = ⟨w, .reply .yes :: below, .returning .null⟩) ∨
      (r.after k).stack = below ∧ (r.after k).signal = .returning .yes := by
    induction k with
    | zero => exact .inl h
    | succ k ih =>
      rcases ih (Nat.le_of_succ_le hk) with hloop | ⟨w, hover⟩ | ⟨hended, -⟩
      · exact (hloop.step (hspoils k hk)).imp_right fun hover ↦ .inl ⟨_, hover⟩
      · refine .inr (.inr ?_)
        rw [after, hover]
        exact ⟨rfl, rfl⟩
      · exact absurd (hunder k hk) (by rw [hended]; exact Nat.lt_irrefl _)
  rcases hstages n (Nat.le_refl n) with ⟨above, rest, hstack⟩ | ⟨w, hover⟩ | ⟨-, hsignal⟩
  · have hlength := congrArg List.length (hn.symm.trans hstack)
    simp only [List.length_append, List.length_cons] at hlength
    omega
  · have hlength := congrArg List.length (hn.symm.trans (congrArg Run.stack hover))
    simp only [List.length_cons] at hlength
    omega
  · exact hsignal

end Run

theorem recalled_append (t : String) (past later : List (Run σ)) :
    recalled t (past ++ later) = recalled t past ++ recalled t later :=
  List.filterMap_append

/-- A cancellation in which no callback fails has called all callbacks when it ends. -/
theorem Token.Phase.recalled_of_ends {t name : String} {past : List (Run σ)} {r : Run σ} {reason : Value}
    {below : List (Frame σ)} {n : Nat} (h : Phase t name past r) (hnone : cancellations t past = [])
    (hr : r.request? = some (.cancel t reason, below)) (hmade : ∀ k < n, (r.step.after k).made? ≠ some t)
    (hspoils : ∀ k < n, ¬ (r.step.after k).Spoils t) (hn : (r.step.after n).stack = below) :
    recalled t (r.step.trail n) = added t past := by
  have hcancels : r.cancels? t = some reason := by simp [Run.cancels?, hr]
  have hfirst : Phase t name (past ++ [r]) r.step :=
    h.step (by simp [Run.made?, hr])
  have hlast := hfirst.later (.steps r.step n) fun x hx ↦ by
    obtain ⟨k, hk, rfl⟩ := Run.mem_trail.mp hx
    exact hmade k hk
  rw [List.append_assoc, List.singleton_append] at hlast
  have hsome : cancellations t (past ++ r :: r.step.trail n) ≠ [] := by
    simp [cancellations, hcancels]
  have huntil : untilCancel t (past ++ r :: r.step.trail n) = past := by
    rw [untilCancel_of_none hnone]
    simp [untilCancel, hcancels]
  have hsince : sinceCancel t (past ++ r :: r.step.trail n) = r :: r.step.trail n := by
    rw [sinceCancel_of_none hnone]
    simp [sinceCancel, hcancels]
  have hrecalled : recalled t (past ++ r :: r.step.trail n) = recalled t (r.step.trail n) := by
    have hbefore : recalled t past = [] := by
      cases h with
      | uncancelled _ hrecalled => exact hrecalled
      | cancelled hsome => cases hnone.symm.trans hsome
    rw [recalled_append, hbefore, List.nil_append, recalled, List.filterMap_cons_none (Run.recalls?_of_request hr)]
    rfl
  have hbelow : loops t below = [] := by
    rw [← loops_of_request hr]
    cases h with
    | uncancelled _ _ _ _ hloops => exact hloops
    | cancelled hsome => cases hnone.symm.trans hsome
  cases hlast with
  | uncancelled hnone' => exact absurd hnone' hsome
  | cancelled _ _ _ hcalls hloops =>
    rw [hrecalled, huntil] at hcalls
    rw [hn, hbelow, hsince] at hloops
    rcases hloops with hloops | ⟨-, rfl | ⟨y, hy, hspoiled⟩⟩
    · cases hloops
    · simpa using hcalls
    · rcases List.mem_cons.mp hy with rfl | hy
      · exact absurd hspoiled (Run.not_spoils_of_request hr)
      · obtain ⟨k, hk, rfl⟩ := Run.mem_trail.mp hy
        exact absurd hspoiled (hspoils k hk)

/-- A token is one-shot. Assumes: a run in which the token is new and no loop over its callbacks is under way, and a
history that leads on from it, with any callbacks, in which no other token is made under the name. First, the token is
what its past makes of it: it collects the callbacks added to it until it is first asked to cancel; from then on it is
cancelled, for the reason of that first request. Second, every later request is answered with false and changes
nothing; and if no callback fails that the loop of the first calls, then by the time this one ends, with true, the
callbacks added before have been called, each once and in order. Third, even if one fails, the loop has called the
first so many of them, in order, and a callback added later has been called by the very step that added it; so none is
called twice, and none before the first request. Fourth, a callback that is called sees the token with its reason. -/
theorem token_is_one_shot {t name : String} {p r : Run σ} {past : List (Run σ)} (hpast : History p past r)
    (hnew : p.world.token t = { name := name }) (hfree : loops t p.stack = [])
    (hmade : ∀ x ∈ past, x.made? ≠ some t) :
    r.world.token t = Token.fate name (added t past) (cancellations t past).head? ∧
    (∀ reason below, r.request? = some (.cancel t reason, below) →
      (cancellations t past ≠ [] → r.step = .answer r.world below (.value (.bool false))) ∧
      (cancellations t past = [] → ∀ n,
        (∀ k < n, (r.step.after k).made? ≠ some t ∧ ¬ (r.step.after k).Spoils t ∧
          below.length < (r.step.after k).stack.length) → (r.step.after n).stack = below →
        (r.step.after n).signal = .returning .yes ∧ recalled t (r.step.trail n) = added t past)) ∧
    (recalled t past <+: added t (untilCancel t past) ∧ joined t past = added t (sinceCancel t past)) ∧
    (∀ l, r.recalls? t = some l ∨ r.joins? t = some l → ∃ reason below, (cancellations t past).head? = some reason ∧
      r.world.token t = Token.fate name (added t past) (some reason) ∧ r.step = .call r.world below l (.token t)) := by
  have hphase : Token.Phase t name past r := by
    have hfirst : Token.Phase t name [] p := .uncancelled rfl rfl rfl hnew hfree
    simpa using hfirst.later hpast hmade
  refine ⟨hphase.token, fun reason below hr ↦ ⟨fun hsome ↦ ?_, fun hnone n hunder hn ↦ ⟨?_, ?_⟩⟩, ?_, fun l hl ↦ ?_⟩
  · rw [hphase.step_of_cancel hr, if_neg hsome]
  · have hloop : r.step.Recalling t (.reply .yes :: below) := by
      rw [hphase.step_of_cancel hr, if_pos hnone]
      exact ⟨[], added t past, rfl⟩
    exact hloop.answers (fun k hk ↦ (hunder k hk).2.1) (fun k hk ↦ (hunder k hk).2.2) hn
  · exact hphase.recalled_of_ends hnone hr (fun k hk ↦ (hunder k hk).1) (fun k hk ↦ (hunder k hk).2.1) hn
  · exact hphase.calls
  · obtain ⟨reason, hreason, below, hstep⟩ := hphase.step_of_call hl
    refine ⟨reason, below, hreason, ?_, hstep⟩
    rw [hphase.token, hreason]

/-- A world in which one callback cancels its token once more and adds another callback to it. -/
def World.ofRecanceller : World Unit where
  machine := none
  behaviour l _ :=
    if l = .named "canceller" then
      .call (.cancel "job" (.text "again")) fun _ ↦ .request (.onCancel "job" (.named "late"))
    else .done
  memory := ()

/-- Two callbacks are added and the token is cancelled. -/
def recancelled : Run Unit :=
  .script World.ofRecanceller [] (.call (.onCancel "job" (.named "canceller")) fun _ ↦
    .call (.onCancel "job" (.named "other")) fun _ ↦ .request (.cancel "job" (.text "stop")))

theorem History.ofRecancelled (n : Nat) :
    History (.idle World.ofRecanceller) (.idle World.ofRecanceller :: recancelled.trail n) (recancelled.after n) :=
  .trans (.call .begin rfl _) (.steps recancelled n)

/-- The cancellation calls the two callbacks of its beginning, and the second request out of the first of them changes
nothing; the callback that this one adds is called at once. -/
theorem token_is_one_shot_of_recancelled :
    (((recancelled.after 2).step.after 10).signal = .returning .yes ∧
      recalled "job" ((recancelled.after 2).step.trail 10) = [.named "canceller", .named "other"]) ∧
    (recancelled.after 4).step =
      .answer (recancelled.after 4).world (recancelled.after 5).stack (.value (.bool false)) ∧
    joined "job" (.idle World.ofRecanceller :: recancelled.trail 14) = [.named "late"] ∧
    (recancelled.after 14).world.token "job" =
      Token.fate "job" [.named "canceller", .named "other", .named "late"] (some (.text "stop")) := by
  obtain ⟨-, hcancel, -⟩ := token_is_one_shot (t := "job") (History.ofRecancelled 2) rfl rfl (by decide)
  obtain ⟨-, hagain, -⟩ := token_is_one_shot (t := "job") (History.ofRecancelled 4) rfl rfl (by decide)
  obtain ⟨htoken, -, ⟨-, hjoined⟩, -⟩ := token_is_one_shot (t := "job") (History.ofRecancelled 14) rfl rfl (by decide)
  have hcalm : ∀ k < 10, ((recancelled.after 2).step.after k).Calm := by decide
  have hunder : ∀ k < 10, ((recancelled.after 2).step.after k).made? ≠ some "job" ∧
      1 < ((recancelled.after 2).step.after k).stack.length := by decide
  exact ⟨(hcancel (.text "stop") _ rfl).2 rfl 10
      (fun k hk ↦ ⟨(hunder k hk).1, (hcalm k hk).not_spoils, (hunder k hk).2⟩) rfl,
    (hagain (.text "again") _ rfl).1 (by decide), hjoined, htoken⟩

end Statechart
