import Statechart.Proofs.Registration

/-!
# Rounds of notifications

A round goes over the registrations of its beginning, one turn after another, while the listeners that it calls may do
whatever they like with the registry, begin rounds of their own included. `Run.Stage` says how far a round has come:
it is between two turns, inside a call, or over; every step leads from one stage to another (`Run.Stage.next`). A
registration is called in its turn if it is still there, and then it has been there since the round began
(`round_calls_who_is_still_registered`).
-/

set_option autoImplicit false
set_option relaxedAutoImplicit false

namespace Statechart

variable {σ : Type}

/-- The world with the note that a service is about to notify a listener. -/
def World.noticed (w : World σ) (owner : Option Nat) (what : Published) (l : Listener) : World σ :=
  match owner, what with
  | some id, .state s => w.mark id (.notified l s)
  | _, _ => w

namespace Run

/-- The next step begins a round of a registry, for a request or after the effects of an event. -/
inductive BeginsRound (p : Run σ) : Option Nat → Published → List (Frame σ) → Prop
  | notify {v below} (h : p.request? = some (.notify v, below)) : BeginsRound p none (.value v) below
  | announce {id event s w below a} (h : p = ⟨w, .announce id event :: below, .returning a⟩)
      (hs : w.services[id]? = some s) : BeginsRound p (some id) (.state s.state.snapshot) below

/-- The registration whose turn it is in the round that stands on a stack. -/
def turn? (below : List (Frame σ)) (r : Run σ) : Option (Nat × Listener) :=
  match r.stack, r.signal with
  | .round _ _ (e :: _) :: stack, .returning _ => if stack.length = below.length then some e else none
  | _, _ => none

theorem after_add (r : Run σ) (m n : Nat) : r.after (m + n) = (r.after m).after n := by
  induction n with
  | zero => rfl
  | succ n ih => exact congrArg step ih

/-- A call that is under way up to some step, and has then come back, ends there. -/
theorem ends_after {first : Run σ} {frame : Frame σ} {below : List (Frame σ)} {k n : Nat} (hk : k < n)
    (habove : ∀ j, k < j → j < n → below.length + 1 < (first.after j).stack.length)
    (hstack : (first.after n).stack = frame :: below) :
    (first.after (k + 1)).Ends (frame :: below) (first.after n) := by
  obtain ⟨m, rfl⟩ := Nat.exists_eq_add_of_lt hk
  have hlast : first.after (k + m + 1) = (first.after (k + 1)).after m := by
    rw [← after_add, Nat.add_right_comm]
  rw [hlast] at hstack ⊢
  refine .of_after (fun j hj ↦ ?_) hstack
  rw [← after_add]
  exact habove (k + 1 + j) (by omega) (by omega)

/-! ### One step of a round -/

section

variable {p r : Run σ} {w : World σ} {owner : Option Nat} {what : Published} {below : List (Frame σ)} {a : Answer}
  {e : Nat × Listener} {rest : List (Nat × Listener)}

theorem BeginsRound.step (h : p.BeginsRound owner what below) :
    ∃ w, p.step = ⟨w, .round owner what (p.world.registryOf owner).entries :: below, .returning .null⟩ ∧
      w.registryOf owner = p.world.registryOf owner := by
  cases h with
  | notify h =>
    rw [step_of_request h]
    exact ⟨_, rfl, rfl⟩
  | @announce id event s w below a h hs =>
    subst h
    refine ⟨w.mark id (.announced event), ?_, by simp [World.registryOf]⟩
    simp only [Run.step, resume, hs, registryOf_of_service hs]
    rfl

theorem turn?_between : turn? below ⟨w, .round owner what (e :: rest) :: below, .returning a⟩ = some e := by
  simp [turn?]

theorem turn?_finished : turn? below ⟨w, .round owner what [] :: below, .returning a⟩ = none := rfl

/-- A run whose topmost frame is not the one that stands on the stack is at no turn. -/
theorem turn?_of_length (h : r.stack.length ≠ below.length + 1) : r.turn? below = none := by
  unfold turn?
  split
  · next e rest stack a hstack hsignal =>
    refine if_neg fun hlength ↦ h ?_
    rw [hstack, List.length_cons, hlength]
  · rfl

theorem turn?_of_failing {f : Failure} (h : r.signal = .failing f) : r.turn? below = none := by
  unfold turn?
  rw [h]
  split
  · next hsignal => cases hsignal
  · rfl

/-- Who is registered is called. -/
theorem step_of_registered (h : (w.registryOf owner).hasTicket e.1 = true) :
    step ⟨w, .round owner what (e :: rest) :: below, .returning a⟩ =
      call (w.noticed owner what e.2) (.round owner what rest :: below) e.2 what := by
  obtain ⟨ticket, l⟩ := e
  simp only [step, resume, h, if_true]
  cases owner <;> cases what <;> rfl

/-- Who is not registered any more is passed over. -/
theorem step_of_unregistered (h : (w.registryOf owner).hasTicket e.1 = false) :
    step ⟨w, .round owner what (e :: rest) :: below, .returning a⟩ =
      answer w (.round owner what rest :: below) .null := by
  obtain ⟨ticket, l⟩ := e
  simp [step, resume, h]

theorem stack_call (w : World σ) (stack : List (Frame σ)) (l : Listener) (what : Published) :
    ∃ above, (call w stack l what).stack = above ++ stack := by
  have happend := call_append w [] stack l what
  rw [List.nil_append] at happend
  exact ⟨_, congrArg Run.stack happend⟩

end

/-! ### Stages of a round -/

/-- How far a round has come after a number of steps: the registrations that have had their turn, and the rest. -/
inductive Stage (owner : Option Nat) (what : Published) (below : List (Frame σ)) (first : Run σ) (n : Nat) :
    List (Nat × Listener) → List (Nat × Listener) → Prop
  /-- The last turn is over, and the next one has not begun. -/
  | between {had rest w a} (h : first.after n = ⟨w, .round owner what rest :: below, .returning a⟩) :
      Stage owner what below first n had rest
  /-- The listener whose turn was the last has been called, and has not come back. -/
  | calling {had e rest above k} (hk : k < n) (hturn : (first.after k).turn? below = some e)
      (hregistered : ((first.after k).world.registryOf owner).hasTicket e.1 = true)
      (habove : ∀ j, k < j → j < n → below.length + 1 < (first.after j).stack.length)
      (hstack : (first.after n).stack = above ++ .round owner what rest :: below) :
      Stage owner what below first n (had ++ [e]) rest
  | answered {had} (hstack : (first.after n).stack = below) (hsignal : (first.after n).signal = .returning .null) :
      Stage owner what below first n had []
  /-- The listener that was called last has failed. -/
  | failed {had e rest k w f} (hk : k < n) (hturn : (first.after k).turn? below = some e)
      (hregistered : ((first.after k).world.registryOf owner).hasTicket e.1 = true)
      (hends : (first.after (k + 1)).Ends (.round owner what rest :: below)
        ⟨w, .round owner what rest :: below, .failing f⟩)
      (h : first.after n = ⟨w, below, .failing f⟩) :
      Stage owner what below first n (had ++ [e]) rest

namespace Stage

variable {owner : Option Nat} {what : Published} {below : List (Frame σ)} {first : Run σ} {n : Nat}
  {had rest : List (Nat × Listener)}

/-- Between two turns, the next registration has its turn, or the round is over. -/
theorem next_of_between {w : World σ} {a : Answer}
    (h : first.after n = ⟨w, .round owner what rest :: below, .returning a⟩) :
    ∃ rest', Stage owner what below first (n + 1) (had ++ ((first.after n).turn? below).toList) rest' ∧
      ((first.after n).turn? below).toList ++ rest' = rest := by
  have hstep : first.after (n + 1) = step ⟨w, .round owner what rest :: below, .returning a⟩ := congrArg step h
  cases rest with
  | nil =>
    rw [h, turn?_finished]
    exact ⟨[], .answered (congrArg Run.stack hstep) (congrArg Run.signal hstep), rfl⟩
  | cons e rest =>
    have hturn : (first.after n).turn? below = some e := by rw [h, turn?_between]
    rw [hturn]
    refine ⟨rest, ?_, rfl⟩
    cases hticket : (w.registryOf owner).hasTicket e.1 with
    | false => exact .between (hstep.trans (step_of_unregistered hticket))
    | true =>
      rw [step_of_registered hticket] at hstep
      obtain ⟨above, habove⟩ := stack_call (w.noticed owner what e.2) (.round owner what rest :: below) e.2 what
      exact .calling (Nat.lt_succ_self n) hturn (by rw [h, hticket]) (by omega) ((congrArg Run.stack hstep).trans habove)

/-- Every step leads from a stage to the next: one more registration may have its turn. -/
theorem next (h : Stage owner what below first n had rest) (hunder : below.length < (first.after n).stack.length) :
    ∃ rest', Stage owner what below first (n + 1) (had ++ ((first.after n).turn? below).toList) rest' ∧
      ((first.after n).turn? below).toList ++ rest' = rest := by
  cases h with
  | between h => exact next_of_between h
  | @calling had e _ above k hk hturn hregistered habove hstack =>
    obtain ⟨w, stack, signal, hrun⟩ : ∃ w stack signal, first.after n = ⟨w, stack, signal⟩ := ⟨_, _, _, rfl⟩
    rw [hrun] at hstack
    cases above with
    | nil =>
      obtain rfl : stack = .round owner what rest :: below := hstack
      cases signal with
      | returning a => exact next_of_between hrun
      | failing f =>
        have hends := ends_after hk habove (show _ = .round owner what rest :: below by rw [hrun])
        rw [hrun] at hends
        rw [turn?_of_failing (congrArg Run.signal hrun), Option.toList_none, List.append_nil]
        exact ⟨rest, .failed (Nat.lt_succ_of_lt hk) hturn hregistered hends (congrArg step hrun), rfl⟩
    | cons frame above =>
      obtain rfl : stack = frame :: above ++ .round owner what rest :: below := hstack
      have hlength : below.length + 1 < (first.after n).stack.length := by
        rw [hrun]
        simp only [List.length_append, List.length_cons]
        omega
      have honto := step_onto ⟨w, frame :: above, signal⟩ (.round owner what rest :: below) (List.cons_ne_nil _ _)
      have hstep := (congrArg (fun r ↦ (step r).stack) hrun).trans (congrArg Run.stack honto)
      rw [turn?_of_length (Nat.ne_of_gt hlength), Option.toList_none, List.append_nil]
      refine ⟨rest, .calling (Nat.lt_succ_of_lt hk) hturn hregistered (fun j hj hjn ↦ ?_) hstep, rfl⟩
      rcases Nat.lt_succ_iff_lt_or_eq.mp hjn with hjn | rfl
      · exact habove j hj hjn
      · exact hlength
  | answered hstack => exact absurd hunder (by rw [hstack]; exact Nat.lt_irrefl _)
  | failed _ _ _ _ h => exact absurd hunder (by rw [h]; exact Nat.lt_irrefl _)

/-- A registration has its turn only where its round stands on the stack alone. -/
theorem eq_of_turn {e : Nat × Listener} (h : Stage owner what below first n had rest)
    (hturn : (first.after n).turn? below = some e) :
    ∃ w a rest', first.after n = ⟨w, .round owner what (e :: rest') :: below, .returning a⟩ ∧ rest = e :: rest' := by
  have hlength : (first.after n).stack.length = below.length + 1 := by
    by_contra hlength
    rw [turn?_of_length hlength] at hturn
    cases hturn
  obtain ⟨w, stack, signal, hrun⟩ : ∃ w stack signal, first.after n = ⟨w, stack, signal⟩ := ⟨_, _, _, rfl⟩
  rw [hrun] at hturn hlength ⊢
  have hstack : stack = .round owner what rest :: below := by
    cases h with
    | between h => exact congrArg Run.stack (hrun.symm.trans h)
    | @calling had e _ above k hk _ _ _ hstack =>
      rw [hrun] at hstack
      obtain rfl : stack = above ++ .round owner what rest :: below := hstack
      obtain rfl : above = [] := by
        rw [← List.length_eq_zero_iff]
        simp only [List.length_append, List.length_cons] at hlength
        omega
      rfl
    | answered hstack =>
      rw [hrun] at hstack
      obtain rfl : stack = below := hstack
      exact absurd hlength (Nat.ne_of_lt (Nat.lt_succ_self _))
    | failed _ _ _ _ h =>
      obtain rfl : stack = below := congrArg Run.stack (hrun.symm.trans h)
      exact absurd hlength (Nat.ne_of_lt (Nat.lt_succ_self _))
  subst hstack
  cases signal with
  | failing f =>
    rw [turn?_of_failing rfl] at hturn
    cases hturn
  | returning a =>
    cases rest with
    | nil => cases hturn
    | cons e' rest =>
      rw [turn?_between] at hturn
      obtain rfl := Option.some.inj hturn
      exact ⟨w, a, rest, rfl, rfl⟩

end Stage

/-- The registrations that have had their turn after a number of steps. -/
def turns (below : List (Frame σ)) (first : Run σ) (n : Nat) : List (Nat × Listener) :=
  (first.trail n).filterMap (turn? below)

theorem turns_succ (below : List (Frame σ)) (first : Run σ) (n : Nat) :
    turns below first (n + 1) = turns below first n ++ ((first.after n).turn? below).toList := by
  cases h : (first.after n).turn? below <;> simp [turns, trail, h]

variable {p : Run σ} {owner : Option Nat} {what : Published} {below : List (Frame σ)}

/-- As long as a round is under way, and when it ends, it is at some stage. -/
theorem BeginsRound.stage (h : p.BeginsRound owner what below) {n : Nat}
    (hunder : ∀ k < n, below.length < (p.step.after k).stack.length) :
    ∃ rest, Stage owner what below p.step n (turns below p.step n) rest ∧
      turns below p.step n ++ rest = (p.world.registryOf owner).entries := by
  induction n with
  | zero =>
    obtain ⟨w, hstep, -⟩ := h.step
    exact ⟨_, .between hstep, rfl⟩
  | succ n ih =>
    obtain ⟨rest, hstage, hrest⟩ := ih fun k hk ↦ hunder k (Nat.lt_succ_of_lt hk)
    obtain ⟨rest', hnext, hturn⟩ := hstage.next (hunder n (Nat.lt_succ_self n))
    rw [turns_succ]
    exact ⟨rest', hnext, by rw [List.append_assoc, hturn, hrest]⟩

end Run

/-- A registration of some time ago is there under its ticket only if it has been there ever since. -/
theorem History.still_registered {p r : Run σ} {later : List (Run σ)} {owner : Option Nat} {e : Nat × Listener}
    (hlater : History p later r) (htidy : (p.world.registryOf owner).Tidy)
    (he : e ∈ (p.world.registryOf owner).entries) :
    (r.world.registryOf owner).hasTicket e.1 = true ↔ e ∈ (r.world.registryOf owner).entries := by
  refine ⟨fun hticket ↦ ?_, fun hmem ↦ Registry.hasTicket_iff.mpr ⟨e, hmem, rfl⟩⟩
  obtain ⟨e', he', hsame⟩ := Registry.hasTicket_iff.mp hticket
  have hbefore := Registry.Evolves.mem (hlater.evolves owner) he' (hsame ▸ htidy.fresh e he)
  rwa [← htidy.unique hbefore he hsame]

open Run in
/-- Rounds of notifications. Assumes: a world without services and registrations, with any callbacks, a history that
leads to a run `p` whose next step begins a round of a registry, the free one or that of a service, and any number of
steps during which the round is not over; whatever listeners do in the meantime is part of these steps. First, the
tickets of the registrations increase, and no listener has two of them. Second, the registrations have their turns in
this order, each of them once at most, and no other has one. Third, a registration that is there when its turn comes is
called, and has been there ever since the round began; one that is not is passed over. Fourth, when the round is over,
all registrations have had their turn, or the listener that was called last has failed, with the failure with which the
round ends, in the world that the listener has left behind. -/
theorem round_calls_who_is_still_registered {w : World σ} {p : Run σ} {past : List (Run σ)} {owner : Option Nat}
    {what : Published} {below : List (Frame σ)} {n : Nat} (hpast : History (.idle w) past p) (hnew : w.services = [])
    (hfree : w.registry = {}) (hbegins : p.BeginsRound owner what below)
    (hunder : ∀ k < n, below.length < (p.step.after k).stack.length) :
    ((p.world.registryOf owner).entries.Pairwise fun e e' ↦ e.1 < e'.1 ∧ e.2 ≠ e'.2) ∧
    turns below p.step n <+: (p.world.registryOf owner).entries ∧
    (∀ k < n, ∀ e, (p.step.after k).turn? below = some e →
      ∃ rest, turns below p.step k ++ e :: rest = (p.world.registryOf owner).entries ∧
      (e ∈ ((p.step.after k).world.registryOf owner).entries →
        (∀ j ≤ k, e ∈ ((p.step.after j).world.registryOf owner).entries) ∧
        p.step.after (k + 1) = call ((p.step.after k).world.noticed owner what e.2) (.round owner what rest :: below)
          e.2 what) ∧
      (e ∉ ((p.step.after k).world.registryOf owner).entries →
        p.step.after (k + 1) = answer (p.step.after k).world (.round owner what rest :: below) .null)) ∧
    ((p.step.after n).stack = below →
      ((p.step.after n).signal = .returning .null ∧
        turns below p.step n = (p.world.registryOf owner).entries) ∨
      ∃ k < n, ∃ had e rest w' f, turns below p.step n = had ++ [e] ∧ (p.step.after k).turn? below = some e ∧
        e ∈ ((p.step.after k).world.registryOf owner).entries ∧
        (p.step.after (k + 1)).Ends (.round owner what rest :: below)
          ⟨w', .round owner what rest :: below, .failing f⟩ ∧
        p.step.after n = ⟨w', below, .failing f⟩) := by
  have htidy := hpast.tidy hnew hfree owner
  have hlater (k : Nat) : History p (p :: p.step.trail k) (p.step.after k) := .trans (.step .begin) (.steps p.step k)
  obtain ⟨rest, hstage, hrest⟩ := hbegins.stage hunder
  refine ⟨htidy.ordered, ⟨rest, hrest⟩, fun k hk e hturn ↦ ?_, fun hover ↦ ?_⟩
  · obtain ⟨left, hthen, hleft⟩ := hbegins.stage fun j hj ↦ hunder j (Nat.lt_trans hj hk)
    obtain ⟨w', a, rest', hrun, rfl⟩ := hthen.eq_of_turn hturn
    have he : e ∈ (p.world.registryOf owner).entries := by simp [← hleft]
    have hstill := (hlater k).still_registered htidy he
    have hsince : e ∈ ((p.step.after k).world.registryOf owner).entries →
        ∀ j ≤ k, e ∈ ((p.step.after j).world.registryOf owner).entries := fun hthere j hj ↦ by
      obtain ⟨m, rfl⟩ := Nat.exists_eq_add_of_le hj
      rw [after_add] at hthere
      have hgiven := Nat.lt_of_lt_of_le (htidy.fresh e he) ((hlater j).evolves owner).next_le
      exact ((History.steps _ m).evolves owner).mem hthere hgiven
    have hstep : p.step.after (k + 1) = step _ := congrArg step hrun
    rw [hrun] at hstill hsince ⊢
    refine ⟨rest', hleft, fun hthere ↦ ⟨hsince hthere, ?_⟩, fun hgone ↦ ?_⟩
    · rw [hstep, step_of_registered (hstill.mpr hthere)]
    · rw [hstep, step_of_unregistered (Bool.eq_false_iff.mpr (mt hstill.mp hgone))]
  · have hlength := congrArg List.length hover
    generalize hturns : turns below p.step n = had at hstage hrest ⊢
    cases hstage with
    | between h =>
      simp only [h, List.length_cons] at hlength
      omega
    | calling _ _ _ _ hstack =>
      simp only [hstack, List.length_append, List.length_cons] at hlength
      omega
    | answered _ hsignal => exact .inl ⟨hsignal, by simpa using hrest⟩
    | @failed had e _ k w' f hk hturn hregistered hends h =>
      have he : e ∈ (p.world.registryOf owner).entries := by simp [← hrest]
      have hthere := ((hlater k).still_registered htidy he).mp hregistered
      exact .inr ⟨k, hk, had, e, rest, w', f, rfl, hturn, hthere, hends, h⟩

/-- A world in which one listener ends the registration of another and registers it anew. -/
def World.ofReplacer : World Unit where
  machine := none
  behaviour l _ :=
    if l = .named "replacer" then .call (.unsubscribe "other") fun _ ↦ .request (.register (some "other") "other")
    else .done
  memory := ()

/-- Both listeners are registered and a round begins. -/
def replaced : Run Unit :=
  .script World.ofReplacer [] (.call (.register (some "replacer") "replacer") fun _ ↦
    .call (.register (some "other") "other") fun _ ↦ .request (.notify .null))

/-- The other listener is there when its turn comes, but under a new ticket, and is passed over. -/
theorem round_calls_who_is_still_registered_of_replaced :
    (replaced.after 7).world.registry.contains (.named "other") = true ∧
      ∃ rest, replaced.after 8 =
        .answer (replaced.after 7).world [.round none (.value .null) rest, .awaiting fun _ ↦ .done] .null := by
  have hpast : History (.idle World.ofReplacer) _ (replaced.after 2) :=
    .trans (.call .begin rfl _) (.steps replaced 2)
  obtain ⟨-, -, hturns, -⟩ := round_calls_who_is_still_registered (n := 6) hpast rfl rfl (.notify rfl) (by decide)
  obtain ⟨rest, -, -, hgone⟩ := hturns 4 (by decide) (1, .named "other") rfl
  exact ⟨by decide, rest, hgone (by decide)⟩

end Statechart
