import Statechart.Proofs.Cancellation
import Statechart.Proofs.Newsletter.Life

/-!
# The balance of a form

The tokens of a form's submissions are all different, and so are those of the submissions that still wait in the queue
of its service (`Waiting`). The account is balanced (`Balanced`) if the submissions with a token that is not cancelled
are those that the state of the service calls for: the one whose token the context holds while a submission is under
way, and none otherwise. Cancelling the token of the context and beginning a submission are the two entries that the
effects of the machine make (`live_cancel`, `live_withSubmission`).

`Kept` gathers what holds of a form's world at every moment, for the service `s` and the signup `c` that it holds.
-/

set_option autoImplicit false
set_option relaxedAutoImplicit false

namespace Statechart

namespace World

variable {σ : Type} (w : World σ)

theorem updateService_of_single {s : Service σ} (h : w.services = [s]) (f : Service σ → Service σ) :
    w.updateService 0 f = { w with services := [f s] } := by
  rw [updateService, h]
  rfl

theorem updateHost_of_single {h : Host} (hhosts : w.hosts = [h]) (f : Host → Host) :
    w.updateHost 0 f = { w with hosts := [f h] } := by
  rw [updateHost, hhosts]
  rfl

end World

namespace Newsletter

/-- The name under which a form makes its tokens. -/
def tokenId (k : Nat) : String := "newsletter-submit/" ++ toString k

theorem tokenId_inj {j k : Nat} (h : tokenId j = tokenId k) : j = k := by
  have hrepr : j.repr = k.repr := (String.append_right_inj "newsletter-submit/").mp h
  have hdigits := congrArg String.toList hrepr
  rw [Nat.toList_repr, Nat.toList_repr] at hdigits
  rw [← Nat.ofDigitChars_ten_toDigits (n := j), hdigits, Nat.ofDigitChars_ten_toDigits]

/-- The token that comes with a wish. -/
def Wish.token? : Wish → Option Value
  | .submit _ token => some token
  | .cancel | .reset => none

section

variable (w : World FormMemory)

/-- The tokens of the submissions that were begun, in order. -/
def begun : List Value := w.memory.own.submissions.map (·.token)

/-- Whether a value is a token that is not cancelled. -/
def isLive : Value → Bool
  | .token id => !(w.token id).cancelled
  | _ => false

/-- The tokens of submissions that are not cancelled. -/
def live : List Value := (begun w).filter (isLive w)

/-- A value is one of the tokens that the form made. -/
def Issued (t : Value) : Prop := ∃ k < w.memory.own.tokens, t = .token (tokenId k)

/-- Different tokens, none of them cancelled, with which no submission was begun. -/
def Waiting (ts : List Value) : Prop := ts.Nodup ∧ ∀ t ∈ ts, Issued w t ∧ t ∉ begun w ∧ isLive w t = true

/-- The submissions that are not cancelled are those that the state calls for. -/
def Balanced (value : Value) (c : Signup) : Prop :=
  (value = submitting ∧ live w = [c.token]) ∨ (value ∈ atRest ∧ live w = [])

end

/-- What holds of a form's world, with its service and the signup that it holds, at every moment. A form that is being
created may not be known by its name yet. -/
structure Kept (named : String → Published → Script FormMemory) (sink : Sink) (creating : Prop)
    (w : World FormMemory) (s : Service FormMemory) (c : Signup) : Prop where
  services : w.services = [s]
  behaviour : w.behaviour = behaviour named
  machine : s.machine = machine startSubmission (some clearInput) sink
  context : s.state.context = c.toValue
  listeners : s.status = .running → s.listeners.entries = [(0, .keeper 0)]
  host : ∃ h, w.hosts = [h] ∧ h.service = 0 ∧ s.status = if h.closed then .stopped else .running
  known : World.lookup? w.names Form.host = some (.host 0) ∨ creating ∧ World.lookup? w.names Form.host = none
  canBegin : w.memory.own.canBegin = true
  callbacks : ∀ id, ∀ l ∈ (w.token id).callbacks, ∃ n, l = .numbered n
  issued : ∀ t ∈ begun w, Issued w t
  distinct : (begun w).Nodup
  queue : ∃ wishes : List Wish, s.queue = wishes.map Wish.event ∧ Waiting w (wishes.filterMap Wish.token?)

section

variable {named : String → Published → Script FormMemory} {sink : Sink} {creating : Prop} {v w : World FormMemory}
  {s : Service FormMemory} {c d : Signup}

theorem Beside.begun (h : Beside w v) : begun v = begun w := by
  obtain ⟨_, _, rfl, halike⟩ := h
  exact halike.2.2

theorem Beside.isLive (h : Beside w v) : isLive v = isLive w := by
  obtain ⟨_, _, rfl, _⟩ := h
  rfl

theorem Beside.live (h : Beside w v) : live v = live w := by
  rw [Newsletter.live, Newsletter.live, h.begun, h.isLive]

theorem Beside.issued (h : Beside w v) (t : Value) : Issued v t ↔ Issued w t := by
  obtain ⟨_, _, rfl, halike⟩ := h
  rw [Issued, Issued, halike.2.1]

theorem Beside.waiting (h : Beside w v) {ts : List Value} (hts : Waiting w ts) : Waiting v ts := by
  refine ⟨hts.1, fun t ht ↦ ?_⟩
  rw [h.issued, h.begun, h.isLive]
  exact hts.2 t ht

theorem Beside.balanced (h : Beside w v) {value : Value} (hbalanced : Balanced w value c) : Balanced v value c := by
  rw [Balanced, h.live]
  exact hbalanced

theorem Kept.beside (h : Kept named sink creating w s c) (hbeside : Beside w v) :
    Kept named sink creating v s c := by
  obtain ⟨wishes, hqueue, hwaiting⟩ := h.queue
  have hwaiting := hbeside.waiting hwaiting
  have hissued (t : Value) (ht : t ∈ Newsletter.begun v) : Issued v t :=
    (hbeside.issued t).mpr (h.issued t (hbeside.begun ▸ ht))
  have hdistinct : (Newsletter.begun v).Nodup := hbeside.begun ▸ h.distinct
  obtain ⟨_, _, rfl, halike⟩ := hbeside
  exact {
    services := h.services, behaviour := h.behaviour, machine := h.machine, context := h.context
    listeners := h.listeners, host := h.host, known := h.known, canBegin := halike.1.trans h.canBegin
    callbacks := h.callbacks, issued := hissued, distinct := hdistinct, queue := ⟨wishes, hqueue, hwaiting⟩ }

/-- A form that was created is known by its name. -/
theorem Kept.lookup_host (h : Kept named sink False w s c) : World.lookup? w.names Form.host = some (.host 0) := by
  rcases h.known with hknown | ⟨hcreating, -⟩
  · exact hknown
  · cases hcreating

/-- The service goes on to another state of its own: it does not start or stop, and keeps its listeners. -/
theorem Kept.service (h : Kept named sink creating w s c) {t : Service FormMemory}
    (hmachine : t.machine = s.machine) (hcontext : t.state.context = d.toValue)
    (hstatus : t.status = s.status) (hlisteners : t.listeners = s.listeners)
    (hqueue : ∃ wishes : List Wish, t.queue = wishes.map Wish.event ∧ Waiting w (wishes.filterMap Wish.token?)) :
    Kept named sink creating { w with services := [t] } t d := by
  obtain ⟨host, hhosts, hservice, hclosed⟩ := h.host
  exact { h with
    services := rfl, machine := hmachine.trans h.machine, context := hcontext, queue := hqueue
    listeners := fun hrun ↦ by
      rw [hlisteners]
      exact h.listeners (hstatus.symm.trans hrun)
    host := ⟨host, hhosts, hservice, hstatus.trans hclosed⟩ }

/-- The token of a submission that is not cancelled is a token that the form made. -/
theorem Kept.issued_of_live (h : Kept named sink creating w s c) {t : Value} (ht : t ∈ live w) : Issued w t :=
  h.issued t (List.mem_filter.mp ht).1

/-! ### Cancelling a token and beginning a submission -/

theorem isLive_setToken_self (id : String) (token : Token) :
    isLive (w.setToken id token) (.token id) = !token.cancelled := by
  rw [isLive, World.token_setToken, if_pos rfl]

theorem isLive_setToken_of_ne {id : String} {t : Value} (h : t ≠ .token id) (token : Token) :
    isLive (w.setToken id token) t = isLive w t := by
  cases t with
  | token other =>
    have hid : ¬ id = other := fun hid ↦ h (by rw [hid])
    rw [isLive, World.token_setToken, if_neg hid]
    rfl
  | _ => rfl

/-- Once the only token that is not cancelled is cancelled, there is none. -/
theorem live_cancel {id : String} {token : Token} (hlive : live w = [.token id]) (htoken : token.cancelled = true) :
    live (w.setToken id token) = [] := by
  rw [live, List.filter_eq_nil_iff]
  intro t ht
  by_cases h : t = .token id
  · rw [h, isLive_setToken_self, htoken]
    simp
  · rw [isLive_setToken_of_ne h]
    intro hlive'
    have hmem : t ∈ live w := List.mem_filter.mpr ⟨ht, hlive'⟩
    rw [hlive, List.mem_singleton] at hmem
    exact h hmem

/-- A token with which no submission was begun has no say in which submissions are live. -/
theorem live_setToken_of_not_begun {id : String} (h : .token id ∉ begun w) (token : Token) :
    live (w.setToken id token) = live w := by
  refine List.filter_congr fun t ht ↦ isLive_setToken_of_ne (fun heq ↦ ?_) token
  exact h (heq ▸ ht)

/-- A token that is cancelled or not as before has no say in which submissions are live either. -/
theorem live_setToken_of_same {id : String} {token : Token} (h : token.cancelled = (w.token id).cancelled) :
    live (w.setToken id token) = live w := by
  refine List.filter_congr fun t _ ↦ ?_
  by_cases ht : t = .token id
  · rw [ht, isLive_setToken_self, h, isLive]
  · exact isLive_setToken_of_ne ht token

/-- A world with a token that was changed: one that is live afterwards, or one of a submission that was begun. -/
theorem Kept.setToken (h : Kept named sink creating w s c) {id : String} {token : Token}
    (htoken : token.cancelled = false ∨ .token id ∈ begun w)
    (hcallbacks : ∀ l ∈ token.callbacks, ∃ n, l = .numbered n) :
    Kept named sink creating (w.setToken id token) s c := by
  obtain ⟨wishes, hqueue, hdistinct, hwaiting⟩ := h.queue
  exact { h with
    callbacks := fun other l hl ↦ by
      rw [World.token_setToken] at hl
      by_cases hid : id = other
      · rw [if_pos hid] at hl
        exact hcallbacks l hl
      · rw [if_neg hid] at hl
        exact h.callbacks other l hl
    queue := ⟨wishes, hqueue, hdistinct, fun t ht ↦ by
      obtain ⟨hissued, hnew, hlive⟩ := hwaiting t ht
      refine ⟨hissued, hnew, ?_⟩
      by_cases heq : t = .token id
      · subst heq
        rw [isLive_setToken_self, htoken.resolve_right hnew]
        rfl
      · rw [isLive_setToken_of_ne heq]
        exact hlive⟩ }

/-- The token that is made next is none of those that were made before. -/
theorem not_issued_next : ¬ Issued w (.token (tokenId w.memory.own.tokens)) := by
  rintro ⟨k, hk, heq⟩
  rw [Value.token.injEq] at heq
  exact absurd (tokenId_inj heq) (Nat.ne_of_gt hk)

/-- A world in which one more token was made. -/
def drawn (w : World FormMemory) : World FormMemory :=
  { w with memory := { w.memory with own := w.memory.own.nextToken.2 } }

theorem issued_drawn {t : Value} (h : Issued w t) : Issued (drawn w) t := by
  obtain ⟨k, hk, rfl⟩ := h
  exact ⟨k, Nat.lt_succ_of_lt hk, rfl⟩

theorem Waiting.drawn {ts : List Value} (h : Waiting w ts) : Waiting (drawn w) ts :=
  ⟨h.1, fun t ht ↦ ⟨issued_drawn (h.2 t ht).1, (h.2 t ht).2⟩⟩

theorem Kept.drawn (h : Kept named sink creating w s c) : Kept named sink creating (drawn w) s c := by
  obtain ⟨wishes, hqueue, hwaiting⟩ := h.queue
  exact { h with issued := fun t ht ↦ issued_drawn (h.issued t ht), queue := ⟨wishes, hqueue, hwaiting.drawn⟩ }

/-- A world in which a submission was begun for an address and a token. -/
def withSubmission (w : World FormMemory) (email token : Value) : World FormMemory :=
  { w with memory := { w.memory with own := (w.memory.own.begin? email token).2 } }

theorem Beside.withSubmission (h : Beside w v) (email token : Value) :
    Beside (withSubmission w email token) (withSubmission v email token) := by
  obtain ⟨_, _, rfl, halike⟩ := h
  exact ⟨_, _, rfl, halike.begin email token⟩

theorem begun_withSubmission (h : w.memory.own.canBegin = true) (email token : Value) :
    begun (withSubmission w email token) = begun w ++ [token] := by
  simp [begun, withSubmission, Desk.begin?, h]

/-- A submission that is begun while no other is live is the only one. -/
theorem live_withSubmission (h : w.memory.own.canBegin = true) {email token : Value} (hlive : live w = [])
    (htoken : isLive w token = true) : live (withSubmission w email token) = [token] := by
  have hrest : (begun w).filter (isLive w) = [] := hlive
  rw [live, begun_withSubmission h, List.filter_append]
  change (begun w).filter (isLive w) ++ [token].filter (isLive w) = [token]
  rw [hrest, List.filter_cons_of_pos htoken]
  rfl

theorem Kept.withSubmission (h : Kept named sink creating w s c) {email token : Value} (hissued : Issued w token)
    (hnew : token ∉ begun w)
    (hqueue : ∃ wishes : List Wish, s.queue = wishes.map Wish.event ∧
      Waiting w (token :: wishes.filterMap Wish.token?)) :
    Kept named sink creating (withSubmission w email token) s c := by
  have hbegun := begun_withSubmission h.canBegin email token
  have htokens : (Newsletter.withSubmission w email token).memory.own.tokens = w.memory.own.tokens := by
    simp [Newsletter.withSubmission, Desk.begin?, h.canBegin]
  obtain ⟨wishes, hevents, hdistinct, hwaiting⟩ := hqueue
  obtain ⟨hother, hdistinct⟩ := List.nodup_cons.mp hdistinct
  exact { h with
    canBegin := by simp [Newsletter.withSubmission, Desk.begin?, h.canBegin]
    issued := fun t ht ↦ by
      rw [hbegun, List.mem_append, List.mem_singleton] at ht
      rw [Issued, htokens]
      rcases ht with ht | rfl
      · exact h.issued t ht
      · exact hissued
    distinct := by
      rw [hbegun, List.nodup_append]
      refine ⟨h.distinct, by simp, fun t ht t' ht' heq ↦ ?_⟩
      rw [List.mem_singleton] at ht'
      exact hnew (ht' ▸ heq ▸ ht)
    queue := ⟨wishes, hevents, hdistinct, fun t ht ↦ by
      obtain ⟨htissued, htnew, htlive⟩ := hwaiting t (List.mem_cons_of_mem _ ht)
      refine ⟨by rw [Issued, htokens]; exact htissued, ?_, htlive⟩
      rw [hbegun, List.mem_append, List.mem_singleton]
      rintro (hold | rfl)
      · exact htnew hold
      · exact hother ht⟩ }

end

end Newsletter

end Statechart
