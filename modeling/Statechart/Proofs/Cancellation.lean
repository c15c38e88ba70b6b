import Statechart.Proofs.Holdings

/-!
# What becomes of tokens

Three requests of scripts work on a token: one makes it, one cancels it, one adds a callback. `Token.Change` lists what
a step does to the token of a name, with the request that it takes, and `Run.step_change` says that every step does one
of these. So a token is cancelled by a request for it and by nothing else (`Run.request_of_cancelled`), and is cancelled
for good, as long as no token is made anew under its name (`Run.cancelled_step`).
-/

set_option autoImplicit false
set_option relaxedAutoImplicit false

namespace Statechart

variable {σ : Type}

namespace World

theorem lookup?_bind {α : Type} (names : List (String × α)) (name other : String) (a : α) :
    lookup? (bind names name a) other = if name = other then some a else lookup? names other := by
  induction names with
  | nil =>
    by_cases h : name = other
    · simp [bind, lookup?, h]
    · simp [bind, lookup?, h]
  | cons n rest ih =>
    obtain ⟨m, b⟩ := n
    unfold lookup? at ih ⊢
    by_cases hname : m = name
    · subst hname
      by_cases h : m = other
      · simp [bind, h]
      · simp [bind, h]
    · by_cases h : m = other
      · subst h
        simp [bind, hname, Ne.symm hname]
      · simpa [bind, hname, h] using ih

variable (w : World σ)

theorem token_setToken (id other : String) (t : Token) :
    (w.setToken id t).token other = if id = other then t else w.token other := by
  unfold token
  rw [setToken, lookup?_bind]
  by_cases h : id = other
  · simp [h]
  · simp [h]

@[simp] theorem tokens_setRegistry (owner : Option Nat) (r : Registry) :
    (w.setRegistry owner r).tokens = w.tokens := by
  cases owner <;> rfl

end World

/-- The token that a request works on. -/
def Request.token? : Request σ → Option String
  | .createToken t _ | .cancel t _ | .onCancel t _ => some t
  | _ => none

/-- What one step does to the token of a name, with the request that the step takes. -/
inductive Token.Change (t : String) (request : Option (Request σ)) : Token → Token → Prop
  | kept {a} : Change t request a a
  | made {name a} (h : request = some (.createToken t name)) : Change t request a { name := name }
  | cancelled {reason a} (h : request = some (.cancel t reason)) (ha : a.cancelled = false) :
      Change t request a (a.cancel reason).1
  | watched {l a} (h : request = some (.onCancel t l)) (ha : a.cancelled = false) :
      Change t request a { a with callbacks := a.callbacks ++ [l] }

namespace Run

/-! ### Steps that leave all tokens alone -/

@[simp] theorem tokens_unsubscribe (w : World σ) (h : Handle) : (unsubscribe w h).1.tokens = w.tokens := by
  simp [unsubscribe]

/-- A request that works on no token leaves all tokens as they are. -/
theorem tokens_perform (w : World σ) (stack : List (Frame σ)) {q : Request σ} (hq : q.token? = none) :
    (perform w stack q).world.tokens = w.tokens := by
  cases hholds : q.holds with
  | false => exact congrArg Holdings.tokens (holdings_perform w stack hholds)
  | true =>
    cases q with
    | createToken | cancel | onCancel => cases hq
    | subscribe name l subscription =>
      rcases perform_subscribe w stack name l subscription with ⟨f, hfails⟩ | ⟨id, s, -, hsubscribe⟩
      · rw [hfails]
        rfl
      · rw [hsubscribe]
        exact congrArg Holdings.tokens (holdings_subscribe w stack id s _ _)
    | unsubscribe | scope | register | clear | remove =>
      simp only [perform]
      repeat' split
      all_goals first | rfl | exact tokens_unsubscribe w _
    | _ => cases hholds

/-- A step that takes no request leaves all tokens as they are. -/
theorem tokens_step {r : Run σ} (h : r.request? = none) : r.step.world.tokens = r.world.tokens := by
  obtain ⟨w, stack, signal⟩ := r
  cases stack with
  | nil => rfl
  | cons frame stack =>
    cases hframe : frame.handle? with
    | none => exact congrArg Holdings.tokens (holdings_step h hframe)
    | some handle =>
      cases frame <;> cases hframe
      cases signal <;> rfl

/-! ### What a step does to a token -/

variable {r : Run σ} {t : String}

/-- Every step changes a token in one of the ways of `Token.Change`. -/
theorem step_change (r : Run σ) (t : String) :
    Token.Change t (r.request?.map (·.1)) (r.world.token t) (r.step.world.token t) := by
  have hsame {w : World σ} {request : Option (Request σ)} (h : w.tokens = r.world.tokens) :
      Token.Change t request (r.world.token t) (w.token t) := by
    rw [World.token, World.token, h]
    exact .kept
  have hset {id : String} {token : Token} {request : Option (Request σ)}
      (h : id = t → Token.Change t request (r.world.token t) token) :
      Token.Change t request (r.world.token t) ((r.world.setToken id token).token t) := by
    rw [World.token_setToken]
    split
    · next hid => exact h hid
    · exact .kept
  cases hrequest : r.request? with
  | none => exact hsame (tokens_step hrequest)
  | some p =>
    obtain ⟨q, below⟩ := p
    rw [step_of_request hrequest]
    cases q with
    | createToken id name =>
      refine hset ?_
      rintro rfl
      exact .made rfl
    | cancel id reason =>
      simp only [perform, cancel]
      split
      · exact .kept
      · next hopen =>
        refine hset ?_
        rintro rfl
        exact .cancelled rfl (by simpa using hopen)
    | onCancel id l =>
      simp only [perform]
      split
      · exact hsame (congrArg Holdings.tokens (holdings_call r.world (.reply .null :: below) l _))
      · next hopen =>
        refine hset ?_
        rintro rfl
        exact .watched rfl (by simpa using hopen)
    | _ => exact hsame (tokens_perform r.world below rfl)

/-- The name under which the next step makes a token. -/
def made? (r : Run σ) : Option String :=
  match r.request? with
  | some (.createToken t _, _) => some t
  | _ => none

/-- No token is made under the name of a cancelled one. -/
def KeepsNames (r : Run σ) : Prop := ∀ t ∈ r.made?, (r.world.token t).cancelled = false

instance (r : Run σ) : Decidable r.KeepsNames :=
  inferInstanceAs (Decidable (∀ t ∈ r.made?, (r.world.token t).cancelled = false))

theorem cancelled_step (h : (r.world.token t).cancelled = true) (hnames : r.KeepsNames) :
    (r.step.world.token t).cancelled = true := by
  have hchange := r.step_change t
  generalize r.step.world.token t = after at hchange
  cases hchange with
  | kept => exact h
  | made hrequest =>
    obtain ⟨⟨q, below⟩, hrequest, rfl⟩ := Option.map_eq_some_iff.mp hrequest
    have hopen : (r.world.token t).cancelled = false := hnames t (by simp [made?, hrequest])
    cases hopen.symm.trans h
  | cancelled => rfl
  | watched => exact h

theorem cancelled_of_request {reason : Value} {below : List (Frame σ)}
    (h : r.request? = some (.cancel t reason, below)) : (r.step.world.token t).cancelled = true := by
  rw [step_of_request h]
  simp only [perform, cancel]
  split
  · assumption
  · change ((r.world.setToken t _).token t).cancelled = true
    rw [World.token_setToken, if_pos rfl]
    rfl

/-- Only a request for it cancels a token. -/
theorem request_of_cancelled (h : (r.world.token t).cancelled = false) (h' : (r.step.world.token t).cancelled = true) :
    ∃ reason below, r.request? = some (.cancel t reason, below) := by
  have hchange := r.step_change t
  generalize r.step.world.token t = after at hchange h'
  cases hchange with
  | kept => cases h.symm.trans h'
  | made hrequest => cases h'
  | cancelled hrequest ha =>
    obtain ⟨⟨q, below⟩, hrequest, rfl⟩ := Option.map_eq_some_iff.mp hrequest
    exact ⟨_, below, hrequest⟩
  | watched => cases h.symm.trans h'

end Run

end Statechart
