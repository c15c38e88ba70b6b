import Statechart.Proofs.Call

/-!
# What a step puts on the stack

A few frames come onto a stack in one way only: those that make a host, and the loop over the callbacks of a cancelled
token; a round that passes a state to the free registry never does. All others are plain. A step keeps what stands below
its frame and puts plain frames on it, above one that is not plain where it makes a host or goes over the callbacks of a
token (`Run.step_follows`).
-/

set_option autoImplicit false
set_option relaxedAutoImplicit false

namespace Statechart

variable {σ : Type}

/-- A frame that neither makes a host, nor calls the callbacks of a token, nor passes a state to the free registry. -/
def Frame.isPlain : Frame σ → Bool
  | .creatingHost .. | .hostStarted .. | .cancelling .. | .round none (.state _) _ => false
  | _ => true

/-- A request that puts plain frames on the stack. -/
def Request.isPlain : Request σ → Bool
  | .createHost .. | .cancel .. => false
  | _ => true

namespace Run

/-- A run that has put plain frames on a stack, if any. -/
def PlainOn (stack : List (Frame σ)) (r : Run σ) : Prop :=
  ∃ above, r.stack = above ++ stack ∧ ∀ frame ∈ above, frame.isPlain = true

section

variable (w : World σ) (stack : List (Frame σ))

theorem plain_of_eq {stack : List (Frame σ)} {r : Run σ} (h : r.stack = stack) : PlainOn stack r :=
  ⟨[], h, by simp⟩

theorem PlainOn.below {stack : List (Frame σ)} {frame : Frame σ} {r : Run σ} (h : PlainOn (frame :: stack) r)
    (hframe : frame.isPlain = true) : PlainOn stack r := by
  obtain ⟨above, hstack, habove⟩ := h
  refine ⟨above ++ [frame], by simpa using hstack, fun f hf ↦ ?_⟩
  rcases List.mem_append.mp hf with hf | hf
  · exact habove f hf
  · rwa [List.mem_singleton.mp hf]

theorem plain_script (s : Script σ) : PlainOn stack (script w stack s) := .below (plain_of_eq rfl) rfl

theorem plain_call (l : Listener) (what : Published) : PlainOn stack (call w stack l what) := by
  cases l with
  | named name => exact plain_script w stack _
  | numbered n => exact plain_script w stack _
  | keeper id =>
    simp only [call]
    cases w.hosts[id]? with
    | none => exact plain_of_eq rfl
    | some h =>
      dsimp only
      cases h.onChange with
      | none => exact plain_of_eq rfl
      | some name => exact plain_script _ stack _

theorem plain_ofOutcome (o : Outcome Answer) : PlainOn stack (ofOutcome w stack o) := by
  cases o <;> exact plain_of_eq rfl

theorem plain_start (id : Nat) (s : Service σ) : PlainOn stack (start w stack id s) := by
  unfold start
  cases s.status with
  | running => exact plain_of_eq rfl
  | stopped => exact plain_of_eq rfl
  | notStarted => exact .below (.below (.below (plain_of_eq rfl) rfl) rfl) rfl

theorem plain_send (id : Nat) (s : Service σ) (v : Value) : PlainOn stack (send w stack id s v) := by
  unfold send
  cases Event.ofValue v with
  | error f => exact plain_of_eq rfl
  | ok event =>
    dsimp only
    repeat' split
    · exact plain_of_eq rfl
    · exact plain_of_eq rfl
    · exact .below (.below (plain_of_eq rfl) rfl) rfl

theorem plain_withService {name : String} {k : Nat → Service σ → Run σ} (h : ∀ id s, PlainOn stack (k id s)) :
    PlainOn stack (withService w stack name k) := by
  unfold withService
  repeat' split
  · exact plain_of_eq rfl
  · exact plain_of_eq rfl
  · exact h _ _

theorem plain_withOwnService {name : String} {k : Nat → Service σ → Run σ} (h : ∀ id s, PlainOn stack (k id s)) :
    PlainOn stack (withOwnService w stack name k) := by
  unfold withOwnService
  split
  · exact plain_of_eq rfl
  · exact plain_withService w stack h

/-- All requests but two put plain frames on the stack. -/
theorem plain_perform {q : Request σ} (hq : q.isPlain = true) : PlainOn stack (perform w stack q) := by
  cases q with
  | createHost | cancel => cases hq
  | create name => exact .below (plain_script w _ _) rfl
  | start name => exact plain_withOwnService w stack fun id s ↦ plain_start w stack id s
  | stop name => exact plain_withOwnService w stack fun id s ↦ plain_of_eq rfl
  | enter name =>
    simp only [perform]
    split
    · exact plain_of_eq rfl
    · exact plain_withService w stack fun id s ↦ plain_start w stack id s
  | leave name =>
    simp only [perform]
    split
    · exact plain_of_eq rfl
    · exact plain_withService w stack fun id s ↦ plain_of_eq rfl
  | send name v => exact plain_withService w stack fun id s ↦ plain_send w stack id s v
  | subscribe name l subscription =>
    exact plain_withOwnService w stack fun id s ↦ .below (plain_call _ (.keep subscription _ :: stack) _ _) rfl
  | describe name => exact plain_withService w stack fun id s ↦ plain_ofOutcome w stack _
  | isActive subscription => exact plain_ofOutcome w stack _
  | checkToken token => exact plain_ofOutcome w stack _
  | onCancel token callback =>
    simp only [perform]
    split
    · exact .below (plain_call w (.reply .null :: stack) callback _) rfl
    · exact plain_of_eq rfl
  | write sink level text =>
    simp only [perform, write]
    repeat' split
    all_goals exact plain_of_eq rfl
  | notify v => exact .below (plain_of_eq rfl) rfl
  | unsubscribe | scope | matchesValue | report | close | register | remove | hasTicket =>
    simp only [perform]
    repeat' split
    all_goals exact plain_of_eq rfl
  | _ => exact plain_of_eq rfl

theorem plain_proceed {s : Script σ} (h : ∀ p ∈ s.request? stack, p.1.isPlain = true) :
    PlainOn stack (proceed w stack s) := by
  cases s with
  | done => exact plain_of_eq rfl
  | fail f => exact plain_of_eq rfl
  | call q next => exact .below (plain_perform w _ (h (q, _) rfl)) rfl
  | attempt q next => exact .below (plain_perform w _ (h (q, _) rfl)) rfl

end

theorem plain_unwind {w : World σ} {stack : List (Frame σ)} {frame : Frame σ} {f : Failure}
    (hframe : frame.isPlain = true) (hrequest : ∀ p ∈ request? ⟨w, frame :: stack, .failing f⟩, p.1.isPlain = true) :
    PlainOn stack (unwind w stack f frame) := by
  cases frame with
  | creatingHost | hostStarted | cancelling => cases hframe
  | attempting next => exact plain_proceed w stack hrequest
  | opening id =>
    simp only [unwind]
    split <;> exact plain_of_eq rfl
  | _ => exact plain_of_eq rfl

theorem plain_resume {w : World σ} {stack : List (Frame σ)} {frame : Frame σ} {a : Answer}
    (hframe : frame.isPlain = true) (hrequest : ∀ p ∈ request? ⟨w, frame :: stack, .returning a⟩, p.1.isPlain = true) :
    PlainOn stack (resume w stack a frame) := by
  cases frame with
  | creatingHost | hostStarted | cancelling => cases hframe
  | awaiting next => exact plain_proceed w stack hrequest
  | attempting next => exact plain_proceed w stack hrequest
  | effects id context event rest =>
    cases rest with
    | nil => exact plain_of_eq rfl
    | cons e rest => exact .below (plain_script _ (.effects id context event rest :: stack) _) rfl
  | opening id => exact .below (plain_of_eq rfl) rfl
  | drain id =>
    simp only [resume, drain]
    repeat' split
    · exact plain_of_eq rfl
    · exact .below (.below (plain_script _ (.moving id _ _ :: .drain id :: stack) _) rfl) rfl
    · exact plain_of_eq rfl
  | moving id source event =>
    simp only [resume, move]
    repeat' split
    · exact plain_of_eq rfl
    · exact plain_of_eq rfl
    · exact .below (.below (plain_of_eq rfl) rfl) rfl
  | announce id event =>
    simp only [resume]
    split
    · exact plain_of_eq rfl
    · exact .below (plain_of_eq rfl) rfl
  | round owner what rest =>
    cases rest with
    | nil => exact plain_of_eq rfl
    | cons e rest =>
      have hrest : (Frame.round owner what rest : Frame σ).isPlain = true := by
        cases owner <;> cases what <;> first | rfl | cases hframe
      simp only [resume]
      split
      · exact .below (plain_call _ (.round owner what rest :: stack) _ _) hrest
      · exact .below (plain_of_eq rfl) hrest
  | creating name =>
    simp only [resume, create]
    split <;> exact plain_of_eq rfl
  | sent id =>
    simp only [resume]
    split <;> exact plain_of_eq rfl
  | _ => exact plain_of_eq rfl

/-- A step of a plain frame whose request is plain puts plain frames on the stack below. -/
theorem plain_step {w : World σ} {stack : List (Frame σ)} {frame : Frame σ} {signal : Signal}
    (hframe : frame.isPlain = true) (hrequest : ∀ p ∈ request? ⟨w, frame :: stack, signal⟩, p.1.isPlain = true) :
    PlainOn stack (step ⟨w, frame :: stack, signal⟩) := by
  cases signal with
  | failing f => exact plain_unwind hframe hrequest
  | returning a => exact plain_resume hframe hrequest

/-- A stack that begins with a frame that is not plain, by the frame or the request that leads to it. -/
inductive Follows (r : Run σ) : List (Frame σ) → Prop
  | creatingHost {name onChange below} (h : r.request? = some (.createHost name onChange, below)) :
      Follows r (.creatingHost name onChange :: below)
  | cancelling {token reason below} (h : r.request? = some (.cancel token reason, below)) :
      Follows r (.cancelling token (r.world.token token).callbacks :: .reply .yes :: below)
  | hostStarted {name onChange stack} (h : r.stack = .creatingHost name onChange :: stack) :
      Follows r (.hostStarted r.world.hosts.length name :: stack)
  | loop {token l rest stack} (h : r.stack = .cancelling token (l :: rest) :: stack) :
      Follows r (.cancelling token rest :: stack)
  | round {s e rest stack} (h : r.stack = .round none (.state s) (e :: rest) :: stack) :
      Follows r (.round none (.state s) rest :: stack)

/-- What waits for the answer to a request is a plain frame on the stack below the one of the script. -/
theorem below_of_request {r : Run σ} {q : Request σ} {below : List (Frame σ)} (h : r.request? = some (q, below)) :
    ∃ frame waiting stack, r.stack = frame :: stack ∧ frame.isPlain = true ∧ below = waiting :: stack ∧
      waiting.isPlain = true := by
  have hscript (stack : List (Frame σ)) (s : Script σ) (hs : s.request? stack = some (q, below)) :
      ∃ waiting, below = waiting :: stack ∧ waiting.isPlain = true := by
    cases s <;> cases hs <;> exact ⟨_, rfl, rfl⟩
  cases asks_of_request h with
  | awaiting hs | attempting hs | caught hs =>
    obtain ⟨waiting, hbelow, hplain⟩ := hscript _ _ hs
    exact ⟨_, waiting, _, rfl, rfl, hbelow, hplain⟩

/-- A step of a frame that is not plain leaves the stack below, with plain frames on it, or follows the frame up. -/
theorem follows_of_frame {w : World σ} {stack : List (Frame σ)} {frame : Frame σ} {signal : Signal}
    (hframe : frame.isPlain = false) : PlainOn stack (step ⟨w, frame :: stack, signal⟩) ∨
      ∃ base, Follows ⟨w, frame :: stack, signal⟩ base ∧ PlainOn base (step ⟨w, frame :: stack, signal⟩) := by
  cases signal with
  | failing f => cases frame <;> first | exact .inl (plain_of_eq rfl) | cases hframe
  | returning a =>
    cases frame with
    | creatingHost name onChange =>
      simp only [step, resume, createHost]
      split
      · exact .inl (plain_of_eq rfl)
      · next w' id hnew =>
        obtain ⟨m, initial, -, -, rfl, rfl⟩ := newService_spec hnew
        split
        · exact .inl (plain_of_eq rfl)
        · exact .inr ⟨_, .hostStarted rfl, plain_start _ _ _ _⟩
    | hostStarted host name =>
      refine .inl ?_
      simp only [step, resume]
      repeat' split
      · exact plain_of_eq rfl
      · exact plain_of_eq rfl
      · exact .below (plain_call _ (.hostReady host name :: stack) _ _) rfl
    | cancelling token rest =>
      cases rest with
      | nil => exact .inl (plain_of_eq rfl)
      | cons l rest => exact .inr ⟨_, .loop rfl, plain_call _ _ _ _⟩
    | round owner what rest =>
      cases rest with
      | nil => exact .inl (plain_of_eq rfl)
      | cons e rest =>
        cases owner with
        | some id => cases hframe
        | none =>
          cases what with
          | token | value => cases hframe
          | state s =>
            refine .inr ⟨_, .round rfl, ?_⟩
            simp only [step, resume]
            split
            · exact plain_call _ _ _ _
            · exact plain_of_eq rfl
    | _ => cases hframe

/-- A step keeps the stack below its frame and puts plain frames on it, above one frame that is not plain at most. -/
theorem step_follows (r : Run σ) : PlainOn r.stack.tail r.step ∨ ∃ base, r.Follows base ∧ PlainOn base r.step := by
  cases hrequest : r.request? with
  | some p =>
    obtain ⟨q, below⟩ := p
    obtain ⟨frame, waiting, stack, hstack, -, rfl, hwaiting⟩ := below_of_request hrequest
    rw [step_of_request hrequest, hstack]
    by_cases hq : q.isPlain = true
    · exact .inl ((plain_perform _ _ hq).below hwaiting)
    · cases q with
      | createHost name onChange => exact .inr ⟨_, .creatingHost hrequest, plain_script _ _ _⟩
      | cancel token reason =>
        simp only [perform, cancel]
        split
        · exact .inl ((plain_of_eq rfl).below hwaiting)
        · exact .inr ⟨_, .cancelling hrequest, plain_of_eq rfl⟩
      | _ => exact absurd rfl hq
  | none =>
    obtain ⟨w, stack, signal⟩ := r
    cases stack with
    | nil => exact .inl (plain_of_eq rfl)
    | cons frame stack =>
      by_cases hframe : frame.isPlain = true
      · exact .inl (plain_step hframe (by simp [hrequest]))
      · exact follows_of_frame (Bool.eq_false_iff.mpr hframe)

/-- A frame that is not plain stands in the stack below plain frames, with what stands below it. -/
theorem PlainOn.suffix {stack below : List (Frame σ)} {frame : Frame σ} {r : Run σ} (h : PlainOn stack r)
    (hframe : frame.isPlain = false) (hsuffix : frame :: below <:+ r.stack) : frame :: below <:+ stack := by
  obtain ⟨above, hstack, habove⟩ := h
  rw [hstack] at hsuffix
  clear hstack
  induction above with
  | nil => exact hsuffix
  | cons top above ih =>
    rcases List.suffix_cons_iff.mp hsuffix with heq | hsuffix
    · cases heq
      exact absurd (habove _ List.mem_cons_self) (by simp [hframe])
    · exact ih hsuffix fun f hf ↦ habove f (List.mem_cons_of_mem _ hf)

/-- A frame that is not plain stands there before a step, below the frame on top, or the step leads to it. -/
theorem suffix_step {r : Run σ} {frame : Frame σ} {below : List (Frame σ)} (hframe : frame.isPlain = false)
    (h : frame :: below <:+ r.step.stack) : frame :: below <:+ r.stack.tail ∨ r.Follows (frame :: below) := by
  have hbelow {top : Frame σ} {stack : List (Frame σ)} (htop : top.isPlain = true)
      (h : frame :: below <:+ top :: stack) : frame :: below <:+ stack := by
    rcases List.suffix_cons_iff.mp h with heq | h
    · cases heq
      cases hframe.symm.trans htop
    · exact h
  rcases r.step_follows with hplain | ⟨base, hfollows, hplain⟩
  · exact .inl (hplain.suffix hframe h)
  · have hbase := hplain.suffix hframe h
    cases hfollows with
    | @creatingHost name onChange waiting hrequest =>
      obtain ⟨_, _, stack, hstack, -, rfl, hwaiting⟩ := below_of_request hrequest
      rcases List.suffix_cons_iff.mp hbase with heq | hbase
      · exact .inr (heq ▸ .creatingHost hrequest)
      · exact .inl (hstack ▸ hbelow hwaiting hbase)
    | @cancelling token reason waiting hrequest =>
      obtain ⟨_, _, stack, hstack, -, rfl, hwaiting⟩ := below_of_request hrequest
      rcases List.suffix_cons_iff.mp hbase with heq | hbase
      · exact .inr (heq ▸ .cancelling hrequest)
      · exact .inl (hstack ▸ hbelow hwaiting (hbelow rfl hbase))
    | hostStarted hstack =>
      rcases List.suffix_cons_iff.mp hbase with heq | hbase
      · exact .inr (heq ▸ .hostStarted hstack)
      · exact .inl (hstack ▸ hbase)
    | loop hstack =>
      rcases List.suffix_cons_iff.mp hbase with heq | hbase
      · exact .inr (heq ▸ .loop hstack)
      · exact .inl (hstack ▸ hbase)
    | round hstack =>
      rcases List.suffix_cons_iff.mp hbase with heq | hbase
      · exact .inr (heq ▸ .round hstack)
      · exact .inl (hstack ▸ hbase)

/-- What a view of frames shows of a stack, if it shows no plain frames. -/
theorem PlainOn.filterMap {α : Type} {stack : List (Frame σ)} {r : Run σ} {g : Frame σ → Option α} (h : PlainOn stack r)
    (hg : ∀ frame, frame.isPlain = true → g frame = none) : r.stack.filterMap g = stack.filterMap g := by
  obtain ⟨above, hstack, hplain⟩ := h
  have hnone : above.filterMap g = [] :=
    List.filterMap_eq_nil_iff.mpr fun frame hframe ↦ hg frame (hplain frame hframe)
  rw [hstack, List.filterMap_append, hnone, List.nil_append]

end Run

end Statechart
