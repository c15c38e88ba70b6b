import Statechart.Service.Step

/-!
# What stands below

A step acts on the frame on top of the stack and on the world: `step_onto` says that further frames below a stack
stay as they are and make no difference, as long as the stack above them is not empty.
-/

set_option autoImplicit false
set_option relaxedAutoImplicit false

namespace Statechart.Run

variable {σ : Type}

/-- The run with further frames below its stack. -/
def onto (r : Run σ) (below : List (Frame σ)) : Run σ := { r with stack := r.stack ++ below }

variable (w : World σ) (stack below : List (Frame σ))

theorem call_append (l : Listener) (what : Published) :
    call w (stack ++ below) l what = (call w stack l what).onto below := by
  cases l with
  | named name => rfl
  | numbered n => rfl
  | keeper id =>
    simp only [call]
    cases w.hosts[id]? with
    | none => rfl
    | some h =>
      dsimp only
      cases h.onChange <;> rfl

theorem start_append (id : Nat) (s : Service σ) :
    start w (stack ++ below) id s = (start w stack id s).onto below := by
  unfold start
  cases s.status <;> rfl

theorem send_append (id : Nat) (s : Service σ) (v : Value) :
    send w (stack ++ below) id s v = (send w stack id s v).onto below := by
  unfold send
  cases Event.ofValue v with
  | error f => rfl
  | ok event =>
    dsimp only
    split
    · rfl
    · split <;> rfl

theorem subscribe_append (id : Nat) (s : Service σ) (l : Listener) (after : Handle → List (Frame σ)) :
    subscribe w (stack ++ below) id s l after = (subscribe w stack id s l after).onto below := by
  unfold subscribe
  rw [← call_append, List.append_assoc]

theorem withService_append {k k' : Nat → Service σ → Run σ} (name : String)
    (h : ∀ id s, k' id s = (k id s).onto below) :
    withService w (stack ++ below) name k' = (withService w stack name k).onto below := by
  unfold withService
  cases w.serviceOf name with
  | error f => rfl
  | ok id =>
    dsimp only
    cases w.services[id]? with
    | none => rfl
    | some s => exact h id s

theorem withOwnService_append {k k' : Nat → Service σ → Run σ} (name : String)
    (h : ∀ id s, k' id s = (k id s).onto below) :
    withOwnService w (stack ++ below) name k' = (withOwnService w stack name k).onto below := by
  unfold withOwnService
  split
  · rfl
  · exact withService_append w stack below name h

theorem ofOutcome_append (o : Outcome Answer) :
    ofOutcome w (stack ++ below) o = (ofOutcome w stack o).onto below := by
  cases o <;> rfl

theorem write_append (sink : Sink) (level : String) (text : (Value → Value) → Outcome Value) :
    write w (stack ++ below) sink level text = (write w stack sink level text).onto below := by
  unfold write
  cases text w.picture with
  | error f => rfl
  | ok v =>
    cases sink with
    | given => rfl
    | library => dsimp only; split <;> rfl

theorem cancel_append (token : String) (reason : Value) :
    cancel w (stack ++ below) token reason = (cancel w stack token reason).onto below := by
  unfold cancel
  dsimp only
  split <;> rfl

theorem create_append (name : String) :
    create w (stack ++ below) name = (create w stack name).onto below := by
  unfold create
  split <;> rfl

theorem createHost_append (name : String) (onChange : Option String) :
    createHost w (stack ++ below) name onChange = (createHost w stack name onChange).onto below := by
  unfold createHost
  split
  · rfl
  · dsimp only
    split
    · rfl
    · exact start_append _ (_ :: stack) below _ _

theorem perform_append (q : Request σ) : perform w (stack ++ below) q = (perform w stack q).onto below := by
  cases q with
  | start name => exact withOwnService_append w stack below name fun id s ↦ start_append w stack below id s
  | stop name => exact withOwnService_append w stack below name fun id s ↦ rfl
  | enter name =>
    simp only [perform]
    split
    · rfl
    · exact withService_append w stack below name fun id s ↦ start_append w stack below id s
  | leave name =>
    simp only [perform]
    split
    · rfl
    · exact withService_append w stack below name fun id s ↦ rfl
  | send name event =>
    exact withService_append w stack below name fun id s ↦ send_append w stack below id s event
  | subscribe name listener subscription =>
    exact withOwnService_append w stack below name fun id s ↦ subscribe_append w stack below id s _ _
  | describe name => exact withService_append w stack below name fun id s ↦ ofOutcome_append w stack below _
  | onCancel token callback =>
    simp only [perform]
    split
    · exact call_append w (_ :: stack) below _ _
    · rfl
  | isActive subscription => exact ofOutcome_append w stack below _
  | checkToken token => exact ofOutcome_append w stack below _
  | write sink level text => exact write_append w stack below sink level text
  | cancel token reason => exact cancel_append w stack below token reason
  | unsubscribe | scope | matchesValue | report | close | register | remove | hasTicket =>
    simp only [perform]
    repeat' split
    all_goals rfl
  | _ => rfl

theorem proceed_append (s : Script σ) : proceed w (stack ++ below) s = (proceed w stack s).onto below := by
  cases s with
  | done => rfl
  | fail f => rfl
  | call q next => exact perform_append w (_ :: stack) below q
  | attempt q next => exact perform_append w (_ :: stack) below q

theorem resume_append (a : Answer) (f : Frame σ) :
    resume w (stack ++ below) a f = (resume w stack a f).onto below := by
  cases f with
  | awaiting next => exact proceed_append w stack below _
  | attempting next => exact proceed_append w stack below _
  | effects id context event rest => cases rest <;> rfl
  | drain id =>
    simp only [resume]
    split
    · rfl
    · unfold drain; split <;> rfl
  | moving id source event =>
    simp only [resume]
    split
    · rfl
    · unfold move; split <;> rfl
  | creating name => exact create_append w stack below name
  | creatingHost name onChange => exact createHost_append w stack below name onChange
  | announce id event => simp only [resume]; split <;> rfl
  | round owner what rest =>
    cases rest with
    | nil => rfl
    | cons e rest =>
      simp only [resume]
      split
      · exact call_append _ (_ :: stack) below _ _
      · rfl
  | sent id => simp only [resume]; split <;> rfl
  | hostStarted host name =>
    simp only [resume]
    repeat' split
    · rfl
    · rfl
    · exact subscribe_append _ stack below _ _ _ _
  | cancelling token rest =>
    cases rest with
    | nil => rfl
    | cons l rest => exact call_append w (.cancelling token rest :: stack) below l (.token token)
  | _ => rfl

theorem unwind_append (e : Failure) (f : Frame σ) :
    unwind w (stack ++ below) e f = (unwind w stack e f).onto below := by
  cases f with
  | attempting next => exact proceed_append w stack below _
  | opening id => simp only [unwind]; split <;> rfl
  | _ => rfl

/-- A step acts on what is on top; what stands below waits. -/
theorem step_onto (r : Run σ) (below : List (Frame σ)) (h : r.stack ≠ []) :
    (r.onto below).step = r.step.onto below := by
  obtain ⟨w, stack, signal⟩ := r
  cases stack with
  | nil => exact absurd rfl h
  | cons f stack =>
    cases signal with
    | returning a => exact resume_append w stack below a f
    | failing e => exact unwind_append w stack below e f

end Statechart.Run
