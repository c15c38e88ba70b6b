import Statechart.Proofs.Call

/-!
# What a run holds besides services

Beside services and hosts, a run holds tokens, a free registry and the handles of registrations (`Holdings`). Nine
requests work on these, and the frame that keeps a handle under a name; everything else leaves them as they are
(`Run.holdings_perform`, `Run.holdings_step`).
-/

set_option autoImplicit false
set_option relaxedAutoImplicit false

namespace Statechart

variable {σ : Type}

/-- A request that works on a token or on a registry. -/
def Request.holds : Request σ → Bool
  | .createToken .. | .cancel .. | .onCancel .. => true
  | .subscribe .. | .unsubscribe _ | .scope _ | .register .. | .clear | .remove _ => true
  | _ => false

/-- The handle that a frame is about to keep under a name. -/
def Frame.handle? : Frame σ → Option Handle
  | .keep _ h => some h
  | _ => none

/-- Tokens, the free registry, and all handles: those under names and those that are about to be kept. -/
structure Holdings where
  tokens : List (String × Token)
  registry : Registry
  subscriptions : List (String × Handle)
  pending : List Handle

/-- What a world and a stack hold. -/
def World.holdings (w : World σ) (stack : List (Frame σ)) : Holdings :=
  ⟨w.tokens, w.registry, w.subscriptions, stack.filterMap Frame.handle?⟩

namespace Run

def holdings (r : Run σ) : Holdings := r.world.holdings r.stack

section

variable (w : World σ) (stack : List (Frame σ)) (id : Nat)

@[simp] theorem holdings_mark (what : Milestone) : (w.mark id what).holdings stack = w.holdings stack := by
  unfold World.mark
  split <;> rfl

@[simp] theorem holdings_note (e : Entry) : (w.note e).holdings stack = w.holdings stack := rfl

@[simp] theorem holdings_updateService (f : Service σ → Service σ) :
    (w.updateService id f).holdings stack = w.holdings stack := rfl

@[simp] theorem holdings_updateHost (f : Host → Host) : (w.updateHost id f).holdings stack = w.holdings stack := rfl

@[simp] theorem holdings_answer (a : Answer) : (answer w stack a).holdings = w.holdings stack := rfl

@[simp] theorem holdings_fail (f : Failure) : (fail w stack f).holdings = w.holdings stack := rfl

@[simp] theorem holdings_script (s : Script σ) : (script w stack s).holdings = w.holdings stack := rfl

@[simp] theorem holdings_ofOutcome (o : Outcome Answer) : (ofOutcome w stack o).holdings = w.holdings stack := by
  cases o <;> rfl

@[simp] theorem holdings_call (l : Listener) (what : Published) : (call w stack l what).holdings = w.holdings stack := by
  cases l with
  | named name => rfl
  | numbered n => rfl
  | keeper i =>
    simp only [call]
    cases w.hosts[i]? with
    | none => rfl
    | some h =>
      dsimp only
      cases h.onChange <;> cases what <;> rfl

@[simp] theorem holdings_start (s : Service σ) : (start w stack id s).holdings = w.holdings stack := by
  unfold start
  split
  · rfl
  · rfl
  · exact holdings_mark w stack id _

@[simp] theorem holdings_stop : (stop w id).holdings stack = w.holdings stack := by
  unfold stop
  split
  · rfl
  · rw [holdings_updateService]
    split <;> simp

@[simp] theorem holdings_close : (close w id).holdings stack = w.holdings stack := by
  unfold close
  split
  · rfl
  · split
    · rfl
    · dsimp only
      split <;> simp

@[simp] theorem holdings_send (s : Service σ) (v : Value) : (send w stack id s v).holdings = w.holdings stack := by
  unfold send
  repeat' split
  · rfl
  · simp
  · simp
  · exact holdings_mark w stack id _

@[simp] theorem holdings_write (sink : Sink) (level : String) (text : (Value → Value) → Outcome Value) :
    (write w stack sink level text).holdings = w.holdings stack := by
  unfold write
  repeat' split
  all_goals simp

theorem holdings_newService {w' : World σ} (h : newService w = .ok (w', id)) : w'.holdings stack = w.holdings stack := by
  unfold newService at h
  split at h
  · cases h
  · obtain ⟨initial, -, h⟩ := ok_of_bind h
    cases h
    rfl

@[simp] theorem holdings_create (name : String) : (create w stack name).holdings = w.holdings stack := by
  unfold create
  split
  · rfl
  · next w' id h =>
    have hsame : w'.holdings stack = w.holdings stack := holdings_newService w stack id h
    exact hsame

@[simp] theorem holdings_createHost (name : String) (onChange : Option String) :
    (createHost w stack name onChange).holdings = w.holdings stack := by
  unfold createHost
  split
  · rfl
  · next w' id h =>
    have hsame : w'.holdings stack = w.holdings stack := holdings_newService w stack id h
    split
    · exact hsame
    · rw [holdings_start]
      exact hsame

/-- A subscription is pending where what follows it keeps its handle. -/
@[simp] theorem holdings_subscribe (s : Service σ) (l : Listener) (after : Handle → List (Frame σ)) :
    (subscribe w stack id s l after).holdings = w.holdings (after ⟨some id, (s.listeners.add l).2⟩ ++ stack) := by
  simp [subscribe]

variable {w stack} in
theorem holdings_withService {name : String} {k : Nat → Service σ → Run σ}
    (hk : ∀ i s, (k i s).holdings = w.holdings stack) : (withService w stack name k).holdings = w.holdings stack := by
  unfold withService
  repeat' split
  · rfl
  · rfl
  · exact hk _ _

variable {w stack} in
theorem holdings_withOwnService {name : String} {k : Nat → Service σ → Run σ}
    (hk : ∀ i s, (k i s).holdings = w.holdings stack) :
    (withOwnService w stack name k).holdings = w.holdings stack := by
  unfold withOwnService
  split
  · rfl
  · exact holdings_withService hk

@[simp] theorem holdings_drain (s : Service σ) : (drain w stack id s).holdings = w.holdings stack := by
  unfold drain
  split <;> rfl

@[simp] theorem holdings_move (s : Service σ) (source : State σ) (event : Event) :
    (move w stack id s source event).holdings = w.holdings stack := by
  unfold move
  split
  · rfl
  · exact holdings_mark w stack id _

end

variable {r : Run σ} {q : Request σ} {below : List (Frame σ)}

/-- A frame that makes a request keeps no handle. -/
theorem holdings_of_request (h : r.request? = some (q, below)) : r.holdings = r.world.holdings below := by
  have hscript (w : World σ) (stack : List (Frame σ)) (s : Script σ) (hs : s.request? stack = some (q, below)) :
      w.holdings stack = w.holdings below := by
    cases s <;> cases hs <;> rfl
  cases asks_of_request h with
  | awaiting hs | attempting hs | caught hs =>
    rw [← hscript _ _ _ hs]
    rfl

/-- A request that works on neither tokens nor registries leaves all holdings as they are. -/
theorem holdings_perform (w : World σ) (stack : List (Frame σ)) {q : Request σ} (hq : q.holds = false) :
    (perform w stack q).holdings = w.holdings stack := by
  cases q with
  | createToken | cancel | onCancel | subscribe | unsubscribe | scope | register | clear | remove => cases hq
  | start name => exact holdings_withOwnService fun i s ↦ holdings_start w stack i s
  | stop name => exact holdings_withOwnService fun i s ↦ holdings_stop w stack i
  | enter name =>
    simp only [perform]
    split
    · rfl
    · exact holdings_withService fun i s ↦ holdings_start w stack i s
  | leave name =>
    simp only [perform]
    split
    · simp
    · exact holdings_withService fun i s ↦ holdings_stop w stack i
  | send name v => exact holdings_withService fun i s ↦ holdings_send w stack i s v
  | describe name => exact holdings_withService fun i s ↦ holdings_ofOutcome w stack _
  | create | createHost => rfl
  | _ =>
    simp only [perform]
    repeat' split
    all_goals first | rfl | simp

theorem holdings_proceed (w : World σ) {stack : List (Frame σ)} {s : Script σ} (hs : s.request? stack = none) :
    (proceed w stack s).holdings = w.holdings stack := by
  cases s with
  | done | fail => rfl
  | call | attempt => cases hs

theorem holdings_unwind {w : World σ} {stack : List (Frame σ)} {frame : Frame σ} {f : Failure}
    (hrequest : request? ⟨w, frame :: stack, .failing f⟩ = none) :
    (unwind w stack f frame).holdings = w.holdings stack := by
  cases frame with
  | attempting next => exact holdings_proceed w hrequest
  | opening id =>
    simp only [unwind]
    split <;> rfl
  | _ => rfl

theorem holdings_resume {w : World σ} {stack : List (Frame σ)} {frame : Frame σ} {a : Answer}
    (hrequest : request? ⟨w, frame :: stack, .returning a⟩ = none) (hframe : frame.handle? = none) :
    (resume w stack a frame).holdings = w.holdings stack := by
  cases frame with
  | keep => cases hframe
  | awaiting next => exact holdings_proceed w hrequest
  | attempting next => exact holdings_proceed w hrequest
  | effects id context event rest =>
    cases rest with
    | nil => rfl
    | cons e rest => exact holdings_mark w stack id _
  | cancelling token rest =>
    cases rest with
    | nil => rfl
    | cons l rest => exact holdings_call w (.cancelling token rest :: stack) l _
  | round owner what rest =>
    cases rest with
    | nil => rfl
    | cons entry rest =>
      simp only [resume]
      split
      · rw [holdings_call]
        split
        · exact holdings_mark w stack _ _
        · rfl
      · rfl
  | announce id event =>
    simp only [resume]
    split
    · rfl
    · exact holdings_mark w stack id _
  | hostStarted host name =>
    simp only [resume]
    repeat' split
    · rfl
    · rfl
    · rw [holdings_subscribe]
      rfl
  | _ =>
    simp only [resume]
    repeat' split
    all_goals first | rfl | simp

/-- A step that takes no request leaves all holdings as they are, unless it comes to a handle to be kept. -/
theorem holdings_step {w : World σ} {stack : List (Frame σ)} {frame : Frame σ} {signal : Signal}
    (hrequest : request? ⟨w, frame :: stack, signal⟩ = none) (hframe : frame.handle? = none) :
    (step ⟨w, frame :: stack, signal⟩).holdings = w.holdings stack := by
  cases signal with
  | failing f => exact holdings_unwind hrequest
  | returning a => exact holdings_resume hrequest hframe

/-- A subscription fails, or the listener is subscribed to a service. -/
theorem perform_subscribe (w : World σ) (stack : List (Frame σ)) (name l subscription : String) :
    (∃ f, perform w stack (.subscribe name l subscription) = fail w stack f) ∨
      ∃ id s, w.services[id]? = some s ∧ perform w stack (.subscribe name l subscription) =
        subscribe w stack id s (.named l) fun h ↦ [.keep subscription h] := by
  simp only [perform, withOwnService, withService]
  repeat' split
  · exact .inl ⟨_, rfl⟩
  · exact .inl ⟨_, rfl⟩
  · exact .inl ⟨_, rfl⟩
  · next s hs => exact .inr ⟨_, s, hs, rfl⟩

end Run

end Statechart
