import Statechart.Proofs.Folding

/-!
# Scripts that keep away from services

A secluded script asks for nothing that has to do with services and hosts: it works on tokens, on the free registry, on
lines and on the memory. In a world whose callbacks do nothing such a script comes to an end (`World.Bare.plays`), and
what it does is the same whatever services stand beside it, which it leaves alone (`World.Plays.alone`).
-/

set_option autoImplicit false
set_option relaxedAutoImplicit false

namespace Statechart

variable {σ : Type}

/-! ### Secluded scripts -/

/-- The entry is about a service. -/
def Entry.IsMilestone : Entry → Prop
  | .milestone _ _ _ => True
  | _ => False

/-- The request has to do with neither services nor hosts nor subscriptions. -/
def Request.Secluded : Request σ → Prop
  | .createToken _ _ | .cancel _ _ | .onCancel _ _ | .checkToken _ | .viewToken _ | .describeToken _ => True
  | .notify _ | .clear | .isRegistered _ | .remove _ | .hasTicket _ => True
  | .write _ _ _ | .change _ => True
  | .journal e => ¬ e.IsMilestone
  | _ => False

/-- All requests that the script can come to are secluded. -/
inductive Script.Secluded : Script σ → Prop
  | done : Secluded .done
  | fail (f : Failure) : Secluded (.fail f)
  | call {q next} (hq : q.Secluded) (hnext : ∀ a, Secluded (next a)) :
      Secluded (.call q next)
  | attempt {q next} (hq : q.Secluded) (hnext : ∀ o, Secluded (next o)) :
      Secluded (.attempt q next)

/-- What the callable does is secluded, whatever it is called with. -/
def Callee.Secluded (c : Callee σ) : Prop :=
  ∀ context event, (c.script context event).Secluded

/-- What is called when the action is taken. -/
def Action.callee : Action σ → Callee σ
  | .assign f => f
  | .effect e => e.exec

/-- The guards and the callables of all actions of a node. -/
def Node.callees (node : Node σ) : List (Callee σ) :=
  (node.entry ++ node.exit ++ node.on.flatMap (·.2.actions)).map Action.callee ++ node.on.filterMap (·.2.guard)

/-- All guards and actions of the machine are secluded. -/
def Machine.Secluded (m : Machine σ) : Prop :=
  ∀ p ∈ m.states, ∀ c ∈ p.2.callees, c.Secluded

section

variable {s t : Script σ}

theorem Script.Secluded.andThen (hs : s.Secluded) (ht : t.Secluded) :
    (s.andThen t).Secluded := by
  induction hs with
  | done => exact ht
  | fail f => exact .fail f
  | call hq _ ih => exact .call hq ih
  | attempt hq _ ih => exact .attempt hq ih

/-- A callable that is asked for its value does no more than one that is called for what it does. -/
theorem Callee.Secluded.calls {c : Callee σ} (h : c.Secluded) (context : Value) (event : Event) :
    (c.calls context event).Secluded := by
  cases c with
  | effect name body => exact h context event
  | function | inert => exact .done

theorem Action.secluded_calls {actions : List (Action σ)} (h : ∀ a ∈ actions, a.callee.Secluded)
    (context : Value) (event : Event) : (calls context event actions).Secluded := by
  induction actions generalizing context with
  | nil => exact .done
  | cons a rest ih =>
    obtain ⟨ha, hrest⟩ := List.forall_mem_cons.mp h
    cases a with
    | effect e => exact ih hrest context
    | assign f =>
      refine (ha.calls context event).andThen ?_
      cases f.apply context event with
      | ok context => exact ih hrest context
      | error _ => exact .done

theorem Action.secluded_effects {actions : List (Action σ)} (h : ∀ a ∈ actions, a.callee.Secluded) :
    ∀ e ∈ effects actions, e.exec.Secluded := by
  intro e he
  obtain ⟨a, ha, hkept⟩ := List.mem_filterMap.mp he
  cases a with
  | assign f => cases hkept
  | effect e' =>
    cases hkept
    exact h _ ha

end

/-! ### Secluded machines -/

namespace Machine

variable {m : Machine σ} {node target : Node σ} {t : Transition σ} {s next : State σ}
  {event : Event} {value : Value}

theorem Secluded.of_node (hm : m.Secluded) (hnode : m.node value = .ok node) :
    ∀ c ∈ node.callees, c.Secluded := by
  obtain ⟨k, hmem⟩ := mem_states_of_node hnode
  exact hm _ hmem

theorem Secluded.entry (hm : m.Secluded) (hnode : m.node value = .ok node) :
    ∀ a ∈ node.entry, a.callee.Secluded := fun a ha ↦
  hm.of_node hnode _ (List.mem_append_left _ (List.mem_map_of_mem (by simp [ha])))

/-- What is called on the way from one node to another. -/
theorem Secluded.actions (hm : m.Secluded) (hnode : m.node s.value = .ok node)
    (ht : reaction node event.kind = .ok (some t)) (htarget : m.node value = .ok target) :
    ∀ a ∈ node.exit ++ t.actions ++ target.entry, a.callee.Secluded := by
  obtain ⟨l, hl⟩ := mem_on_of_reaction ht
  intro a ha
  rw [List.mem_append, List.mem_append] at ha
  rcases ha with (hexit | hactions) | hentry
  · exact hm.of_node hnode _ (List.mem_append_left _ (List.mem_map_of_mem (by simp [hexit])))
  · have hon : a ∈ node.on.flatMap (·.2.actions) := List.mem_flatMap.mpr ⟨_, hl, hactions⟩
    exact hm.of_node hnode _ (List.mem_append_left _ (List.mem_map_of_mem (by simp [hon])))
  · exact hm.entry htarget a hentry

theorem Secluded.guard (hm : m.Secluded) (hnode : m.node s.value = .ok node)
    (ht : reaction node event.kind = .ok (some t)) :
    (t.calls s.context event).Secluded := by
  obtain ⟨l, hl⟩ := mem_on_of_reaction ht
  unfold Transition.calls
  cases hguard : t.guard with
  | none => exact .done
  | some guard =>
    exact (hm.of_node hnode guard (List.mem_append_right _ (List.mem_filterMap.mpr ⟨_, hl, hguard⟩))).calls _ _

theorem Secluded.initialCalls (hm : m.Secluded) : m.initialCalls.Secluded := by
  unfold Machine.initialCalls
  cases hnode : m.node m.initial with
  | error f => exact .done
  | ok node => exact Action.secluded_calls (hm.entry hnode) _ _

theorem Secluded.calls (hm : m.Secluded) (s : State σ) (event : Event) :
    (m.calls s event).Secluded := by
  unfold Machine.calls
  split
  · exact .done
  · next node hnode =>
    split
    · exact .done
    · exact .done
    · next t ht =>
      refine (hm.guard hnode ht).andThen ?_
      split
      · next htarget => exact Action.secluded_calls (hm.actions hnode ht htarget) _ _
      · exact .done

theorem Secluded.effects (hm : m.Secluded) (h : m.transition s event = .ok next) :
    ∀ e ∈ next.actions, e.exec.Secluded := by
  cases follows_of_transition h with
  | stays _ _ hactions _ => simp [hactions]
  | moves hnode ht _ htarget _ hactions _ =>
    rw [hactions, ← Action.effects_append, ← Action.effects_append]
    exact Action.secluded_effects (hm.actions hnode ht htarget)

end Machine

/-! ### Services beside a world -/

/-- What a world has of services: the services, what names stand for, subscriptions, and the journal. -/
structure Premises (σ : Type) where
  services : List (Service σ) := []
  names : List (String × Subject) := []
  subscriptions : List (String × Handle) := []
  journal : List Entry := []

namespace Premises

/-- The premises with more entries in the journal. -/
def noting (x : Premises σ) (added : List Entry) : Premises σ := { x with journal := added ++ x.journal }

theorem noting_noting (x : Premises σ) (more added : List Entry) :
    (x.noting added).noting more = x.noting (more ++ added) := by
  simp [noting]

end Premises

namespace World

variable {m : Machine σ} {u u' : World σ} {x : Premises σ}

/-- A world of a machine in which callbacks do nothing. -/
structure Bare (m : Machine σ) (u : World σ) : Prop where
  machine : u.machine = some m
  silent : u.behaviour = fun _ _ ↦ .done

/-- The world on other premises. -/
def beside (u : World σ) (x : Premises σ) : World σ :=
  { u with services := x.services, names := x.names, subscriptions := x.subscriptions, journal := x.journal }

/-- The premises of a world. -/
def premises (u : World σ) : Premises σ := ⟨u.services, u.names, u.subscriptions, u.journal⟩

/-- A callback does nothing. -/
theorem Bare.ends_behaviour (hu : u.Bare m) (stack : List (Frame σ)) (l : Listener) (what : Published) :
    (Run.script (u.beside x) stack ((u.beside x).behaviour l what)).Ends stack
      ⟨u.beside x, stack, .returning .null⟩ := by
  have hdone : (u.beside x).behaviour l what = .done := by rw [beside, hu.silent]
  rw [hdone]
  exact .step (Nat.lt_succ_self _) (.here rfl)

/-- A call that tells no state changes nothing. -/
theorem Bare.ends_call (hu : u.Bare m) (stack : List (Frame σ)) (l : Listener) (what : Published)
    (hwhat : ∀ s, what ≠ .state s) :
    (Run.call (u.beside x) stack l what).Ends stack ⟨u.beside x, stack, .returning .null⟩ := by
  cases l with
  | keeper host =>
    simp only [Run.call]
    split
    · exact .here rfl
    · cases what with
      | state s => exact absurd rfl (hwhat s)
      | token | value =>
        split
        · exact .here rfl
        · exact hu.ends_behaviour _ _ _
  | named | numbered => exact hu.ends_behaviour _ _ _

/-- The callbacks of a token that is cancelled do nothing. -/
theorem Bare.ends_cancelling (hu : u.Bare m) (stack : List (Frame σ)) (id : String) (rest : List Listener)
    (a : Answer) : Run.Ends stack ⟨u.beside x, .cancelling id rest :: stack, .returning a⟩
      ⟨u.beside x, stack, .returning .null⟩ := by
  induction rest generalizing a with
  | nil => exact .step (Nat.lt_succ_self _) (.here rfl)
  | cons l rest ih =>
    refine .step (Nat.lt_succ_self _) ?_
    exact (hu.ends_call _ l (.token id) nofun).onward (Nat.le_succ _) (ih .null)

/-- Nor do the callbacks of the free registry. -/
theorem Bare.ends_round (hu : u.Bare m) (stack : List (Frame σ)) (v : Value) (rest : List (Nat × Listener))
    (a : Answer) : Run.Ends stack ⟨u.beside x, .round none (.value v) rest :: stack, .returning a⟩
      ⟨u.beside x, stack, .returning .null⟩ := by
  induction rest generalizing a with
  | nil => exact .step (Nat.lt_succ_self _) (.here rfl)
  | cons e rest ih =>
    refine .step (Nat.lt_succ_self _) ?_
    by_cases hticket : u.registry.hasTicket e.1 = true
    · have hstep : Run.step ⟨u.beside x, .round none (.value v) (e :: rest) :: stack, .returning a⟩ =
          Run.call (u.beside x) (.round none (.value v) rest :: stack) e.2 (.value v) := if_pos hticket
      rw [hstep]
      exact (hu.ends_call _ e.2 (.value v) nofun).onward (Nat.le_succ _) (ih .null)
    · have hstep : Run.step ⟨u.beside x, .round none (.value v) (e :: rest) :: stack, .returning a⟩ =
          ⟨u.beside x, .round none (.value v) rest :: stack, .returning .null⟩ := if_neg hticket
      rw [hstep]
      exact ih .null

/-- Something that is done in a world alone: it is done whatever stands beside the world, and leaves that as it is but
for entries that are about no service. -/
structure Alone (m : Machine σ) (does : World σ → World σ → Prop) (u u' : World σ) : Prop where
  bare : u'.Bare m
  beside : ∃ added, (∀ e ∈ added, ¬ e.IsMilestone) ∧
    ∀ x, does (u.beside x) (u'.beside (x.noting added))

/-- One thing is done after another. -/
theorem Alone.trans {first second both : World σ → World σ → Prop} {u₁ : World σ}
    (hfirst : Alone m first u u₁) (hsecond : Alone m second u₁ u')
    (h : ∀ w w₁ w', first w w₁ → second w₁ w' → both w w') : Alone m both u u' := by
  obtain ⟨added, hadded, hfirst⟩ := hfirst.beside
  obtain ⟨more, hmore, hsecond'⟩ := hsecond.beside
  refine ⟨hsecond.bare, more ++ added, ?_, fun x ↦ ?_⟩
  · intro e he
    exact (List.mem_append.mp he).elim (hmore e) (hadded e)
  · rw [← Premises.noting_noting]
    exact h _ _ _ (hfirst x) (hsecond' _)

theorem Alone.mono {does does' : World σ → World σ → Prop} (h : Alone m does u u')
    (hdoes : ∀ w w', does w w' → does' w w') : Alone m does' u u' := by
  obtain ⟨added, hadded, hbeside⟩ := h.beside
  exact ⟨h.bare, added, hadded, fun x ↦ hdoes _ _ (hbeside x)⟩

/-- Something is done without an entry. -/
theorem Alone.of_quiet {does : World σ → World σ → Prop} (hu' : u'.Bare m)
    (h : ∀ x, does (u.beside x) (u'.beside x)) : Alone m does u u' :=
  ⟨hu', [], nofun, h⟩

/-! ### Secluded requests and scripts -/

/-- The request is answered, or fails. -/
def Settles (m : Machine σ) (q : Request σ) (u : World σ) : Prop :=
  ∃ u' signal, Alone m (fun w w' ↦ w.Asks q w' signal) u u'

section

variable {q : Request σ} {signal : Signal}

/-- What is answered at once, in a world that is then another one. -/
theorem settles_of_changed (hu' : u'.Bare m) (signal : Signal)
    (h : ∀ x, Run.perform (u.beside x) [] q = ⟨u'.beside x, [], signal⟩) :
    u.Settles m q :=
  ⟨u', signal, .of_quiet hu' fun x ↦ by rw [Asks, h x]; exact .here rfl⟩

/-- What is answered at once in a world that stays as it is. -/
theorem Bare.settles_of_kept (hu : u.Bare m)
    (h : ∀ x, Run.perform (u.beside x) [] q = ⟨u.beside x, [], (Run.perform u [] q).signal⟩) : u.Settles m q :=
  settles_of_changed hu _ h

/-- What is answered at once, with an entry. -/
theorem Bare.settles_of_note (hu : u.Bare m) (e : Entry) (he : ¬ e.IsMilestone) (signal : Signal)
    (h : ∀ x, Run.perform (u.beside x) [] q = ⟨(u.beside x).note e, [], signal⟩) : u.Settles m q := by
  refine ⟨u, signal, hu, [u.pictureEntry e], ?_, fun x ↦ ?_⟩
  · rw [List.forall_mem_singleton]
    cases e with
    | milestone => exact absurd trivial he
    | _ => exact id
  · rw [Asks, h x]
    exact .here rfl

theorem Bare.setToken (hu : u.Bare m) (id : String) (t : Token) : (u.setToken id t).Bare m :=
  ⟨hu.machine, hu.silent⟩

theorem Bare.with_registry (hu : u.Bare m) (r : Registry) : ({ u with registry := r } : World σ).Bare m :=
  ⟨hu.machine, hu.silent⟩

theorem Bare.settles_cancel (hu : u.Bare m) (token : String) (reason : Value) :
    u.Settles m (.cancel token reason) := by
  cases hcancelled : (u.token token).cancelled with
  | true => exact settles_of_changed hu (.returning (.value (.bool false))) fun x ↦ if_pos hcancelled
  | false =>
    have hset := hu.setToken token ((u.token token).cancel reason).1
    refine ⟨_, .returning .yes, .of_quiet hset fun x ↦ ?_⟩
    have hperform : Run.perform (u.beside x) [] (.cancel token reason) =
        ⟨(u.setToken token ((u.token token).cancel reason).1).beside x,
          [.cancelling token ((u.token token).cancel reason).2, .reply .yes], .returning .null⟩ :=
      if_neg (Bool.eq_false_iff.mp hcancelled)
    rw [Asks, hperform]
    exact (hset.ends_cancelling _ _ _ _).onward (Nat.zero_le _) (.step (Nat.lt_succ_self _) (.here rfl))

theorem Bare.settles_onCancel (hu : u.Bare m) (token : String) (callback : Listener) :
    u.Settles m (.onCancel token callback) := by
  cases hcancelled : (u.token token).cancelled with
  | true =>
    refine ⟨u, .returning .null, .of_quiet hu fun x ↦ ?_⟩
    have hperform : Run.perform (u.beside x) [] (.onCancel token callback) =
        Run.call (u.beside x) [.reply .null] callback (.token token) := if_pos hcancelled
    rw [Asks, hperform]
    exact (hu.ends_call _ _ _ (by simp)).onward (Nat.zero_le _) (.step (Nat.lt_succ_self _) (.here rfl))
  | false =>
    exact settles_of_changed (hu.setToken token { u.token token with
      callbacks := (u.token token).callbacks ++ [callback] }) (.returning .null)
      fun x ↦ if_neg (Bool.eq_false_iff.mp hcancelled)

theorem Bare.settles_remove (hu : u.Bare m) (ticket : Value) : u.Settles m (.remove ticket) := by
  cases hkey : ticket.isKey with
  | false => exact hu.settles_of_kept fun x ↦ by simp only [Run.perform, hkey, Bool.not_false, if_true]; rfl
  | true =>
    have hfound (x : Premises σ) : (u.beside x).registry = u.registry := rfl
    cases hticket : u.registry.ticket? ticket with
    | none =>
      refine hu.settles_of_kept fun x ↦ ?_
      simp only [Run.perform, hkey, hfound, hticket]
      rfl
    | some n =>
      refine settles_of_changed (hu.with_registry (u.registry.remove n).1) (.returning .yes) fun x ↦ ?_
      simp only [Run.perform, hkey, hfound, hticket]
      rfl

theorem Bare.settles_write (hu : u.Bare m) (sink : Sink) (level : String) (text : (Value → Value) → Outcome Value) :
    u.Settles m (.write sink level text) := by
  have hpicture (x : Premises σ) : (u.beside x).picture = u.picture := rfl
  cases htext : text u.picture with
  | error f =>
    refine hu.settles_of_kept fun x ↦ ?_
    simp only [Run.perform, Run.write, hpicture, htext]
    rfl
  | ok v =>
    cases sink with
    | given =>
      refine hu.settles_of_note (.written .given level v) id (.returning .null) fun x ↦ ?_
      simp only [Run.perform, Run.write, hpicture, htext]
      rfl
    | library =>
      cases hlevel : Run.levels.contains level with
      | true =>
        refine hu.settles_of_note (.written .library level (.text (u.picture v).shown)) id (.returning .null)
          fun x ↦ ?_
        simp only [Run.perform, Run.write, hpicture, htext, hlevel, if_true]
        rfl
      | false =>
        refine hu.settles_of_kept fun x ↦ ?_
        simp only [Run.perform, Run.write, hpicture, htext, hlevel]
        rfl

end

/-- A secluded request is answered, or fails. -/
theorem Bare.settles (hu : u.Bare m) {q : Request σ} (hq : q.Secluded) : u.Settles m q := by
  cases q with
  | createToken token name =>
    exact settles_of_changed (hu.setToken token { name := name }) (.returning .null) fun x ↦ rfl
  | cancel token reason => exact hu.settles_cancel token reason
  | onCancel token callback => exact hu.settles_onCancel token callback
  | checkToken token =>
    refine hu.settles_of_kept fun x ↦ ?_
    change Run.ofOutcome _ _ ((u.token token).check.map _) = _
    simp only [Run.perform]
    cases (u.token token).check <;> rfl
  | viewToken | describeToken | isRegistered => exact hu.settles_of_kept fun x ↦ rfl
  | notify v =>
    exact ⟨u, .returning .null, .of_quiet hu fun x ↦ hu.ends_round [] v u.registry.entries .null⟩
  | clear => exact settles_of_changed (hu.with_registry u.registry.clear) (.returning .null) fun x ↦ rfl
  | remove ticket => exact hu.settles_remove ticket
  | hasTicket ticket =>
    refine hu.settles_of_kept fun x ↦ ?_
    simp only [Run.perform]
    split <;> rfl
  | journal e => exact hu.settles_of_note e hq (.returning .null) fun x ↦ rfl
  | write sink level text => exact hu.settles_write sink level text
  | change f =>
    have hbare : ({ u with memory := (f u.memory).2 } : World σ).Bare m := ⟨hu.machine, hu.silent⟩
    exact settles_of_changed hbare (.returning (f u.memory).1) fun x ↦ rfl
  | create | createHost | start | stop | enter | leave | send | subscribe | unsubscribe | isActive | scope | describe
  | matchesValue | report | close | register => exact hq.elim

/-- A secluded script comes to an end. -/
theorem Bare.plays (hu : u.Bare m) {s : Script σ} (hs : s.Secluded) :
    ∃ u' signal, Alone m (fun w w' ↦ w.Plays s w' signal) u u' := by
  induction hs generalizing u with
  | done => exact ⟨u, .returning .null, .of_quiet hu fun _ ↦ .done⟩
  | fail f => exact ⟨u, .failing (u.pictureFailure f), .of_quiet hu fun _ ↦ .fail⟩
  | call hq _ ih =>
    obtain ⟨u₁, answered, hasked⟩ := hu.settles hq
    cases answered with
    | failing f => exact ⟨u₁, _, hasked.mono fun _ _ ↦ .unanswered⟩
    | returning a =>
      obtain ⟨u', signal, hplays⟩ := ih a hasked.bare
      exact ⟨u', signal, hasked.trans hplays fun _ _ _ ↦ .answered⟩
  | attempt hq _ ih =>
    obtain ⟨u₁, answered, hasked⟩ := hu.settles hq
    cases answered with
    | failing f =>
      obtain ⟨u', signal, hplays⟩ := ih (.error f) hasked.bare
      exact ⟨u', signal, hasked.trans hplays fun _ _ _ ↦ .rescued⟩
    | returning a =>
      obtain ⟨u', signal, hplays⟩ := ih (.ok a) hasked.bare
      exact ⟨u', signal, hasked.trans hplays fun _ _ _ ↦ .attempted⟩

theorem Bare.ends (hu : u.Bare m) {s : Script σ} (hs : s.Secluded) : ∃ u' signal, u.Plays s u' signal := by
  obtain ⟨v, signal, -, added, -, hbeside⟩ := hu.plays hs
  -- the world itself stands beside premises of its own
  exact ⟨_, signal, hbeside u.premises⟩

theorem Plays.unique {w w₁ w₂ : World σ} {s : Script σ} {first second : Signal} (h₁ : w.Plays s w₁ first)
    (h₂ : w.Plays s w₂ second) : w₁ = w₂ ∧ first = second :=
  Prod.mk.inj (h₁.play_eq.symm.trans h₂.play_eq)

/-- What a secluded script does in a bare world it does whatever stands beside that world. -/
theorem Plays.alone {s : Script σ} {signal : Signal} (h : u.Plays s u' signal) (hu : u.Bare m)
    (hs : s.Secluded) : Alone m (fun w w' ↦ w.Plays s w' signal) u u' := by
  obtain ⟨v, given, hbare, added, hadded, hbeside⟩ := hu.plays hs
  obtain ⟨rfl, rfl⟩ := h.unique (hbeside u.premises)
  exact ⟨⟨hbare.machine, hbare.silent⟩, added, hadded, hbeside⟩

section

variable {α : Type} {calls : Script σ} {result : Outcome α}

theorem Computes.alone {o : Outcome α} (h : u.Computes calls o u' result) (hu : u.Bare m)
    (hcalls : calls.Secluded) : Alone m (fun w w' ↦ w.Computes calls o w' result) u u' := by
  obtain ⟨signal, hplays, rfl⟩ := h
  obtain ⟨hbare, added, hadded, hbeside⟩ := hplays.alone hu hcalls
  exact ⟨hbare, added, hadded, fun x ↦ ⟨signal, hbeside x, rfl⟩⟩

end

end World

end Statechart
