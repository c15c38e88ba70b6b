import Statechart.Machine.Transition

/-!
# What a transition lays down

The state that follows a state is a function of its value and context and of the event (`transition_congr`). Its
pending effects are those of the exit of the source, of the transition and of the entry of the target, in this order
(`follows_of_transition`); those of the first state are the effects of its entry (`actions_initialState`). Where guards
and assignments call nothing, nothing is called while the state that follows is computed (`calls_eq_done`).
-/

set_option autoImplicit false
set_option relaxedAutoImplicit false

namespace Statechart

variable {σ : Type}

/-- The effects of a list of actions, in order. -/
def Action.effects (actions : List (Action σ)) : List (Effect σ) :=
  actions.filterMap fun a ↦
    match a with
    | .effect e => some e
    | .assign _ => none

namespace Action

@[simp] theorem effects_append (actions more : List (Action σ)) :
    effects (actions ++ more) = effects actions ++ effects more :=
  List.filterMap_append

/-- What is left of a list once its assignments are folded are its effects. -/
theorem partition_effects {event : Event} {actions : List (Action σ)} {context context' : Value}
    {pending : List (Effect σ)} (h : partition context event actions = .ok (context', pending)) :
    pending = effects actions := by
  induction actions generalizing context context' pending with
  | nil =>
    simp only [partition, Except.ok.injEq, Prod.mk.injEq] at h
    exact h.2.symm
  | cons a rest ih =>
    cases a with
    | assign f =>
      cases hf : f.apply context event with
      | error e => simp [partition, hf, bind, Except.bind] at h
      | ok next =>
        simp only [partition, hf, bind, Except.bind] at h
        exact ih h
    | effect e =>
      cases hrest : partition context event rest with
      | error f => simp [partition, hrest, bind, Except.bind] at h
      | ok p =>
        simp only [partition, hrest, bind, Except.bind, pure, Except.pure, Except.ok.injEq, Prod.mk.injEq] at h
        rw [← h.2, ih hrest]
        rfl

/-- Nothing is called while the action is taken as an assignment. -/
def Silent (a : Action σ) : Prop := ∀ f, a = .assign f → ∀ context event, f.calls context event = .done

theorem silent_effect (e : Effect σ) : (Action.effect e).Silent := by
  intro f hf
  cases hf

theorem silent_function (name : Option String) (body : Value → Event → Outcome Value) :
    (Action.assign (.function name body) : Action σ).Silent := by
  intro f hf context event
  cases hf
  rfl

theorem calls_eq_done {actions : List (Action σ)} (h : ∀ a ∈ actions, a.Silent) (context : Value) (event : Event) :
    calls context event actions = .done := by
  induction actions generalizing context with
  | nil => rfl
  | cons a rest ih =>
    have hrest := ih fun a ha ↦ h a (List.mem_cons_of_mem _ ha)
    cases a with
    | effect e => exact hrest context
    | assign f =>
      have hf := h (.assign f) (by simp) f rfl context event
      simp only [calls, hf, Script.andThen]
      cases f.apply context event with
      | error e => rfl
      | ok next => exact hrest next

end Action

namespace Machine

variable {m : Machine σ} {source next : State σ} {event : Event}

/-- The guards and assignments of a machine call nothing. -/
def Silent (m : Machine σ) : Prop :=
  ∀ p ∈ m.states, (∀ a ∈ p.2.entry ++ p.2.exit, a.Silent) ∧
    ∀ q ∈ p.2.on, (∀ a ∈ q.2.actions, a.Silent) ∧
      ∀ guard ∈ q.2.guard, ∀ context event, guard.calls context event = .done

theorem mem_of_find? {α : Type} {entries : List (Value × α)} {key : Value} {a : α}
    (h : Entries.find? entries key = some a) : ∃ k, (k, a) ∈ entries := by
  simp only [Entries.find?, Option.map_eq_some_iff] at h
  obtain ⟨⟨k, a'⟩, hfound, rfl⟩ := h
  exact ⟨k, List.mem_of_find?_eq_some hfound⟩

theorem mem_states_of_node {value : Value} {node : Node σ} (h : m.node value = .ok node) :
    ∃ k, (k, node) ∈ m.states := by
  unfold Machine.node at h
  split at h
  · next hfound =>
    cases h
    exact mem_of_find? hfound
  · cases h

/-- Where guards and assignments call nothing, nothing is called while the state that follows is computed. -/
theorem calls_eq_done (h : m.Silent) (s : State σ) (event : Event) : m.calls s event = .done := by
  unfold calls
  cases hnode : m.node s.value with
  | error f => rfl
  | ok node =>
    obtain ⟨k, hmem⟩ := mem_states_of_node hnode
    simp only
    cases ht : reaction node event.kind with
    | error f => rfl
    | ok found =>
      cases found with
      | none => rfl
      | some t =>
        have ht : Entries.find? node.on event.kind = some t := by
          unfold reaction at ht
          split at ht
          · exact Except.ok.inj ht
          · cases ht
        obtain ⟨l, hl⟩ := mem_of_find? ht
        obtain ⟨hactions, hguard⟩ := (h _ hmem).2 _ hl
        have hcalls : t.calls s.context event = .done := by
          unfold Transition.calls
          split
          · rfl
          · next guard hsome => exact hguard guard hsome s.context event
        simp only [hcalls, Script.andThen]
        split
        · next target _ htarget =>
          obtain ⟨k', hmem'⟩ := mem_states_of_node htarget
          refine Action.calls_eq_done (fun a ha ↦ ?_) _ _
          rcases List.mem_append.mp ha with ha | ha
          · rcases List.mem_append.mp ha with ha | ha
            · exact (h _ hmem).1 a (List.mem_append_right _ ha)
            · exact hactions a ha
          · exact (h _ hmem').1 a (List.mem_append_left _ ha)
        · rfl

/-- How the state that follows a state comes about, with the effects that are left to perform. -/
inductive Follows (m : Machine σ) (source : State σ) (event : Event) (next : State σ) : Prop
  /-- The event passes without an effect. -/
  | stays (hvalue : next.value = source.value) (hcontext : next.context = source.context)
      (hactions : next.actions = []) (hchanged : next.changed = false)
  | moves {node target : Node σ} {t : Transition σ} (hnode : m.node source.value = .ok node)
      (ht : reaction node event.kind = .ok (some t)) (hguard : t.allows source.context event = .ok true)
      (htarget : m.node next.value = .ok target) (hvalue : next.value = t.target.getD source.value)
      (hactions : next.actions = Action.effects node.exit ++ Action.effects t.actions ++ Action.effects target.entry)
      (hchanged : next.changed = true)

theorem follows_of_transition (h : m.transition source event = .ok next) : m.Follows source event next := by
  unfold transition at h
  cases hnode : m.node source.value with
  | error f => simp [hnode, bind, Except.bind] at h
  | ok node =>
    simp only [hnode, bind, Except.bind] at h
    cases ht : reaction node event.kind with
    | error f => simp [ht] at h
    | ok found =>
      simp only [ht] at h
      cases found with
      | none =>
        simp only [pure, Except.pure, Except.ok.injEq] at h
        subst h
        exact .stays rfl rfl rfl rfl
      | some t =>
        cases hguard : t.allows source.context event with
        | error f => simp [hguard] at h
        | ok allowed =>
          cases allowed with
          | false =>
            simp only [hguard, pure, Except.pure, Except.ok.injEq, Bool.false_eq_true, if_false] at h
            subst h
            exact .stays rfl rfl rfl rfl
          | true =>
            cases htarget : m.node (t.target.getD source.value) with
            | error f => simp [hguard, htarget] at h
            | ok target =>
              cases hparts : Action.partition source.context event (node.exit ++ t.actions ++ target.entry) with
              | error f =>
                simp only [hguard, htarget, hparts, if_true] at h
                cases h
              | ok parts =>
                simp only [hguard, htarget, hparts, if_true, pure, Except.pure, Except.ok.injEq] at h
                subst h
                refine .moves hnode ht hguard htarget rfl ?_ rfl
                rw [← Action.effects_append, ← Action.effects_append]
                exact Action.partition_effects hparts

/-- An event is handled only if its kind can be a key. -/
theorem isKey_of_transition (h : m.transition source event = .ok next) : event.kind.isKey = true := by
  obtain ⟨node, -, h⟩ := ok_of_bind h
  obtain ⟨found, hfound, -⟩ := ok_of_bind h
  unfold reaction at hfound
  split at hfound
  · assumption
  · cases hfound

section

variable {node : Node σ} {t : Transition σ}

theorem transition_of_none (hnode : m.node source.value = .ok node) (ht : reaction node event.kind = .ok none) :
    m.transition source event = .ok ⟨source.value, source.context, [], false⟩ := by
  simp only [transition, hnode, ht, bind, Except.bind]
  rfl

theorem transition_of_refused (hnode : m.node source.value = .ok node) (ht : reaction node event.kind = .ok (some t))
    (hallows : t.allows source.context event = .ok false) :
    m.transition source event = .ok ⟨source.value, source.context, [], false⟩ := by
  simp only [transition, hnode, ht, hallows, bind, Except.bind]
  rfl

theorem transition_of_allowed {target : Node σ} {context : Value} {effects : List (Effect σ)}
    (hnode : m.node source.value = .ok node) (ht : reaction node event.kind = .ok (some t))
    (hallows : t.allows source.context event = .ok true) (htarget : m.node (t.target.getD source.value) = .ok target)
    (hparts : Action.partition source.context event (node.exit ++ t.actions ++ target.entry) = .ok (context, effects)) :
    m.transition source event = .ok ⟨t.target.getD source.value, context, effects, true⟩ := by
  simp only [transition, hnode, ht, hallows, htarget, hparts, bind, Except.bind]
  rfl

end

/-- Whether effects are pending, or whether an event changed it, makes no difference to what follows a state. -/
theorem transition_congr {source' : State σ} (hvalue : source.value = source'.value)
    (hcontext : source.context = source'.context) (event : Event) :
    m.transition source event = m.transition source' event := by
  unfold transition
  rw [hvalue, hcontext]

theorem transition_settled (m : Machine σ) (source : State σ) (event : Event) :
    m.transition source.settled event = m.transition source event :=
  transition_congr rfl rfl event

theorem actions_initialState {initial : State σ} (h : m.initialState = .ok initial) :
    ∃ node, m.node m.initial = .ok node ∧ initial.actions = Action.effects node.entry := by
  unfold initialState at h
  cases hnode : m.node m.initial with
  | error f => simp [hnode, bind, Except.bind] at h
  | ok node =>
    cases hparts : Action.partition m.context Event.init node.entry with
    | error f => simp [hnode, hparts, bind, Except.bind] at h
    | ok parts =>
      simp only [hnode, hparts, bind, Except.bind, pure, Except.pure, Except.ok.injEq] at h
      subst h
      exact ⟨node, rfl, Action.partition_effects hparts⟩

end Machine

end Statechart
