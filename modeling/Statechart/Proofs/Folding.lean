import Statechart.Proofs.Compilation
import Statechart.Proofs.Sequence

/-!
# The state that follows, as specified

A list of actions is a list of assignments and a list of effects that stand among each other: its assignments are
folded over the context from left to right, its effects are kept as they stand, and neither has to do with the other
(`Action.partition_eq`, `Action.calls_congr`). So a list may be folded in pieces, effects may be moved across
assignments, and the first assignment that fails decides (`Action.fold_eq_error`). `Machine.Specified` says with these
folds what follows a state, and `Machine.Performs` what is called meanwhile, where callables may work on a world; this
is what the transition function computes (`transition_as_specified`).
-/

set_option autoImplicit false
set_option relaxedAutoImplicit false

namespace Statechart

variable {σ : Type}

namespace Action

/-! ### Assignments and effects of a list -/

/-- The callables of the assignments of a list, in order. -/
def assignments (actions : List (Action σ)) : List (Callee σ) := actions.filterMap assignment?

/-- The context after assignments, each of which is given the context that the one before it makes. -/
def fold (event : Event) (context : Value) (assignments : List (Callee σ)) : Outcome Value :=
  assignments.foldlM (fun context f ↦ f.apply context event) context

section

variable {event : Event} {context : Value} {actions others : List (Action σ)}

@[simp] theorem assignments_append (actions more : List (Action σ)) :
    assignments (actions ++ more) = assignments actions ++ assignments more :=
  List.filterMap_append

theorem fold_cons (event : Event) (context : Value) (f : Callee σ) (rest : List (Callee σ)) :
    fold event context (f :: rest) = f.apply context event >>= fun context ↦ fold event context rest := rfl

theorem fold_append (event : Event) (context : Value) (before after : List (Callee σ)) :
    fold event context (before ++ after) = fold event context before >>= fun context ↦ fold event context after :=
  List.foldlM_append

/-- Folding fails where the first assignment fails. -/
theorem fold_eq_error {fs : List (Callee σ)} {e : Failure} :
    fold event context fs = .error e ↔ ∃ before f after made, fs = before ++ f :: after ∧
      fold event context before = .ok made ∧ f.apply made event = .error e := by
  constructor
  · intro h
    induction fs generalizing context with
    | nil => cases h
    | cons f rest ih =>
      cases hf : f.apply context event with
      | error e' =>
        rw [fold_cons, hf] at h
        cases h
        exact ⟨[], f, rest, context, rfl, rfl, hf⟩
      | ok next =>
        rw [fold_cons, hf, ok_bind] at h
        obtain ⟨before, g, after, made, rfl, hbefore, hg⟩ := ih h
        exact ⟨f :: before, g, after, made, rfl, by rw [fold_cons, hf, ok_bind, hbefore], hg⟩
  · rintro ⟨before, f, after, made, rfl, hbefore, hf⟩
    rw [fold_append, hbefore, ok_bind, fold_cons, hf, error_bind]

/-- The context comes from the assignments alone, and the effects are those of the list. -/
theorem partition_eq (context : Value) (event : Event) (actions : List (Action σ)) :
    partition context event actions = (fold event context (assignments actions)).map (·, effects actions) := by
  induction actions generalizing context with
  | nil => rfl
  | cons a rest ih =>
    cases a with
    | assign f =>
      change (f.apply context event >>= fun context ↦ partition context event rest) =
        (fold event context (f :: assignments rest)).map (·, effects rest)
      rw [fold_cons]
      cases f.apply context event with
      | error e => rfl
      | ok next => exact ih next
    | effect e =>
      change (partition context event rest >>= fun parts ↦ pure (parts.1, e :: parts.2)) =
        (fold event context (assignments rest)).map (·, e :: effects rest)
      rw [ih]
      cases fold event context (assignments rest) <;> rfl

/-- What is kept of a list is what is no assignment. -/
theorem effects_eq_filter (actions : List (Action σ)) :
    (effects actions).map .effect = actions.filter fun a ↦ a.assignment?.isNone := by
  induction actions with
  | nil => rfl
  | cons a rest ih =>
    cases a with
    | assign f => exact ih
    | effect e => exact congrArg (Action.effect e :: ·) ih

/-- A list may be folded in pieces. -/
theorem partition_append (context : Value) (event : Event) (actions more : List (Action σ)) :
    partition context event (actions ++ more) = (do
      let (context, first) ← partition context event actions
      let (context, second) ← partition context event more
      return (context, first ++ second)) := by
  simp only [partition_eq, assignments_append, effects_append, fold_append]
  cases fold event context (assignments actions) with
  | error e => rfl
  | ok next =>
    simp only [ok_bind, Except.map]
    cases fold event next (assignments more) <;> rfl

/-- What is called while a list is folded are its assignments. -/
theorem calls_eq (context : Value) (event : Event) (actions : List (Action σ)) :
    calls context event actions = calls context event ((assignments actions).map .assign) := by
  induction actions generalizing context with
  | nil => rfl
  | cons a rest ih =>
    cases a with
    | effect e => exact ih context
    | assign f =>
      change calls context event (.assign f :: rest) = calls context event (.assign f :: (assignments rest).map .assign)
      simp only [calls]
      cases f.apply context event with
      | error e => rfl
      | ok next => exact congrArg (f.calls context event).andThen (ih next)

theorem calls_congr (h : assignments actions = assignments others) (context : Value) (event : Event) :
    calls context event actions = calls context event others := by
  rw [calls_eq, h, ← calls_eq]

/-- Where an assignment fails, nothing that stands behind it is called. -/
theorem calls_of_failing {before after : List (Action σ)} {f : Callee σ} {made : Value} {e : Failure}
    (hbefore : fold event context (assignments before) = .ok made) (hf : f.apply made event = .error e) :
    calls context event (before ++ .assign f :: after) = calls context event (before ++ [.assign f]) := by
  induction before generalizing context with
  | nil =>
    cases hbefore
    simp only [List.nil_append, calls, hf]
  | cons a rest ih =>
    cases a with
    | effect e => exact ih hbefore
    | assign g =>
      obtain ⟨next, hg, hrest⟩ := ok_of_bind hbefore
      simp only [List.cons_append, calls, hg, ih hrest]

end

end Action

/-! ### Callables that work on a world -/

namespace World

variable {w w₁ : World σ}

/-- A callable that is called in a world gives a value, or fails, and leaves a world behind. -/
def Gives (w : World σ) (f : Callee σ) (context : Value) (event : Event) (w' : World σ) (o : Outcome Value) : Prop :=
  w.Computes (f.calls context event) (f.apply context event) w' o

/-- Assignments are called one after another, each in the world and with the context that the one before it leaves,
until one of them fails. -/
inductive Folds (event : Event) : World σ → Value → List (Callee σ) → World σ → Outcome Value → Prop
  | nil {w context} : Folds event w context [] w (.ok context)
  | failed {w context f rest w' e} (hf : w.Gives f context event w' (.error e)) :
      Folds event w context (f :: rest) w' (.error e)
  | cons {w context f rest w₁ next w' o} (hf : w.Gives f context event w₁ (.ok next))
      (hrest : Folds event w₁ next rest w' o) : Folds event w context (f :: rest) w' o

theorem computes_fold {event : Event} {context : Value} {actions : List (Action σ)} {o : Outcome Value} :
    w.Computes (Action.calls context event actions) (Action.fold event context (Action.assignments actions)) w₁ o ↔
      Folds event w context (Action.assignments actions) w₁ o := by
  induction actions generalizing w context with
  | nil =>
    refine computes_done.trans ⟨?_, ?_⟩
    · rintro ⟨rfl, rfl⟩
      exact .nil
    · rintro ⟨⟩
      exact ⟨rfl, rfl⟩
  | cons a rest ih =>
    cases a with
    | effect e => exact ih
    | assign f =>
      have hassign : Action.assignments (.assign f :: rest) = f :: Action.assignments rest := rfl
      rw [hassign, Action.fold_cons, Action.calls]
      refine (computes_bind (fun next ↦ Action.calls next event rest) (fun next hf ↦ by rw [hf])
        fun e hf ↦ by rw [hf]).trans ⟨?_, ?_⟩
      · rintro (⟨w', next, hf, hrest⟩ | ⟨e, hf, rfl⟩)
        · exact .cons hf (ih.mp hrest)
        · exact .failed hf
      · rintro (_ | hf | ⟨hf, hrest⟩)
        · exact .inr ⟨_, hf, rfl⟩
        · exact .inl ⟨_, _, hf, ih.mpr hrest⟩

/-- What a list of actions calls and computes are its assignments, one after another. -/
theorem computes_partition {event : Event} {context : Value} {actions : List (Action σ)}
    {result : Outcome (Value × List (Effect σ))} :
    w.Computes (Action.calls context event actions) (Action.partition context event actions) w₁ result ↔
      ∃ o, Folds event w context (Action.assignments actions) w₁ o ∧ result = o.map (·, Action.effects actions) := by
  rw [Action.partition_eq, computes_map]
  simp only [computes_fold]

/-- Whether a transition lets an event pass is what its guard gives. -/
theorem computes_allows {t : Transition σ} {context : Value} {event : Event} {o : Outcome Bool} :
    w.Computes (t.calls context event) (t.allows context event) w₁ o ↔
      (t.guard = none ∧ w₁ = w ∧ o = .ok true) ∨
        ∃ guard given, t.guard = some guard ∧ w.Gives guard context event w₁ given ∧
          o = given.map Value.isTruthy := by
  unfold Transition.calls Transition.allows
  cases t.guard with
  | none =>
    refine computes_done.trans ⟨fun ⟨hworld, ho⟩ ↦ .inl ⟨rfl, hworld, ho⟩, ?_⟩
    rintro (⟨-, hworld, ho⟩ | ⟨guard, given, ⟨⟩, -⟩)
    exact ⟨hworld, ho⟩
  | some guard =>
    refine computes_map.trans ⟨fun ⟨given, hgiven, ho⟩ ↦ .inr ⟨guard, given, rfl, hgiven, ho⟩, ?_⟩
    rintro (⟨⟨⟩, -⟩ | ⟨_, given, ⟨⟩, hgiven, ho⟩)
    exact ⟨given, hgiven, ho⟩

section

variable {t : Transition σ} {context : Value} {event : Event}

/-- An event passes in a world without a guard, or by a guard whose value counts as true. -/
theorem computes_passes :
    w.Computes (t.calls context event) (t.allows context event) w₁ (.ok true) ↔
      (t.guard = none ∧ w₁ = w) ∨
        ∃ guard v, t.guard = some guard ∧ w.Gives guard context event w₁ (.ok v) ∧ v.isTruthy = true := by
  refine computes_allows.trans (or_congr (by simp) ⟨?_, ?_⟩)
  · rintro ⟨guard, given, hguard, hgives, hgiven⟩
    cases given with
    | error f => cases hgiven
    | ok v => exact ⟨guard, v, hguard, hgives, (Except.ok.inj hgiven).symm⟩
  · rintro ⟨guard, v, hguard, hgives, htrue⟩
    exact ⟨guard, _, hguard, hgives, by rw [Except.map, htrue]⟩

/-- An event is refused in a world by a guard whose value counts as false. -/
theorem computes_refuses :
    w.Computes (t.calls context event) (t.allows context event) w₁ (.ok false) ↔
      ∃ guard v, t.guard = some guard ∧ w.Gives guard context event w₁ (.ok v) ∧ v.isTruthy = false := by
  refine computes_allows.trans ⟨?_, ?_⟩
  · rintro (⟨-, -, ⟨⟩⟩ | ⟨guard, given, hguard, hgives, hgiven⟩)
    cases given with
    | error f => cases hgiven
    | ok v => exact ⟨guard, v, hguard, hgives, (Except.ok.inj hgiven).symm⟩
  · rintro ⟨guard, v, hguard, hgives, hfalse⟩
    exact .inr ⟨guard, _, hguard, hgives, by rw [Except.map, hfalse]⟩

theorem computes_fails {f : Failure} :
    w.Computes (t.calls context event) (t.allows context event) w₁ (.error f) ↔
      ∃ guard, t.guard = some guard ∧ w.Gives guard context event w₁ (.error f) := by
  refine computes_allows.trans ⟨?_, ?_⟩
  · rintro (⟨-, -, ⟨⟩⟩ | ⟨guard, given, hguard, hgives, hgiven⟩)
    cases given with
    | error f =>
      cases hgiven
      exact ⟨guard, hguard, hgives⟩
    | ok v => cases hgiven
  · rintro ⟨guard, hguard, hgives⟩
    exact .inr ⟨guard, _, hguard, hgives, rfl⟩

end

end World

/-! ### Guards -/

namespace Transition

variable {t : Transition σ} {context : Value} {event : Event}

/-- There is no guard, or it gives a value that counts as true. -/
def Passes (t : Transition σ) (context : Value) (event : Event) : Prop :=
  ∀ guard, t.guard = some guard → ∃ v, guard.apply context event = .ok v ∧ v.isTruthy = true

/-- There is a guard, and it gives a value that counts as false. -/
def Refuses (t : Transition σ) (context : Value) (event : Event) : Prop :=
  ∃ guard v, t.guard = some guard ∧ guard.apply context event = .ok v ∧ v.isTruthy = false

theorem allows_eq_true : t.allows context event = .ok true ↔ t.Passes context event := by
  unfold allows Passes
  cases t.guard with
  | none => simp
  | some guard => cases h : guard.apply context event <;> simp [h, Except.map]

theorem allows_eq_false : t.allows context event = .ok false ↔ t.Refuses context event := by
  unfold allows Refuses
  cases t.guard with
  | none => simp
  | some guard => cases h : guard.apply context event <;> simp [h, Except.map]

theorem allows_eq_error {f : Failure} :
    t.allows context event = .error f ↔ ∃ guard, t.guard = some guard ∧ guard.apply context event = .error f := by
  refine ⟨fails_of_allows, ?_⟩
  rintro ⟨guard, hguard, hf⟩
  simp only [allows, hguard, hf, Except.map]

end Transition

/-! ### Specifications -/

namespace Machine

/-- A state has a transition for an event, with the actions of its exit, of the transition and of the entry of the
target, in this order. -/
inductive Takes (m : Machine σ) (s : State σ) (event : Event) : Transition σ → List (Action σ) → Prop
  | intro {node target : Node σ} {t : Transition σ} (hnode : m.node s.value = .ok node)
      (ht : reaction node event.kind = .ok (some t)) (htarget : m.node (t.target.getD s.value) = .ok target) :
      Takes m s event t (node.exit ++ t.actions ++ target.entry)

/-- No transition of a state matches an event. -/
def Ignores (m : Machine σ) (s : State σ) (event : Event) : Prop :=
  ∃ node, m.node s.value = .ok node ∧ reaction node event.kind = .ok none

/-- What follows a state, if anything does, when an event occurs. -/
inductive Specified (m : Machine σ) (s : State σ) (event : Event) : Outcome (State σ) → Prop
  | unkeyed (hkey : event.kind.isKey = false) : Specified m s event (.error .wrongType)
  | ignored (h : m.Ignores s event) : Specified m s event (.ok ⟨s.value, s.context, [], false⟩)
  | refused {t actions} (h : m.Takes s event t actions) (hrefuses : t.Refuses s.context event) :
      Specified m s event (.ok ⟨s.value, s.context, [], false⟩)
  | guardFailed {t actions guard f} (h : m.Takes s event t actions) (hguard : t.guard = some guard)
      (hf : guard.apply s.context event = .error f) : Specified m s event (.error f)
  | moved {t actions context} (h : m.Takes s event t actions) (hpasses : t.Passes s.context event)
      (hfold : Action.fold event s.context (Action.assignments actions) = .ok context) :
      Specified m s event (.ok ⟨t.target.getD s.value, context, Action.effects actions, true⟩)
  | assignmentFailed {t actions before f after context e} (h : m.Takes s event t actions)
      (hpasses : t.Passes s.context event) (hactions : Action.assignments actions = before ++ f :: after)
      (hbefore : Action.fold event s.context before = .ok context) (hf : f.apply context event = .error e) :
      Specified m s event (.error e)

/-- What follows a state in a world, and the world that its guards and assignments leave. -/
inductive Performs (m : Machine σ) (s : State σ) (event : Event) (w : World σ) : World σ → Outcome (State σ) → Prop
  | unkeyed (hkey : event.kind.isKey = false) : Performs m s event w w (.error .wrongType)
  | ignored (h : m.Ignores s event) : Performs m s event w w (.ok ⟨s.value, s.context, [], false⟩)
  | refused {t actions guard v w'} (h : m.Takes s event t actions) (hguard : t.guard = some guard)
      (hv : w.Gives guard s.context event w' (.ok v)) (hfalse : v.isTruthy = false) :
      Performs m s event w w' (.ok ⟨s.value, s.context, [], false⟩)
  | guardFailed {t actions guard f w'} (h : m.Takes s event t actions) (hguard : t.guard = some guard)
      (hf : w.Gives guard s.context event w' (.error f)) : Performs m s event w w' (.error f)
  | passed {t actions o w₁ w'} (h : m.Takes s event t actions)
      (hpass : (t.guard = none ∧ w₁ = w) ∨ ∃ guard v, t.guard = some guard ∧
        w.Gives guard s.context event w₁ (.ok v) ∧ v.isTruthy = true)
      (hfolds : World.Folds event w₁ s.context (Action.assignments actions) w' o) :
      Performs m s event w w'
        (o.map fun context ↦ ⟨t.target.getD s.value, context, Action.effects actions, true⟩)

variable {m : Machine σ} {s : State σ} {event : Event} {t : Transition σ} {actions : List (Action σ)}

/-- The state that follows where there is a transition. -/
theorem transition_of_takes (h : m.Takes s event t actions) :
    m.transition s event = t.allows s.context event >>= fun allowed ↦
      if allowed then (Action.partition s.context event actions).map fun parts ↦
        ⟨t.target.getD s.value, parts.1, parts.2, true⟩
      else .ok ⟨s.value, s.context, [], false⟩ := by
  obtain ⟨hnode, ht, htarget⟩ := h
  simp only [transition, hnode, ht, ok_bind]
  cases t.allows s.context event with
  | error f => rfl
  | ok allowed =>
    cases allowed with
    | false => rfl
    | true =>
      simp only [ok_bind, if_true, htarget]
      cases Action.partition s.context event _ <;> rfl

theorem calls_of_takes (h : m.Takes s event t actions) :
    m.calls s event = (t.calls s.context event).andThen (match t.allows s.context event with
      | .ok allowed => if allowed then Action.calls s.context event actions else .done
      | .error _ => .done) := by
  obtain ⟨hnode, ht, htarget⟩ := h
  simp only [calls, hnode, ht, htarget]
  cases t.allows s.context event with
  | error f => rfl
  | ok allowed => cases allowed <;> rfl

/-- A declared state of a closed machine ignores an event or takes a transition, unless its kind cannot be a key. -/
theorem Closed.reacts (hm : m.Closed) (hs : m.HasState s.value) (event : Event) :
    event.kind.isKey = false ∨ m.Ignores s event ∨ ∃ t actions, m.Takes s event t actions := by
  obtain ⟨node, hnode⟩ := hs.node
  cases hkey : event.kind.isKey with
  | false => exact .inl rfl
  | true =>
    have hfound : reaction node event.kind = .ok (Entries.find? node.on event.kind) := by simp [reaction, hkey]
    cases ht : Entries.find? node.on event.kind with
    | none => exact .inr (.inl ⟨node, hnode, by rw [hfound, ht]⟩)
    | some t =>
      obtain ⟨l, hl⟩ := mem_of_find? ht
      obtain ⟨target, htarget⟩ := (hm.hasState_target hs hnode hl).node
      exact .inr (.inr ⟨t, _, .intro hnode (by rw [hfound, ht]) htarget⟩)

theorem transition_of_unkeyed (hs : m.HasState s.value) (hkey : event.kind.isKey = false) :
    m.transition s event = .error .wrongType ∧ m.calls s event = .done := by
  obtain ⟨node, hnode⟩ := hs.node
  simp [transition, calls, hnode, reaction, hkey]

theorem Ignores.transition_eq (h : m.Ignores s event) :
    m.transition s event = .ok ⟨s.value, s.context, [], false⟩ ∧ m.calls s event = .done := by
  obtain ⟨node, hnode, hnone⟩ := h
  refine ⟨transition_of_none hnode hnone, ?_⟩
  simp only [calls, hnode, hnone]

/-- What follows a declared state of a closed machine is what is specified. -/
theorem transition_eq_iff (hm : m.Closed) (hs : m.HasState s.value) (event : Event) (o : Outcome (State σ)) :
    m.transition s event = o ↔ m.Specified s event o := by
  constructor
  · rintro rfl
    rcases hm.reacts hs event with hkey | hignores | ⟨t, actions, h⟩
    · exact (transition_of_unkeyed hs hkey).1 ▸ .unkeyed hkey
    · exact hignores.transition_eq.1 ▸ .ignored hignores
    · rw [transition_of_takes h]
      cases hallows : t.allows s.context event with
      | error f =>
        obtain ⟨guard, hguard, hf⟩ := Transition.fails_of_allows hallows
        exact .guardFailed h hguard hf
      | ok allowed =>
        cases allowed with
        | false => exact .refused h (Transition.allows_eq_false.mp hallows)
        | true =>
          have hpasses := Transition.allows_eq_true.mp hallows
          rw [Action.partition_eq]
          cases hfold : Action.fold event s.context (Action.assignments actions) with
          | ok context => exact .moved h hpasses hfold
          | error e =>
            obtain ⟨before, f, after, made, hactions, hbefore, hf⟩ := Action.fold_eq_error.mp hfold
            exact .assignmentFailed h hpasses hactions hbefore hf
  · rintro (hkey | hignores | ⟨h, hrefuses⟩ | ⟨h, hguard, hf⟩ | ⟨h, hpasses, hfold⟩ |
      ⟨h, hpasses, hactions, hbefore, hf⟩)
    · exact (transition_of_unkeyed hs hkey).1
    · exact hignores.transition_eq.1
    · rw [transition_of_takes h, Transition.allows_eq_false.mpr hrefuses]
      rfl
    · rw [transition_of_takes h, Transition.allows_eq_error.mpr ⟨_, hguard, hf⟩]
      rfl
    · rw [transition_of_takes h, Transition.allows_eq_true.mpr hpasses, Action.partition_eq, hfold]
      rfl
    · rw [transition_of_takes h, Transition.allows_eq_true.mpr hpasses, Action.partition_eq, hactions,
        Action.fold_eq_error.mpr ⟨_, _, _, _, rfl, hbefore, hf⟩]
      rfl

/-- Where there is a transition, its guard is asked in the world, and the assignments are called in the world that the
guard leaves. -/
theorem computes_of_takes (h : m.Takes s event t actions) {w w' : World σ} {o : Outcome (State σ)} :
    w.Computes (m.calls s event) (m.transition s event) w' o ↔
      (∃ w₁, w.Computes (t.calls s.context event) (t.allows s.context event) w₁ (.ok true) ∧
        ∃ made, World.Folds event w₁ s.context (Action.assignments actions) w' made ∧
          o = made.map fun context ↦ ⟨t.target.getD s.value, context, Action.effects actions, true⟩) ∨
      (w.Computes (t.calls s.context event) (t.allows s.context event) w' (.ok false) ∧
        o = .ok ⟨s.value, s.context, [], false⟩) ∨
      ∃ f, w.Computes (t.calls s.context event) (t.allows s.context event) w' (.error f) ∧ o = .error f := by
  rw [transition_of_takes h, calls_of_takes h]
  refine (World.computes_bind (fun allowed ↦ if allowed then Action.calls s.context event actions else .done)
    (fun allowed ha ↦ by rw [ha]) fun f hf ↦ by rw [hf]).trans ?_
  refine (or_congr_left ?_).trans or_assoc
  constructor
  · rintro ⟨w₁, allowed, hallows, hmore⟩
    cases allowed with
    | true =>
      obtain ⟨parts, hparts, rfl⟩ := World.computes_map.mp hmore
      obtain ⟨made, hfolds, rfl⟩ := World.computes_partition.mp hparts
      exact .inl ⟨w₁, hallows, made, hfolds, by cases made <;> rfl⟩
    | false =>
      obtain ⟨rfl, rfl⟩ := World.computes_done.mp hmore
      exact .inr ⟨hallows, rfl⟩
  · rintro (⟨w₁, hallows, made, hfolds, rfl⟩ | ⟨hallows, rfl⟩)
    · refine ⟨w₁, true, hallows, World.computes_map.mpr ⟨_, World.computes_partition.mpr ⟨made, hfolds, rfl⟩, ?_⟩⟩
      cases made <;> rfl
    · exact ⟨w', false, hallows, World.computes_done.mpr ⟨rfl, rfl⟩⟩

/-- What follows a declared state of a closed machine in a world, and what world, is what is specified. -/
theorem computes_iff (hm : m.Closed) (hs : m.HasState s.value) (event : Event) (w w' : World σ)
    (o : Outcome (State σ)) :
    w.Computes (m.calls s event) (m.transition s event) w' o ↔ m.Performs s event w w' o := by
  constructor
  · intro hcomputes
    rcases hm.reacts hs event with hkey | hignores | ⟨t, actions, h⟩
    · obtain ⟨htransition, hcalls⟩ := transition_of_unkeyed hs hkey
      rw [htransition, hcalls] at hcomputes
      obtain ⟨rfl, rfl⟩ := World.computes_done.mp hcomputes
      exact .unkeyed hkey
    · obtain ⟨htransition, hcalls⟩ := hignores.transition_eq
      rw [htransition, hcalls] at hcomputes
      obtain ⟨rfl, rfl⟩ := World.computes_done.mp hcomputes
      exact .ignored hignores
    · rcases (computes_of_takes h).mp hcomputes with
        ⟨w₁, hpasses, made, hfolds, rfl⟩ | ⟨hrefuses, rfl⟩ | ⟨f, hfails, rfl⟩
      · exact .passed h (World.computes_passes.mp hpasses) hfolds
      · obtain ⟨guard, v, hguard, hv, hfalse⟩ := World.computes_refuses.mp hrefuses
        exact .refused h hguard hv hfalse
      · obtain ⟨guard, hguard, hf⟩ := World.computes_fails.mp hfails
        exact .guardFailed h hguard hf
  · rintro (hkey | hignores | ⟨h, hguard, hv, hfalse⟩ | ⟨h, hguard, hf⟩ | ⟨h, hpass, hfolds⟩)
    · obtain ⟨htransition, hcalls⟩ := transition_of_unkeyed hs hkey
      rw [htransition, hcalls]
      exact World.computes_done.mpr ⟨rfl, rfl⟩
    · obtain ⟨htransition, hcalls⟩ := hignores.transition_eq
      rw [htransition, hcalls]
      exact World.computes_done.mpr ⟨rfl, rfl⟩
    · exact (computes_of_takes h).mpr (.inr (.inl ⟨World.computes_refuses.mpr ⟨_, _, hguard, hv, hfalse⟩, rfl⟩))
    · exact (computes_of_takes h).mpr (.inr (.inr ⟨_, World.computes_fails.mpr ⟨_, hguard, hf⟩, rfl⟩))
    · exact (computes_of_takes h).mpr (.inl ⟨_, World.computes_passes.mpr hpass, _, hfolds, rfl⟩)

end Machine

/-- What follows a state is what its specification says. Assumes: a machine that was built, from its parts, from a
description or from a document, with any guards and assignments, and a state with a declared value. First, for every
event, the transition function gives a state, or fails, exactly as specified: an event without a transition and one
whose guard refuses it leave value and context, with no effects and unchanged; otherwise the value is the target, or the
current one where there is none, the assignments of exit, transition and entry are folded in this order over the
context, and the effects of the same list are kept; the first assignment that fails is the result. Second and third,
where guards and assignments work on a world, and their calls come to an end, they are called one after another, each
in the world that the one before it leaves, and none after one that has failed. Fourth, the three lists may be folded
one after the other. Fifth, two lists with the same assignments and the same effects, each in the same order, come to
the same, however the two stand among each other. Sixth, no assignment is kept: what is kept is the list without its
assignments. Seventh, behind an assignment that fails it makes no difference what stands, and none of it is called. -/
theorem transition_as_specified {m : Machine σ} (hm : m.Accepted) {s : State σ} (hs : m.HasState s.value)
    (event : Event) :
    (∀ o, m.transition s event = o ↔ m.Specified s event o) ∧
    (∀ w last, (Run.script w [] (m.calls s event)).Ends [] last → ∃ o, m.Performs s event w last.world o) ∧
    (∀ w w' o, m.Performs s event w w' o → w.compute (m.calls s event) (m.transition s event) = (w', o)) ∧
    (∀ context (exit actions entry : List (Action σ)),
      Action.partition context event (exit ++ actions ++ entry) = (do
        let (context, first) ← Action.partition context event exit
        let (context, second) ← Action.partition context event actions
        let (context, third) ← Action.partition context event entry
        return (context, first ++ second ++ third))) ∧
    (∀ context (actions others : List (Action σ)), Action.assignments actions = Action.assignments others →
      Action.effects actions = Action.effects others →
        Action.partition context event actions = Action.partition context event others ∧
        Action.calls context event actions = Action.calls context event others) ∧
    (∀ actions : List (Action σ),
      (Action.effects actions).map .effect = actions.filter fun a ↦ a.assignment?.isNone) ∧
    ∀ context before f (after : List (Action σ)) made e,
      Action.fold event context (Action.assignments before) = .ok made → f.apply made event = .error e →
        Action.partition context event (before ++ .assign f :: after) = .error e ∧
        Action.calls context event (before ++ .assign f :: after) =
          Action.calls context event (before ++ [.assign f]) := by
  have hcomputes := Machine.computes_iff hm.closed hs event
  refine ⟨Machine.transition_eq_iff hm.closed hs event, fun w last hends ↦ ?_,
    fun w w' o hperforms ↦ ((hcomputes w w' o).mpr hperforms).compute_eq, fun context exit actions entry ↦ ?_,
    fun context actions others hassignments heffects ↦ ?_, Action.effects_eq_filter,
    fun context before f after made e hbefore hf ↦ ?_⟩
  · obtain ⟨o, ho⟩ := World.computes_of_ends hends (m.transition s event)
    exact ⟨o, (hcomputes w last.world o).mp ho⟩
  · simp only [Action.partition_append, bind_assoc, pure_bind]
  · refine ⟨?_, Action.calls_congr hassignments context event⟩
    rw [Action.partition_eq, Action.partition_eq, hassignments, heffects]
  · refine ⟨?_, Action.calls_of_failing hbefore hf⟩
    have hassignments : Action.assignments (before ++ .assign f :: after) =
        Action.assignments before ++ f :: Action.assignments after := Action.assignments_append _ _
    rw [Action.partition_eq, hassignments, Action.fold_eq_error.mpr ⟨_, _, _, _, rfl, hbefore, hf⟩]
    rfl

/-- The lamp that is off and pressed is on, with the effect of its entry still to be performed. -/
theorem transition_as_specified_of_lamp :
    (lamp shines).Specified ⟨.text "off", .null, [], false⟩ ⟨.text "press", []⟩
      (.ok ⟨.text "on", .null, [⟨"shine", .function none shines⟩], true⟩) := by
  have hoff : (lamp shines).HasState (.text "off") := ⟨rfl, _, List.mem_cons_self, rfl⟩
  exact ((transition_as_specified (.parts (ofParts_lampStates shines)) hoff ⟨.text "press", []⟩).1 _).mp rfl

end Statechart
