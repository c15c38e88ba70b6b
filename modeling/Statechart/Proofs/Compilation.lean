import Statechart.Proofs.Closure

/-!
# Compiled documents

A document names its callables by references; `Manifest.references` lists them in the order in which they are
resolved. `Manifest.described` is the description of the same machine with every reference replaced by the callable
that it names. To build a document is to resolve its references one after the other and then to build this
description (`Manifest.build_eq`), so that the first reference that fails decides how the whole fails.

`Manifest.follow` reads off a document what follows a state, without building a machine. The machine that is built
follows the document (`Manifest.transition_eq_follow`).
-/

set_option autoImplicit false
set_option relaxedAutoImplicit false

namespace Statechart

variable {σ : Type}

@[simp] theorem ok_bind {α β : Type} (a : α) (f : α → Outcome β) : (Except.ok a >>= f : Outcome β) = f a := rfl

@[simp] theorem error_bind {α β : Type} (e : Failure) (f : α → Outcome β) :
    (Except.error e >>= f : Outcome β) = .error e := rfl

/-! ### References -/

namespace Scope

/-- The callable that a reference is replaced by. -/
def callee (scope : Scope σ) (reference : String) : Callee σ :=
  match scope.resolve reference with
  | .ok c => c
  | .error _ => .inert .null

/-- A reference names a callable. -/
def Resolves (scope : Scope σ) (reference : String) : Prop := ∃ c, scope.resolve reference = .ok c

/-- References are resolved one after the other. -/
def resolveAll (scope : Scope σ) : List String → Outcome Unit
  | [] => .ok ()
  | reference :: rest => do
    let _ ← scope.resolve reference
    scope.resolveAll rest

variable {scope : Scope σ} {reference : String} {c : Callee σ}

theorem callee_eq (h : scope.resolve reference = .ok c) : scope.callee reference = c := by
  rw [callee, h]

theorem resolveAll_append (references more : List String) :
    scope.resolveAll (references ++ more) = (do scope.resolveAll references; scope.resolveAll more) := by
  induction references with
  | nil => rfl
  | cons reference rest ih => simp only [List.cons_append, resolveAll, ih, bind_assoc]

theorem resolveAll_eq_ok {references : List String} :
    scope.resolveAll references = .ok () ↔ ∀ reference ∈ references, scope.Resolves reference := by
  induction references with
  | nil => simp [resolveAll]
  | cons reference rest ih =>
    rw [List.forall_mem_cons, ← ih, resolveAll]
    constructor
    · intro h
      obtain ⟨c, hc, hrest⟩ := ok_of_bind h
      exact ⟨⟨c, hc⟩, hrest⟩
    · rintro ⟨⟨c, hc⟩, hrest⟩
      rw [hc]
      exact hrest

/-- The first reference that fails decides. -/
theorem resolveAll_of_fails {before after : List String} {f : Failure}
    (hbefore : ∀ reference ∈ before, scope.Resolves reference) (h : scope.resolve reference = .error f) :
    scope.resolveAll (before ++ reference :: after) = .error f := by
  rw [resolveAll_append, resolveAll_eq_ok.mpr hbefore, resolveAll, h]
  rfl

/-- What is found in a module is callable. -/
theorem isCallable_of_resolveIn {modules : List (String × Module σ)} {path name : String}
    (h : resolveIn modules reference path name = .ok c) : c.isCallable = true := by
  unfold resolveIn at h
  split at h
  · cases h
  · split at h
    · cases h
    · split at h
      · unfold callableIn at h
        split at h
        · cases h
        · next hinert _ =>
          cases h
          cases c with
          | inert v => exact absurd rfl (hinert v)
          | function | effect => rfl
        · cases h
      · cases h
      · cases h

/-- A reference names something callable if the registry holds nothing else. -/
theorem isCallable_of_resolve (hregistry : ∀ p ∈ scope.registry, p.2.isCallable = true)
    (h : scope.resolve reference = .ok c) : c.isCallable = true := by
  unfold resolve at h
  split at h
  · next hfound =>
    cases h
    obtain ⟨before, after, hentries, -⟩ := List.lookup_eq_some_iff.mp hfound
    exact hregistry (reference, c) (by simp [hentries])
  · split at h
    · cases h
    · exact isCallable_of_resolveIn h

theorem resolve_of_split {path name : List Char} (hnew : scope.registry.lookup reference = none)
    (hsplit : splitAtLastDot reference.toList = some (path, name)) :
    scope.resolve reference = resolveIn scope.modules reference (String.ofList path) (String.ofList name) := by
  simp only [resolve, hnew, hsplit]

/-- A computation that resolves references in their order and then gives a value made of what they name. -/
def Yields {α : Type} (scope : Scope σ) (references : List String) (x : Outcome α) (a : α) : Prop :=
  x = (do scope.resolveAll references; return a)

namespace Yields

variable {α β : Type} {references more : List String}

theorem pure (scope : Scope σ) (a : α) : scope.Yields [] (.ok a) a := rfl

theorem bind {x : Outcome α} {a : α} {f : α → Outcome β} {b : β} (hx : scope.Yields references x a)
    (hf : scope.Yields more (f a) b) : scope.Yields (references ++ more) (x >>= f) b := by
  unfold Yields at hx hf ⊢
  rw [hx, bind_assoc, resolveAll_append, bind_assoc]
  simp only [pure_bind, hf]

theorem map {x : Outcome α} {a : α} (hx : scope.Yields references x a) (f : α → β) :
    scope.Yields references (do return f (← x)) (f a) := by
  unfold Yields at hx ⊢
  rw [hx, bind_assoc]
  simp only [pure_bind]

theorem resolve {f : Callee σ → Outcome β} {b : β}
    (hf : ∀ c, scope.resolve reference = .ok c → f c = .ok b) :
    scope.Yields [reference] (scope.resolve reference >>= f) b := by
  unfold Yields
  simp only [resolveAll]
  cases hc : scope.resolve reference with
  | error e => rfl
  | ok c => exact hf c hc

theorem mapM (xs : List α) {f : α → Outcome β} {g : α → β} {references : α → List String}
    (h : ∀ x ∈ xs, scope.Yields (references x) (f x) (g x)) :
    scope.Yields (xs.flatMap references) (xs.mapM f) (xs.map g) := by
  induction xs with
  | nil => exact pure scope []
  | cons x xs ih =>
    obtain ⟨hx, hxs⟩ := List.forall_mem_cons.mp h
    rw [List.mapM_cons, List.flatMap_cons, List.map_cons]
    exact hx.bind ((ih hxs).map (g x :: ·))

end Yields

end Scope

/-! ### Documents with their references replaced -/

namespace ActionSpec

/-- The references of an action; a valid one has at most one. -/
def references (a : ActionSpec) : List String :=
  match a.assign, a.assignValues, a.effect with
  | some reference, _, _ => [reference]
  | none, none, some reference => [reference]
  | none, _, _ => []

/-- The kind of a written line: as asked for, else a name that all lines share. -/
def lineKind : Option String → String
  | none | some "" => "log"
  | some kind => kind

/-- The action that is described: an assignment, an overlay, an effect or a written line. -/
def reading (scope : Scope σ) (a : ActionSpec) : Action σ :=
  match a.assign, a.assignValues, a.effect with
  | some reference, _, _ => .assign (scope.callee reference)
  | none, some values, _ => .ofValues values
  | none, none, some reference => .ofEffect a.kind (scope.callee reference)
  | none, none, none => .ofLog (writtenLine (a.log.getD "")) .library a.level (lineKind a.kind)

end ActionSpec

namespace TransitionSpec

/-- The references of a transition, that of its guard first. -/
def references (t : TransitionSpec) : List String := t.guard.toList ++ t.actions.flatMap ActionSpec.references

/-- The transition that is described. -/
def reading (scope : Scope σ) (t : TransitionSpec) : Transition σ :=
  ⟨t.target.map .text, t.guard.map scope.callee, t.actions.map (ActionSpec.reading scope)⟩

/-- The description of the transition, its callables in the place of their names. -/
def parts (scope : Scope σ) (t : TransitionSpec) : TransitionParts σ :=
  ⟨textValue t.target, t.guard.map scope.callee, .items (t.actions.map fun a ↦ .action (a.reading scope))⟩

end TransitionSpec

namespace StateSpec

/-- The references of a state: those of its transitions, of its entry and of its exit. -/
def references (s : StateSpec) : List String :=
  s.on.flatMap (fun p ↦ p.2.references) ++ (s.entry.flatMap ActionSpec.references ++
    s.exit.flatMap ActionSpec.references)

/-- The node that is described. -/
def reading (scope : Scope σ) (s : StateSpec) : Node σ :=
  ⟨s.on.map fun p ↦ (.text p.1, p.2.reading scope), s.entry.map (ActionSpec.reading scope),
    s.exit.map (ActionSpec.reading scope)⟩

/-- The description of the node, its callables in the place of their names. -/
def parts (scope : Scope σ) (s : StateSpec) : NodeParts σ where
  on := .entries (s.on.map fun p ↦ (.text p.1, .parts (p.2.parts scope)))
  entry := .items (s.entry.map fun a ↦ .action (a.reading scope))
  exit := .items (s.exit.map fun a ↦ .action (a.reading scope))

end StateSpec

namespace Manifest

/-- The references of a document in the order in which they are resolved. -/
def references (m : Manifest) : List String := m.spec.states.flatMap fun p ↦ p.2.references

/-- The nodes that are described. -/
def nodes (scope : Scope σ) (m : Manifest) : List (Value × Node σ) :=
  m.spec.states.map fun p ↦ (.text p.1, p.2.reading scope)

/-- The kinds of events as they are listed, null for none. -/
def kinds (m : Manifest) : Value := (m.spec.events.map Value.ofTexts).getD .null

/-- The description of the machine under a name, its callables in the place of their names. -/
def described (scope : Scope σ) (m : Manifest) (name : String) : Machine.Description σ where
  initial := some (.text m.spec.initial)
  states := some (.entries (m.spec.states.map fun p ↦ (.text p.1, .parts (p.2.parts scope))))
  context := some (.ofFields m.spec.context)
  events := some m.kinds
  name := some (.text name)

/-- No guard is given by an empty reference. -/
def NamesGuards (m : Manifest) : Prop := ∀ p ∈ m.spec.states, ∀ q ∈ p.2.on, q.2.guard ≠ some ""

end Manifest

/-! ### Building resolves the references in order -/

section

variable {scope : Scope σ} (hregistry : ∀ p ∈ scope.registry, p.2.isCallable = true)

include hregistry

theorem ActionSpec.yields_build (a : ActionSpec) :
    scope.Yields a.references (a.build scope) (a.reading scope) := by
  have hcallable {reference : String} {c : Callee σ} (hc : scope.resolve reference = .ok c) :
      c.isCallable = true := Scope.isCallable_of_resolve hregistry hc
  unfold references build reading
  cases a.assign with
  | some reference =>
    refine .resolve fun c hc ↦ ?_
    dsimp only
    rw [Scope.callee_eq hc]
    cases c with
    | inert v => cases hcallable hc
    | function | effect => rfl
  | none =>
    cases a.assignValues with
    | some values => exact .pure scope _
    | none =>
      cases a.effect with
      | some reference =>
        refine .resolve fun c hc ↦ ?_
        dsimp only
        rw [Scope.callee_eq hc]
        cases c with
        | inert v => cases hcallable hc
        | function | effect => rfl
      | none => exact .pure scope _

theorem TransitionSpec.yields_build {t : TransitionSpec} (hguard : t.guard ≠ some "") :
    scope.Yields t.references (t.build scope) (t.reading scope) := by
  have hasked : scope.Yields t.guard.toList (buildGuard scope t.guard) (t.guard.map scope.callee) := by
    cases hg : t.guard with
    | none => exact .pure scope _
    | some reference =>
      rw [hg] at hguard
      unfold buildGuard
      split
      · next h => cases h
      · next h => exact absurd h hguard
      · next h =>
        cases h
        refine .resolve fun c hc ↦ ?_
        rw [Option.map_some, Scope.callee_eq hc]
        have hcallable := Scope.isCallable_of_resolve hregistry hc
        cases c with
        | inert v => cases hcallable
        | function | effect => rfl
  have hactions := Scope.Yields.mapM t.actions fun a _ ↦ a.yields_build hregistry
  unfold references build
  exact hasked.bind (hactions.map (Transition.mk (t.target.map .text) (t.guard.map scope.callee)))

theorem StateSpec.yields_build {s : StateSpec} (hguards : ∀ q ∈ s.on, q.2.guard ≠ some "") :
    scope.Yields s.references (s.build scope) (s.reading scope) := by
  have hon := Scope.Yields.mapM s.on (f := fun (p : String × TransitionSpec) ↦ do
    return (Value.text p.1, ← p.2.build scope))
    fun p hp ↦ (TransitionSpec.yields_build hregistry (hguards p hp)).map (Value.text p.1, ·)
  have hentry := Scope.Yields.mapM s.entry fun a _ ↦ a.yields_build hregistry
  have hexit := Scope.Yields.mapM s.exit fun a _ ↦ a.yields_build hregistry
  exact hon.bind (hentry.bind (hexit.map (Node.mk _ _)))

theorem Manifest.yields_nodes {m : Manifest} (hguards : m.NamesGuards) :
    scope.Yields m.references (m.spec.states.mapM fun p ↦ do return (Value.text p.1, ← p.2.build scope))
      (m.nodes scope) :=
  .mapM m.spec.states fun p hp ↦ (StateSpec.yields_build hregistry (hguards p hp)).map (Value.text p.1, ·)

end

/-! ### The description of a document -/

theorem ActionList.toActions_of_actions (actions : List ActionSpec) (f : ActionSpec → Action σ) :
    toActions (.items (actions.map fun a ↦ .action (f a))) = .ok (actions.map f) := by
  change List.mapM Candidate.toAction _ = _
  induction actions with
  | nil => rfl
  | cons a rest ih =>
    rw [List.map_cons, List.mapM_cons, ih]
    rfl

section

variable (scope : Scope σ)

theorem TransitionSpec.ofParts_parts (t : TransitionSpec) :
    Transition.ofParts (t.parts scope) = .ok (t.reading scope) := by
  unfold Transition.ofParts parts reading
  rw [ActionList.toActions_of_actions]
  cases t.target <;> rfl

theorem StateSpec.ofParts_parts (s : StateSpec) : Node.ofParts (s.parts scope) = .ok (s.reading scope) := by
  have hon (on : List (String × TransitionSpec)) :
      Node.transitionsOf (on.map fun p ↦ (.text p.1, .parts (p.2.parts scope))) =
        .ok (on.map fun p ↦ (.text p.1, p.2.reading scope)) := by
    induction on with
    | nil => rfl
    | cons p rest ih =>
      rw [List.map_cons, Node.transitionsOf, Transition.ofSource, p.2.ofParts_parts scope, ih]
      rfl
  simp only [Node.ofParts, parts, hon, ActionList.toActions_of_actions]
  rfl

theorem Machine.nodesOf_parts (states : List (String × StateSpec)) :
    nodesOf (states.map fun p ↦ (.text p.1, .parts (p.2.parts scope))) =
      .ok (states.map fun p ↦ (Value.text p.1, p.2.reading scope)) := by
  induction states with
  | nil => rfl
  | cons p rest ih =>
    have hnode : Node.ofSource (.parts (p.2.parts scope)) = .ok (p.2.reading scope) := p.2.ofParts_parts scope
    rw [List.map_cons, nodesOf, hnode, ih]
    rfl

end

theorem Machine.nodesOf_built (nodes : List (Value × Node σ)) :
    nodesOf (nodes.map fun p ↦ (p.1, .built p.2)) = .ok nodes := by
  induction nodes with
  | nil => rfl
  | cons p rest ih =>
    rw [List.map_cons, nodesOf, ih]
    rfl

/-! ### Closed sets of events -/

/-- Keys of which none is the same as an earlier one. -/
def Distinct (keys : List Value) : Prop := keys.Pairwise fun k v ↦ k.alike v = false

/-- Gathers what is not the same as anything seen before. -/
def gather (seen : List Value) (v : Value) : List Value :=
  if seen.any fun k ↦ k.alike v then seen else seen ++ [v]

theorem distinct_gather {seen : List Value} (h : Distinct seen) (v : Value) : Distinct (gather seen v) := by
  unfold gather
  split
  · exact h
  · next hnew =>
    simp only [List.any_eq_true, not_exists, not_and, Bool.not_eq_true] at hnew
    exact List.pairwise_append.mpr ⟨h, by simp, by simpa using hnew⟩

theorem distinct_foldl {seen : List Value} (h : Distinct seen) (vs : List Value) : Distinct (vs.foldl gather seen) := by
  induction vs generalizing seen with
  | nil => exact h
  | cons v rest ih => exact ih (distinct_gather h v)

theorem foldl_gather_subset (seen vs : List Value) : ∀ v ∈ vs.foldl gather seen, v ∈ seen ++ vs := by
  induction vs generalizing seen with
  | nil => simp
  | cons v rest ih =>
    intro k hk
    have hmem := ih (gather seen v) k hk
    unfold gather at hmem
    split at hmem <;> grind

/-- What is distinct is gathered as it is. -/
theorem foldl_gather_of_distinct {seen vs : List Value} (h : Distinct (seen ++ vs)) :
    vs.foldl gather seen = seen ++ vs := by
  induction vs generalizing seen with
  | nil => simp
  | cons v rest ih =>
    have hnew : gather seen v = seen ++ [v] := by
      unfold gather
      rw [if_neg]
      simp only [List.any_eq_true, not_exists, not_and, Bool.not_eq_true]
      exact fun k hk ↦ (List.pairwise_append.mp h).2.2 k hk v (by simp)
    rw [List.foldl_cons, hnew, ih (by simpa using h)]
    simp

theorem distinctKeys_idem {vs keys : List Value} (h : distinctKeys vs = .ok keys) : distinctKeys keys = .ok keys := by
  unfold distinctKeys at h
  split at h
  · next hkeys =>
    cases h
    have hsubset : ∀ v ∈ vs.foldl gather [], v ∈ vs := foldl_gather_subset [] vs
    have hall : (vs.foldl gather []).all Value.isKey = true :=
      List.all_eq_true.mpr fun v hv ↦ List.all_eq_true.mp hkeys v (hsubset v hv)
    unfold distinctKeys
    have hdistinct : Distinct ([] ++ vs.foldl gather []) := distinct_foldl .nil vs
    have hsame : (vs.foldl gather []).foldl gather [] = vs.foldl gather [] := foldl_gather_of_distinct hdistinct
    exact (if_pos hall).trans (congrArg Except.ok hsame)
  · cases h

/-- A set of kinds, given back as a value, stands for itself. -/
theorem eventSet_idem {v : Value} {kinds : List Value} (h : eventSet v = .ok (some kinds)) :
    eventSet (.set kinds) = .ok (some kinds) := by
  have hkinds : distinctKeys kinds = .ok kinds := by
    unfold eventSet at h
    split at h
    · cases h
    · obtain ⟨items, -, h⟩ := ok_of_bind h
      obtain ⟨keys, hkeys, h⟩ := ok_of_bind h
      cases h
      exact distinctKeys_idem hkeys
  change (do return some (← distinctKeys kinds)) = _
  rw [hkinds]
  rfl

namespace Manifest

variable (scope : Scope σ) (m : Manifest) (name : String)

/-- The machine that is described, if it passes the check. -/
def accept : Outcome (Machine σ) := do
  let events ← eventSet m.kinds
  let machine : Machine σ := ⟨.text m.spec.initial, m.nodes scope, .ofFields m.spec.context, events, .text name⟩
  machine.check
  return machine

theorem ofDescription_described : Machine.ofDescription (m.described scope name) = m.accept scope name := by
  have hparts (context events : Value) :
      Machine.ofParts (.text m.spec.initial)
          (.entries (m.spec.states.map fun p ↦ (.text p.1, .parts (p.2.parts scope)))) context events (.text name) =
        (do
          let events ← eventSet events
          let machine : Machine σ := ⟨.text m.spec.initial, m.nodes scope, context, events, .text name⟩
          machine.check
          return machine) := by
    simp only [Machine.ofParts, Machine.nodesOf_parts]
    rfl
  cases hevents : eventSet m.kinds with
  | error f =>
    simp only [Machine.ofDescription, described, accept, Option.getD_some, hevents]
    rfl
  | ok events =>
    simp only [Machine.ofDescription, described, accept, Option.getD_some, hevents, Value.ofFields, ok_bind]
    rw [hparts]
    cases events with
    | none => rfl
    | some kinds =>
      dsimp only
      rw [eventSet_idem hevents]
      rfl

variable {scope m} (hregistry : ∀ p ∈ scope.registry, p.2.isCallable = true)

include hregistry

/-- To build a document is to resolve its references in their order, and then to build its description. -/
theorem build_eq (hguards : m.NamesGuards) :
    m.build scope = (do
      scope.resolveAll m.references
      Machine.ofDescription (m.described scope (← m.name))) := by
  have hnodes := yields_nodes hregistry hguards
  unfold Scope.Yields at hnodes
  have hbuilt (name : String) :
      Machine.ofParts (.text m.spec.initial) (.entries ((m.nodes scope).map fun p ↦ (p.1, .built p.2)))
        (.ofFields m.spec.context) m.kinds (.text name) = m.accept scope name := by
    simp only [Machine.ofParts, Machine.nodesOf_built]
    rfl
  simp only [ofDescription_described, ← hbuilt]
  unfold build
  rw [hnodes, bind_assoc]
  simp only [pure_bind]
  rfl

end Manifest

/-! ### Documents read directly -/

/-- What the actions of a document make of a context, with the effects that are left to perform, in order. -/
def ActionSpec.follow (scope : Scope σ) (event : Event) :
    List ActionSpec → Value → Outcome (Value × List (Effect σ))
  | [], context => .ok (context, [])
  | a :: rest, context =>
    match a.assign, a.assignValues, a.effect with
    | some reference, _, _ => do
      let assignment ← scope.resolve reference
      follow scope event rest (← assignment.apply context event)
    | none, some values, _ => do follow scope event rest (← Action.overlay values context)
    | none, none, some reference => do
      let effect ← scope.resolve reference
      let (context, effects) ← follow scope event rest context
      return (context, ⟨Action.effectKind a.kind effect, effect⟩ :: effects)
    | none, none, none => do
      let (context, effects) ← follow scope event rest context
      return (context,
        Action.effects [.ofLog (writtenLine (a.log.getD "")) .library a.level (lineKind a.kind)] ++ effects)

/-- Whether the guard of a document lets an event pass. -/
def TransitionSpec.passes (scope : Scope σ) (t : TransitionSpec) (context : Value) (event : Event) : Outcome Bool :=
  match t.guard with
  | none => .ok true
  | some reference => do
    let guard ← scope.resolve reference
    return (← guard.apply context event).isTruthy

/-- The transition of a state of a document for a kind of event. -/
def StateSpec.reaction? (s : StateSpec) (kind : Value) : Option TransitionSpec :=
  (s.on.find? fun p ↦ (Value.text p.1).alike kind).map (·.2)

namespace Manifest

/-- The state of a document that a value stands for. -/
def state (m : Manifest) (value : Value) : Outcome StateSpec :=
  match m.spec.states.find? fun p ↦ (Value.text p.1).alike value with
  | some p => .ok p.2
  | none => .error (.undeclared value (m.spec.states.map fun p ↦ .text p.1))

/-- What follows a state according to a document: the actions of the exit, of the transition and of the entry are
followed if the guard lets the event pass. -/
def follow (scope : Scope σ) (m : Manifest) (s : State σ) (event : Event) : Outcome (State σ) := do
  let source ← m.state s.value
  if event.kind.isKey then
    match source.reaction? event.kind with
    | none => return { value := s.value, context := s.context }
    | some t =>
      if ← t.passes scope s.context event then
        let value := (t.target.map .text).getD s.value
        let target ← m.state value
        let (context, effects) ← ActionSpec.follow scope event (source.exit ++ t.actions ++ target.entry) s.context
        return { value := value, context := context, actions := effects, changed := true }
      else return { value := s.value, context := s.context }
  else throw .wrongType

end Manifest

section

variable {scope : Scope σ}

theorem ActionSpec.partition_eq_follow {actions : List ActionSpec}
    (h : ∀ reference ∈ actions.flatMap references, scope.Resolves reference) (event : Event) (context : Value) :
    Action.partition context event (actions.map (reading scope)) = follow scope event actions context := by
  induction actions generalizing context with
  | nil => rfl
  | cons a rest ih =>
    rw [List.flatMap_cons, List.forall_mem_append] at h
    obtain ⟨ha, hrest⟩ := h
    have ih := ih hrest
    unfold references at ha
    -- one case for each kind of action
    cases hassign : a.assign with
    | some reference =>
      rw [hassign] at ha
      obtain ⟨c, hc⟩ := ha reference (by simp)
      have hreading : a.reading scope = .assign c := by simp only [reading, hassign, Scope.callee_eq hc]
      simp only [List.map_cons, hreading, follow, hassign, hc, ok_bind, Action.partition, ih]
    | none =>
      cases hvalues : a.assignValues with
      | some values =>
        have hreading : a.reading scope = .ofValues values := by simp only [reading, hassign, hvalues]
        simp only [List.map_cons, hreading, follow, hassign, hvalues, Action.ofValues, Action.partition, Callee.apply,
          ih]
      | none =>
        cases heffect : a.effect with
        | some reference =>
          rw [hassign, hvalues, heffect] at ha
          obtain ⟨c, hc⟩ := ha reference (by simp)
          have hreading : a.reading scope = .ofEffect a.kind c := by
            simp only [reading, hassign, hvalues, heffect, Scope.callee_eq hc]
          simp only [List.map_cons, hreading, follow, hassign, hvalues, heffect, hc, ok_bind, Action.ofEffect,
            Action.partition, ih]
        | none =>
          have hreading : a.reading scope =
              .ofLog (writtenLine (a.log.getD "")) .library a.level (lineKind a.kind) := by
            simp only [reading, hassign, hvalues, heffect]
          simp only [List.map_cons, hreading, follow, hassign, hvalues, heffect, Action.ofLog, Action.partition, ih]
          rfl

theorem TransitionSpec.allows_eq_passes {t : TransitionSpec}
    (h : ∀ reference ∈ t.references, scope.Resolves reference) (context : Value) (event : Event) :
    (t.reading scope).allows context event = t.passes scope context event := by
  unfold Transition.allows passes reading
  cases hguard : t.guard with
  | none => rfl
  | some reference =>
    obtain ⟨c, hc⟩ := h reference (by simp [references, hguard])
    simp only [Option.map_some, Scope.callee_eq hc, hc, ok_bind]
    cases c.apply context event <;> rfl

/-- Looking up a text among entries that were made one by one. -/
theorem Entries.find?_map {α β : Type} (entries : List (String × α)) (f : α → β) (key : Value) :
    Entries.find? (entries.map fun p ↦ (Value.text p.1, f p.2)) key =
      (entries.find? fun p ↦ (Value.text p.1).alike key).map fun p ↦ f p.2 := by
  simp only [Entries.find?, List.find?_map, Option.map_map]
  rfl

/-- The references of the actions that are followed on the way from one state to another. -/
theorem StateSpec.resolves_way {source target : StateSpec} {t : TransitionSpec}
    (hsource : ∀ reference ∈ source.references, scope.Resolves reference)
    (ht : ∀ reference ∈ t.references, scope.Resolves reference)
    (htarget : ∀ reference ∈ target.references, scope.Resolves reference) :
    ∀ reference ∈ (source.exit ++ t.actions ++ target.entry).flatMap ActionSpec.references,
      scope.Resolves reference := by
  intro reference h
  rw [List.flatMap_append, List.flatMap_append, List.mem_append, List.mem_append] at h
  rcases h with (hexit | htransition) | hentry
  · exact hsource reference (by simp [references, hexit])
  · exact ht reference (List.mem_append_right _ htransition)
  · exact htarget reference (by simp [references, hentry])

variable {m : Manifest} {machine : Machine σ}

theorem Manifest.node_eq (hstates : machine.states = m.nodes scope) (value : Value) :
    machine.node value = (do return (← m.state value).reading scope) := by
  unfold Machine.node state
  rw [hstates, nodes, Entries.find?_map]
  cases hfound : m.spec.states.find? fun p ↦ (Value.text p.1).alike value with
  | some p => rfl
  | none =>
    simp only [Entries.keys, List.map_map]
    rfl

theorem Manifest.state_mem {value : Value} {s : StateSpec} (h : m.state value = .ok s) :
    ∃ p ∈ m.spec.states, p.2 = s := by
  unfold state at h
  split at h
  · next p hfound =>
    cases h
    exact ⟨p, List.mem_of_find?_eq_some hfound, rfl⟩
  · cases h

/-- A machine with the nodes of a document follows the document. -/
theorem Manifest.transition_eq_follow (hstates : machine.states = m.nodes scope)
    (hresolves : ∀ reference ∈ m.references, scope.Resolves reference) (s : State σ) (event : Event) :
    machine.transition s event = m.follow scope s event := by
  have hstate {value : Value} {found : StateSpec} (h : m.state value = .ok found) :
      ∀ reference ∈ found.references, scope.Resolves reference := by
    obtain ⟨p, hp, rfl⟩ := state_mem h
    exact fun reference hmem ↦ hresolves reference (List.mem_flatMap.mpr ⟨p, hp, hmem⟩)
  unfold Machine.transition follow
  rw [node_eq hstates]
  cases hsource : m.state s.value with
  | error f => rfl
  | ok source =>
    simp only [ok_bind, pure_bind]
    unfold Machine.reaction StateSpec.reaction?
    by_cases hkey : event.kind.isKey = true
    · simp only [hkey, if_true, ok_bind, StateSpec.reading, Entries.find?_map]
      cases hfound : source.on.find? fun p ↦ (Value.text p.1).alike event.kind with
      | none => rfl
      | some p =>
        have hmem := List.mem_of_find?_eq_some hfound
        have ht (reference : String) (h : reference ∈ p.2.references) : scope.Resolves reference :=
          hstate hsource reference (List.mem_append_left _ (List.mem_flatMap.mpr ⟨p, hmem, h⟩))
        simp only [Option.map_some, TransitionSpec.allows_eq_passes ht]
        cases p.2.passes scope s.context event with
        | error f => rfl
        | ok passes =>
          cases passes with
          | false => rfl
          | true =>
            simp only [ok_bind, if_true, TransitionSpec.reading, node_eq hstates]
            cases htarget : m.state ((p.2.target.map .text).getD s.value) with
            | error f => rfl
            | ok target =>
              have hactions := StateSpec.resolves_way (hstate hsource) ht (hstate htarget)
              simp only [ok_bind, pure_bind, StateSpec.reading, ← List.map_append,
                ActionSpec.partition_eq_follow hactions]
    · simp only [hkey]
      rfl

end

/-! ### What is built -/

/-- A machine as it is described by a document: entry by entry the same, and following the document at every event. -/
structure Manifest.Describes (scope : Scope σ) (m : Manifest) (name : String) (machine : Machine σ) : Prop where
  described : Machine.ofDescription (m.described scope name) = .ok machine
  initial : machine.initial = .text m.spec.initial
  states : machine.states = m.nodes scope
  context : machine.context = .ofFields m.spec.context
  events : eventSet m.kinds = .ok machine.events
  name : machine.name = .text name
  follows : ∀ s event, machine.transition s event = m.follow scope s event

section

variable {scope : Scope σ} {m : Manifest} {name : String}

theorem Manifest.describes_of_ofDescription (hresolves : ∀ reference ∈ m.references, scope.Resolves reference)
    {machine : Machine σ} (h : Machine.ofDescription (m.described scope name) = .ok machine) :
    m.Describes scope name machine := by
  have haccept := h
  rw [ofDescription_described] at haccept
  obtain ⟨events, hevents, haccept⟩ := ok_of_bind haccept
  obtain ⟨_, -, haccept⟩ := ok_of_bind haccept
  cases haccept
  exact ⟨h, rfl, rfl, rfl, hevents, rfl, transition_eq_follow rfl hresolves⟩

/-- A document is built into the machine that it describes. Assumes: a registry of callables, any modules, a document
without empty references for guards, whose name can be written. Then the building succeeds if and only if all
references name something and the description of the machine, with every reference replaced by what it names, passes
its checks; the result is that of the description, and follows the document at every state and event. Of several
references that fail, the first decides: in the order of the states, for each its transitions, the guard before the
actions, then its entry, then its exit. -/
theorem built_as_described (hregistry : ∀ p ∈ scope.registry, p.2.isCallable = true) (hguards : m.NamesGuards)
    (hname : m.name = .ok name) :
    ((∃ machine, m.build scope = .ok machine) ↔ (∀ reference ∈ m.references, scope.Resolves reference) ∧
      ∃ machine, Machine.ofDescription (m.described scope name) = .ok machine) ∧
    ((∀ reference ∈ m.references, scope.Resolves reference) →
      m.build scope = Machine.ofDescription (m.described scope name)) ∧
    (∀ machine, m.build scope = .ok machine → m.Describes scope name machine) ∧
    ∀ before reference after f, m.references = before ++ reference :: after →
      (∀ earlier ∈ before, scope.Resolves earlier) → scope.resolve reference = .error f → m.build scope = .error f := by
  have hbuild := Manifest.build_eq hregistry hguards
  rw [hname] at hbuild
  have hdescribed (h : ∀ reference ∈ m.references, scope.Resolves reference) :
      m.build scope = Machine.ofDescription (m.described scope name) := by
    rw [hbuild, Scope.resolveAll_eq_ok.mpr h]
    rfl
  have hresolves {machine : Machine σ} (h : m.build scope = .ok machine) :
      ∀ reference ∈ m.references, scope.Resolves reference := by
    rw [hbuild] at h
    obtain ⟨_, hall, -⟩ := ok_of_bind h
    exact Scope.resolveAll_eq_ok.mp hall
  refine ⟨⟨?_, ?_⟩, hdescribed, fun machine h ↦ ?_, fun before reference after f hsplit hbefore hfails ↦ ?_⟩
  · rintro ⟨machine, h⟩
    exact ⟨hresolves h, machine, (hdescribed (hresolves h)).symm.trans h⟩
  · rintro ⟨h, machine, hmachine⟩
    exact ⟨machine, (hdescribed h).trans hmachine⟩
  · exact Manifest.describes_of_ofDescription (hresolves h) ((hdescribed (hresolves h)).symm.trans h)
  · rw [hbuild, hsplit, Scope.resolveAll_of_fails hbefore hfails]
    rfl

end

/-- A toggle whose flips are counted while a guard lets them pass. -/
def toggle : Manifest where
  metadata := [("name", .text "toggle")]
  spec :=
    { initial := "OFF"
      context := [("count", .int 0)]
      events := some ["FLIP"]
      states := [
        ("OFF", { on := [("FLIP", { target := some "ON", guard := some "powered"
                                    actions := [{ assign := some "count" }] })] }),
        ("ON", { entry := [{ effect := some "lamps.shine", kind := some "light" }, { log := some "on" }],
                 on := [("FLIP", { target := some "OFF" })] })] }

/-- The callables of the toggle: two are registered, one stands in a module. -/
def toggleScope : Scope Unit where
  registry := [("powered", .function none fun _ _ ↦ .ok (.bool true)),
    ("count", .function none fun _ _ ↦ .ok (.ofFields [("count", .int 1)]))]
  modules := [("lamps", .attributes [("shine", .function (some "shine") shines)])]

theorem toggleScope_callable : ∀ p ∈ toggleScope.registry, p.2.isCallable = true := by
  simp [toggleScope, Callee.isCallable]

theorem toggle_names_guards : toggle.NamesGuards := by
  simp [Manifest.NamesGuards, toggle]

theorem toggle_resolves : ∀ reference ∈ toggle.references, toggleScope.Resolves reference := by
  have hreferences : toggle.references = ["powered", "count", "lamps.shine"] := rfl
  have hshine : toggleScope.resolve "lamps.shine" = .ok (.function (some "shine") shines) := by
    have hsplit : Scope.splitAtLastDot "lamps.shine".toList = some ("lamps".toList, "shine".toList) := rfl
    rw [Scope.resolve_of_split rfl hsplit, Scope.resolveIn, if_neg (by decide), if_neg (by simp)]
    rfl
  rw [hreferences]
  simp only [List.forall_mem_cons]
  exact ⟨⟨_, rfl⟩, ⟨_, rfl⟩, ⟨_, hshine⟩, by simp⟩

/-- The toggle is built, and flips as it is described. -/
theorem built_as_described_of_toggle :
    ∃ machine, toggle.build toggleScope = .ok machine ∧ toggle.Describes toggleScope "toggle" machine := by
  have hname : toggle.name = .ok "toggle" := rfl
  obtain ⟨hsucceeds, -, hdescribes, -⟩ := built_as_described toggleScope_callable toggle_names_guards hname
  obtain ⟨machine, hmachine⟩ := hsucceeds.mpr ⟨toggle_resolves, _, rfl⟩
  exact ⟨machine, hmachine, hdescribes machine hmachine⟩

/-- An integer with more digits than are written. -/
def longNumber : Value := .int (.ofNat (Nat.pow 10 Numeral.digitLimit))

/-- The toggle under a name that cannot be written. -/
def unnamed : Manifest := { toggle with metadata := [("name", longNumber)] }

theorem longNumber_not_writable : longNumber.isWritable = false := by
  have hlong : longNumber.isTooLong = true := by
    rw [longNumber, Value.isTooLong, Int.natAbs_ofNat']
    exact decide_eq_true (Nat.le_refl _)
  rw [longNumber, Value.isWritable_int, ← longNumber, hlong]
  rfl

/-- Under a name that cannot be written a document is not built, though all its references name something and its
description passes the checks. -/
theorem unnamed_not_built :
    unnamed.NamesGuards ∧ (∀ reference ∈ unnamed.references, toggleScope.Resolves reference) ∧
      (∀ name, ∃ machine, Machine.ofDescription (unnamed.described toggleScope name) = .ok machine) ∧
      unnamed.build toggleScope = .error .badValue := by
  have hname : unnamed.name = .error .badValue := by
    have hlookup : (unnamed.metadata.lookup "name").getD (.text "machine") = longNumber := rfl
    rw [Manifest.name, hlookup, Value.shown?, longNumber_not_writable]
    rfl
  have hguards : unnamed.NamesGuards := toggle_names_guards
  have hresolves : ∀ reference ∈ unnamed.references, toggleScope.Resolves reference := toggle_resolves
  refine ⟨hguards, hresolves, fun name ↦ ⟨_, rfl⟩, ?_⟩
  rw [Manifest.build_eq toggleScope_callable hguards, Scope.resolveAll_eq_ok.mpr hresolves, hname]
  rfl

end Statechart
