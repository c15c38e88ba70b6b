import Statechart.Machine.Build
import Statechart.Proofs.Compilation

/-!
# What a description of a machine violates

`violations` lists what is wrong with a description, in order: first what keeps its nodes from being brought into one
form, state by state, then that there is no state, then the first state, then the references of the transitions, state
by state, the event of each before its target. The building of a machine goes through the same list and stops at its
first item (`StopsAt`), which it names by field and value (`Violation.failure`). So a machine is built of exactly the
descriptions in which nothing is wrong (`Machine.built_unless_violated`).
-/

set_option autoImplicit false
set_option relaxedAutoImplicit false

namespace Statechart

variable {σ : Type}

/-! ### Violations -/

/-- Something that is wrong with a description. -/
inductive Violation where
  /-- An entry of a list of actions that is no action and cannot be called. -/
  | action (entry : Value)
  /-- What stands for a transition and is neither finished, nor parts of one, nor the text of a target. -/
  | transition (source : Value)
  /-- What stands for a node and is neither finished nor parts of one. -/
  | node (source : Value)
  | noStates
  | initial (value : Value) (declared : List Value)
  /-- A transition whose event is none of the closed set. -/
  | unlisted (state event : Value) (kinds : List Value)
  /-- A transition whose target is not declared. -/
  | undeclared (state event target : Value)

namespace Violation

/-- The part of the description that is named. -/
def field : Violation → String
  | .action _ => "actions"
  | .transition _ | .unlisted _ _ _ => "on"
  | .node _ | .noStates => "states"
  | .initial _ _ => "initial"
  | .undeclared _ _ _ => "target"

/-- The value that is named. -/
def value : Violation → Value
  | .action v | .transition v | .node v | .initial v _ | .unlisted _ v _ | .undeclared _ _ v => v
  | .noStates => .null

/-- The rule that is broken, if the values in its text can be written. -/
def constraint : Violation → Outcome String
  | .action _ => .ok "entries must be actions or callables"
  | .transition _ => .ok "transitions must be TransitionDefinition or mappings"
  | .node _ => .ok "state nodes must be StateNode or mappings"
  | .noStates => .ok "at least one state is required"
  | .initial _ declared => do return "not in states: " ++ (← sortedLiteral declared)
  | .unlisted state _ kinds => do
    return "event of state " ++ (← state.literal?) ++ " not in events: " ++ (← sortedLiteral kinds)
  | .undeclared state event _ => do
    return "transition " ++ (← state.literal?) ++ " --" ++ (← event.shown?) ++ "--> is not a declared state"

/-- The values that are shown. -/
def shown (v : Violation) : List Value :=
  v.value :: match v with
    | .initial _ declared => declared
    | .unlisted state _ kinds => state :: kinds
    | .undeclared state event _ => [state, event]
    | _ => []

/-- The failure that names field and value; it is a bad value where one of those shown cannot be written. -/
def failure (v : Violation) : Failure :=
  match v.constraint with
  | .ok text => .refusing v.field text v.value
  | .error f => f

end Violation

/-! ### What stops at a violation -/

/-- A computation that stops at the first of some violations, and comes to a result if there is none. -/
def StopsAt {α : Type} (x : Outcome α) : List Violation → Prop
  | [] => ∃ a, x = .ok a
  | v :: _ => x = .error v.failure

namespace StopsAt

variable {α β : Type} {x : Outcome α} {vs ws : List Violation}

theorem ok (a : α) : StopsAt (.ok a : Outcome α) [] := ⟨a, rfl⟩

theorem error (v : Violation) : StopsAt (.error v.failure : Outcome α) [v] := rfl

/-- What fails has met the first violation. -/
theorem first (h : StopsAt x vs) {f : Failure} (hx : x = .error f) : ∃ v rest, vs = v :: rest ∧ f = v.failure := by
  cases vs with
  | nil =>
    obtain ⟨a, ha⟩ := h
    cases hx.symm.trans ha
  | cons v rest => exact ⟨v, rest, rfl, Except.error.inj (hx.symm.trans h)⟩

theorem bind {f : α → Outcome β} (hx : StopsAt x vs) (hf : ∀ a, x = .ok a → StopsAt (f a) ws) :
    StopsAt (x >>= f) (vs ++ ws) := by
  cases vs with
  | nil =>
    obtain ⟨a, rfl⟩ := hx
    exact hf a rfl
  | cons v rest =>
    have hx : x = .error v.failure := hx
    rw [hx]
    rfl

theorem map (hx : StopsAt x vs) (f : α → β) : StopsAt (do return f (← x)) vs := by
  have hmapped := hx.bind fun a _ ↦ StopsAt.ok (f a)
  rwa [List.append_nil] at hmapped

theorem mapM {γ : Type} {xs : List γ} {f : γ → Outcome α} {g : γ → List Violation}
    (h : ∀ x ∈ xs, StopsAt (f x) (g x)) : StopsAt (xs.mapM f) (xs.flatMap g) := by
  induction xs with
  | nil => exact .ok []
  | cons x xs ih =>
    obtain ⟨hx, hxs⟩ := List.forall_mem_cons.mp h
    rw [List.mapM_cons, List.flatMap_cons]
    exact hx.bind fun a _ ↦ (ih hxs).map (a :: ·)

theorem forM {γ : Type} {xs : List γ} {f : γ → Outcome Unit} {g : γ → List Violation}
    (h : ∀ x ∈ xs, StopsAt (f x) (g x)) : StopsAt (xs.forM f) (xs.flatMap g) := by
  induction xs with
  | nil => exact .ok ()
  | cons x xs ih =>
    obtain ⟨hx, hxs⟩ := List.forall_mem_cons.mp h
    rw [List.flatMap_cons]
    exact hx.bind fun _ _ ↦ ih hxs

end StopsAt

/-! ### The parts of a description -/

/-- What is wrong with an entry of a list of actions. -/
def Candidate.violations : Candidate σ → List Violation
  | .callable (.inert v) => [.action v]
  | .callable _ | .action _ => []

theorem Candidate.violations_eq_nil {c : Candidate σ} : c.violations = [] ↔ ∀ v, c ≠ .callable (.inert v) := by
  cases c with
  | action a => simp [violations]
  | callable c => cases c <;> simp [violations]

namespace ActionList

/-- The entries of a list of actions; what counts as false has none. -/
def entries : ActionList σ → List (Candidate σ)
  | .items candidates => candidates
  | .value v => if v.isTruthy then (v.items.toOption.getD []).map .ofValue else []

/-- What stands there gives its entries one by one, or counts as false. -/
def IsList : ActionList σ → Prop
  | .items _ => True
  | .value v => v.isTruthy = true → ∃ vs, v.items = .ok vs

theorem stopsAt_toActions {l : ActionList σ} (h : l.IsList) :
    StopsAt l.toActions (l.entries.flatMap Candidate.violations) := by
  have hcandidate (c : Candidate σ) : StopsAt c.toAction c.violations := by
    cases c with
    | action a => exact .ok a
    | callable c =>
      cases c with
      | inert v => exact .error (.action v)
      | function | effect => exact .ok _
  cases l with
  | items candidates => exact .mapM fun c _ ↦ hcandidate c
  | value v =>
    by_cases htrue : v.isTruthy = true
    · obtain ⟨vs, hvs⟩ := h htrue
      simp only [toActions, entries, htrue, if_true, hvs, Except.toOption, Option.getD_some, List.flatMap_map]
      exact .mapM fun x _ ↦ hcandidate (.ofValue x)
    · simp only [toActions, entries, htrue]
      exact .ok []

end ActionList

namespace TransitionSource

/-- The entries of the actions of a transition that is written as parts. -/
def candidates : TransitionSource σ → List (Candidate σ)
  | .parts p => p.actions.entries
  | .built _ | .value _ => []

/-- What is wrong with a transition by itself. -/
def violations : TransitionSource σ → List Violation
  | .built _ => []
  | .parts p => p.actions.entries.flatMap Candidate.violations
  | .value v => if v.asText?.isSome then [] else [.transition v]

/-- The target that a transition refers to, none for the current state. -/
def target : TransitionSource σ → Option Value
  | .built t => t.target
  | .parts p => Transition.targetOf p.target
  | .value v => some v

/-- The actions of parts are a list. -/
def IsShaped : TransitionSource σ → Prop
  | .parts p => p.actions.IsList
  | .built _ | .value _ => True

theorem stopsAt_ofSource {t : TransitionSource σ} (h : t.IsShaped) : StopsAt (Transition.ofSource t) t.violations := by
  cases t with
  | built t => exact .ok t
  | parts p => exact (ActionList.stopsAt_toActions h).map (Transition.mk (Transition.targetOf p.target) p.guard)
  | value v =>
    simp only [Transition.ofSource, violations]
    cases v.asText? with
    | some text => exact .ok _
    | none => exact .error (.transition v)

theorem violations_eq_nil {t : TransitionSource σ} :
    t.violations = [] ↔ (∀ v, t = .value v → ∃ text, v.asText? = some text) ∧
      ∀ c ∈ t.candidates, ∀ v, c ≠ .callable (.inert v) := by
  cases t with
  | built t => simp [violations, candidates]
  | parts p => simp [violations, candidates, Candidate.violations_eq_nil]
  | value v => simp [violations, candidates, Option.isSome_iff_exists]

end TransitionSource

/-- The transitions of a table of them; what counts as false has none. -/
def OnSource.table : OnSource σ → List (Value × TransitionSource σ)
  | .entries es => es
  | .value _ => []

/-- The events and targets of a list of transitions. -/
def Node.references (n : Node σ) : List (Value × Option Value) := n.on.map fun p ↦ (p.1, p.2.target)

namespace NodeSource

/-- The transitions of a node that is written as parts. -/
def transitions : NodeSource σ → List (Value × TransitionSource σ)
  | .parts p => p.on.table
  | .built _ | .value _ => []

/-- The entries of all lists of actions of a node that is written as parts. -/
def candidates : NodeSource σ → List (Candidate σ)
  | .parts p => p.on.table.flatMap (·.2.candidates) ++ (p.entry.entries ++ p.exit.entries)
  | .built _ | .value _ => []

/-- The events and targets of the transitions of a node. -/
def references : NodeSource σ → List (Value × Option Value)
  | .built n => n.references
  | .parts p => p.on.table.map fun q ↦ (q.1, q.2.target)
  | .value _ => []

/-- What is wrong with a node by itself: with its transitions, with its entry, with its exit. -/
def violations : NodeSource σ → List Violation
  | .built _ => []
  | .parts p => p.on.table.flatMap (·.2.violations) ++
      (p.entry.entries.flatMap Candidate.violations ++ p.exit.entries.flatMap Candidate.violations)
  | .value v => [.node v]

/-- A table of transitions and lists of actions stand where they are expected, or what counts as false. -/
def IsShaped : NodeSource σ → Prop
  | .parts p => (∀ v, p.on = .value v → v.isTruthy = false) ∧ (∀ t ∈ p.on.table, t.2.IsShaped) ∧
      p.entry.IsList ∧ p.exit.IsList
  | .built _ | .value _ => True

theorem stopsAt_transitionsOf {es : List (Value × TransitionSource σ)} (h : ∀ t ∈ es, t.2.IsShaped) :
    StopsAt (Node.transitionsOf es) (es.flatMap (·.2.violations)) := by
  induction es with
  | nil => exact .ok []
  | cons e rest ih =>
    obtain ⟨he, hrest⟩ := List.forall_mem_cons.mp h
    exact (TransitionSource.stopsAt_ofSource he).bind fun t _ ↦ (ih hrest).map ((e.1, t) :: ·)

/-- What is false in the place of a table of transitions stands for an empty one. -/
theorem ofTable_eq {p : NodeParts σ} (h : ∀ v, p.on = .value v → v.isTruthy = false) :
    Node.ofTable p = Node.ofParts { p with on := .entries p.on.table } := by
  obtain ⟨on, entry, exit⟩ := p
  cases on with
  | entries es => rfl
  | value v => simp [Node.ofTable, OnSource.table, h v rfl]

theorem stopsAt_ofSource {n : NodeSource σ} (h : n.IsShaped) : StopsAt (Node.ofSource n) n.violations := by
  cases n with
  | built n => exact .ok n
  | value v => exact .error (.node v)
  | parts p =>
    obtain ⟨hon, htransitions, hentry, hexit⟩ := h
    change StopsAt (Node.ofTable p) _
    rw [ofTable_eq hon]
    exact (stopsAt_transitionsOf htransitions).bind fun on _ ↦
      (ActionList.stopsAt_toActions hentry).bind fun entry _ ↦
        (ActionList.stopsAt_toActions hexit).map (Node.mk on entry)

theorem violations_eq_nil {n : NodeSource σ} :
    n.violations = [] ↔ (∀ v, n ≠ .value v) ∧
      (∀ t ∈ n.transitions, ∀ v, t.2 = .value v → ∃ text, v.asText? = some text) ∧
      ∀ c ∈ n.candidates, ∀ v, c ≠ .callable (.inert v) := by
  cases n with
  | built n => simp [violations, transitions, candidates]
  | value v => simp [violations]
  | parts p =>
    simp only [violations, transitions, candidates, List.append_eq_nil_iff, List.flatMap_eq_nil_iff,
      Candidate.violations_eq_nil, TransitionSource.violations_eq_nil, List.mem_append, List.mem_flatMap]
    grind

end NodeSource

/-! ### The check of references -/

/-- What is wrong with the event of a transition, and then with its target. -/
def Violation.ofReference (declared : List Value) (kinds : Option (List Value)) (state : Value)
    (q : Value × Option Value) : List Violation :=
  (match kinds with
    | none => []
    | some kinds => if kinds.any fun k ↦ k.alike q.1 then [] else [.unlisted state q.1 kinds]) ++
  (match q.2 with
    | none => []
    | some target => if declared.any fun k ↦ k.alike target then [] else [.undeclared state q.1 target])

/-- What is wrong between states that are told by their transitions' events and targets: that there is none, that the
first state is none of them, and what is wrong with the transitions of each. -/
def Violation.between (initial : Value) (kinds : Option (List Value))
    (states : List (Value × List (Value × Option Value))) : List Violation :=
  (if states.isEmpty then [.noStates] else []) ++
    ((if (Entries.keys states).any fun k ↦ k.alike initial then [] else [.initial initial (Entries.keys states)]) ++
      states.flatMap fun s ↦ s.2.flatMap (ofReference (Entries.keys states) kinds s.1))

/-- The states of a description, told by the events and targets of their transitions. -/
def references (states : List (Value × NodeSource σ)) : List (Value × List (Value × Option Value)) :=
  states.map fun s ↦ (s.1, s.2.references)

/-- All that is wrong with a description: with its nodes by themselves, then between its states. -/
def violations (initial : Value) (states : List (Value × NodeSource σ)) (kinds : Option (List Value)) :
    List Violation :=
  states.flatMap (·.2.violations) ++ Violation.between initial kinds (references states)

namespace Machine

section

/-! A text fails with the first of its parts that cannot be written, and nothing is done after it. -/

variable (rest : Unit → Outcome Unit)

end

/-- The states of a machine, told by the events and targets of their transitions. -/
def references (m : Machine σ) : List (Value × List (Value × Option Value)) :=
  m.states.map fun p ↦ (p.1, p.2.references)

/-- The states of a description with what stands where a value, a list or a table is expected: a first state and
targets that can be keys, and a closed set of events, if there is one, gathered of values that can be keys. -/
structure IsShaped (initial : Value) (states : List (Value × NodeSource σ)) (events : Value)
    (kinds : Option (List Value)) : Prop where
  nodes : ∀ s ∈ states, s.2.IsShaped
  initial : initial.isKey = true
  targets : ∀ s ∈ states, ∀ q ∈ s.2.references, ∀ target, q.2 = some target → target.isKey = true
  events : eventSet events = .ok kinds

/-- The ways to build a machine from a first state, its states and its events, with any context and name. -/
inductive Building (initial : Value) (states : List (Value × NodeSource σ)) (events : Value) :
    Outcome (Machine σ) → Prop
  | parts (context name : Value) : Building initial states events (ofParts initial (.entries states) context events name)
  | description {d : Description σ} (hinitial : d.initial = some initial) (hstates : d.states = some (.entries states))
      (hevents : d.events.getD .null = events) : Building initial states events (ofDescription d)

section

variable {initial events : Value} {states : List (Value × NodeSource σ)} {kinds : Option (List Value)}

end

end Machine

end Statechart
