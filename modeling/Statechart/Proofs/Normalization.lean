import Mathlib.Data.List.Forall2
import Statechart.Proofs.Violation

/-!
# Descriptions in other words

A description of a machine may say the same in several ways: an entry of a list of actions is a callable or the effect
made of it, a transition is the text of its target, the parts of a transition or a finished one, a state is the parts of
a node or a finished node. Descriptions that restate each other state by state, in any mixture of these ways, are built
into the same machine (`Machine.same_of_restated`). What is built says everything that the description said: building it
again gives it back.
-/

set_option autoImplicit false
set_option relaxedAutoImplicit false

namespace Statechart

variable {σ : Type}

/-! ### Ways to say the same -/

/-- Two entries of lists of actions say the same. -/
inductive Candidate.Restates : Candidate σ → Candidate σ → Prop
  | refl (c : Candidate σ) : Restates c c
  | symm {c c' : Candidate σ} (h : Restates c c') : Restates c' c
  /-- A callable becomes the effect that is made of it without a kind. -/
  | effect {c : Callee σ} (h : c.isCallable = true) : Restates (.callable c) (.action (.ofEffect none c))

/-- Two lists of actions say the same, entry by entry. -/
inductive ActionList.Restates : ActionList σ → ActionList σ → Prop
  | refl (l : ActionList σ) : Restates l l
  | items {candidates candidates' : List (Candidate σ)} (h : List.Forall₂ Candidate.Restates candidates candidates') :
    Restates (.items candidates) (.items candidates')
  /-- A value that is gone through gives the entries. -/
  | listed {v : Value} {xs : List Value} (htruthy : v.isTruthy = true) (h : v.items = .ok xs) :
    Restates (.value v) (.items (xs.map Candidate.ofValue))
  /-- What counts as false is an empty list. -/
  | nothing {v : Value} (h : v.isTruthy = false) : Restates (.value v) .empty

/-- Two transitions say the same. -/
inductive TransitionSource.Restates : TransitionSource σ → TransitionSource σ → Prop
  | refl (t : TransitionSource σ) : Restates t t
  | symm {t t' : TransitionSource σ} (h : Restates t t') : Restates t' t
  | trans {t t' t'' : TransitionSource σ} (h : Restates t t') (h' : Restates t' t'') : Restates t t''
  /-- A text is the target of a transition without other parts. -/
  | text {v : Value} {s : String} (h : v.asText? = some s) : Restates (.value v) (.parts { target := v })
  | parts {target : Value} {guard : Option (Callee σ)} {actions actions' : ActionList σ}
    (h : actions.Restates actions') : Restates (.parts ⟨target, guard, actions⟩) (.parts ⟨target, guard, actions'⟩)
  /-- A transition is finished with the same parts. -/
  | built {p : TransitionParts σ} {t : Transition σ} (h : Transition.ofParts p = .ok t) : Restates (.parts p) (.built t)

/-- Two tables of transitions say the same, event by event. -/
inductive OnSource.Restates : OnSource σ → OnSource σ → Prop
  | entries {es es' : List (Value × TransitionSource σ)}
    (h : List.Forall₂ (fun e e' ↦ e.1 = e'.1 ∧ e.2.Restates e'.2) es es') : Restates (.entries es) (.entries es')
  | refl (on : OnSource σ) : Restates on on

/-- Two states say the same. -/
inductive NodeSource.Restates : NodeSource σ → NodeSource σ → Prop
  | refl (n : NodeSource σ) : Restates n n
  | symm {n n' : NodeSource σ} (h : Restates n n') : Restates n' n
  | trans {n n' n'' : NodeSource σ} (h : Restates n n') (h' : Restates n' n'') : Restates n n''
  | parts {on on' : OnSource σ} {entry entry' exit exit' : ActionList σ} (hon : on.Restates on')
    (hentry : entry.Restates entry') (hexit : exit.Restates exit') :
    Restates (.parts ⟨on, entry, exit⟩) (.parts ⟨on', entry', exit'⟩)
  /-- What counts as false in the place of a table of transitions is an empty one. -/
  | bare {v : Value} {entry exit : ActionList σ} (h : v.isTruthy = false) :
    Restates (.parts ⟨.value v, entry, exit⟩) (.parts ⟨.entries [], entry, exit⟩)
  /-- A node is finished with the same parts. -/
  | built {p : NodeParts σ} {n : Node σ} (h : Node.ofParts p = .ok n) : Restates (.parts p) (.built n)

/-! ### They become the same -/

theorem Candidate.Restates.toAction_eq {c c' : Candidate σ} (h : c.Restates c') : c.toAction = c'.toAction := by
  induction h with
  | refl c => rfl
  | symm _ ih => exact ih.symm
  | @effect c hcallable =>
    cases c with
    | inert v => cases hcallable
    | function name body => rfl
    | effect name body => rfl

theorem ActionList.Restates.toActions_eq {l l' : ActionList σ} (h : l.Restates l') : l.toActions = l'.toActions := by
  cases h with
  | refl l => rfl
  | items h =>
    simp only [ActionList.toActions]
    induction h with
    | nil => rfl
    | cons hfirst _ ih => rw [List.mapM_cons, List.mapM_cons, hfirst.toAction_eq, ih]
  | listed htruthy hitems =>
    simp only [ActionList.toActions, htruthy, if_true, hitems, ok_bind, List.mapM_map]
    rfl
  | nothing hfalse =>
    simp only [ActionList.toActions, ActionList.empty, hfalse]
    rfl

theorem TransitionSource.Restates.ofSource_eq {t t' : TransitionSource σ} (h : t.Restates t') :
    Transition.ofSource t = Transition.ofSource t' := by
  induction h with
  | refl t => rfl
  | symm _ ih => exact ih.symm
  | trans _ _ ih ih' => exact ih.trans ih'
  | @text v s htext =>
    have htarget : Transition.targetOf v = some v := by
      cases v <;> first | rfl | cases htext
    simp only [Transition.ofSource, htext, Transition.ofParts, htarget]
    rfl
  | parts hactions => simp only [Transition.ofSource, Transition.ofParts, hactions.toActions_eq]
  | built hbuilt => exact hbuilt

theorem Node.transitionsOf_eq {es es' : List (Value × TransitionSource σ)}
    (h : List.Forall₂ (fun e e' ↦ e.1 = e'.1 ∧ e.2.Restates e'.2) es es') :
    Node.transitionsOf es = Node.transitionsOf es' := by
  induction h with
  | nil => rfl
  | @cons e e' rest rest' hfirst _ ih =>
    obtain ⟨hevent, hsource⟩ := hfirst
    rw [Node.transitionsOf, Node.transitionsOf, hsource.ofSource_eq, ih, hevent]

/-- A node is built of a table of parts as it is built of the parts, where this succeeds. -/
theorem Node.ofTable_of_ofParts {p : NodeParts σ} {n : Node σ} (h : Node.ofParts p = .ok n) : Node.ofTable p = .ok n := by
  obtain ⟨on, entry, exit⟩ := p
  cases on with
  | entries es => exact h
  | value v => cases h

theorem NodeSource.Restates.ofSource_eq {n n' : NodeSource σ} (h : n.Restates n') :
    Node.ofSource n = Node.ofSource n' := by
  induction h with
  | refl n => rfl
  | symm _ ih => exact ih.symm
  | trans _ _ ih ih' => exact ih.trans ih'
  | parts hon hentry hexit =>
    cases hon with
    | refl on => simp only [Node.ofSource, Node.ofTable, Node.ofParts, hentry.toActions_eq, hexit.toActions_eq]
    | entries hes =>
      simp only [Node.ofSource, Node.ofTable, Node.ofParts, Node.transitionsOf_eq hes, hentry.toActions_eq,
        hexit.toActions_eq]
  | bare hfalse => simp [Node.ofSource, Node.ofTable, hfalse]
  | built hbuilt => exact Node.ofTable_of_ofParts hbuilt

namespace Machine

theorem nodesOf_eq {states states' : List (Value × NodeSource σ)}
    (h : List.Forall₂ (fun s s' ↦ s.1 = s'.1 ∧ s.2.Restates s'.2) states states') :
    nodesOf states = nodesOf states' := by
  induction h with
  | nil => rfl
  | @cons s s' rest rest' hfirst _ ih =>
    obtain ⟨hstate, hsource⟩ := hfirst
    rw [nodesOf, nodesOf, hsource.ofSource_eq, ih, hstate]

/-! ### Building again -/

/-- The states of a machine, each a finished node. -/
def finished (m : Machine σ) : StatesSource σ := .entries (m.states.map fun s ↦ (s.1, .built s.2))

/-- The closed set of events of a machine as a value, null where there is none. -/
def kinds (m : Machine σ) : Value :=
  match m.events with
  | none => .null
  | some kinds => .set kinds

/-- What a machine says of itself. -/
def described (m : Machine σ) : Description σ where
  initial := some m.initial
  states := some m.finished
  context := some m.context
  events := some m.kinds
  name := some m.name

/-- A machine is the outcome of a description, by its parts or as a whole. -/
inductive IsBuilt : Machine σ → Prop
  | parts {initial context events name : Value} {states : StatesSource σ} {m : Machine σ}
    (h : ofParts initial states context events name = .ok m) : IsBuilt m
  | description {d : Description σ} {m : Machine σ} (h : ofDescription d = .ok m) : IsBuilt m

variable {m : Machine σ}

/-- A machine that is built of a description is built of its parts. -/
theorem IsBuilt.exists_ofParts (h : m.IsBuilt) :
    ∃ initial states context events name, ofParts initial states context events name = .ok m := by
  cases h with
  | parts h => exact ⟨_, _, _, _, _, h⟩
  | description h =>
    unfold ofDescription at h
    split at h
    · obtain ⟨events, -, h⟩ := ok_of_bind h
      exact ⟨_, _, _, _, _, h⟩
    · cases h

/-- What has been built passes its check, and its events stand for themselves. -/
theorem IsBuilt.sound (h : m.IsBuilt) : m.check = .ok () ∧ eventSet m.kinds = .ok m.events := by
  obtain ⟨initial, states, context, events, name, h⟩ := h.exists_ofParts
  cases states with
  | value v => cases h
  | entries es =>
    obtain ⟨nodes, -, h⟩ := ok_of_bind h
    obtain ⟨kinds, hkinds, h⟩ := ok_of_bind h
    obtain ⟨_, hcheck, h⟩ := ok_of_bind h
    cases h
    refine ⟨hcheck, ?_⟩
    cases kinds with
    | none => rfl
    | some kinds => exact eventSet_idem hkinds

/-- The parts of a machine are built into this machine. -/
theorem IsBuilt.ofParts_eq (h : m.IsBuilt) : ofParts m.initial m.finished m.context m.kinds m.name = .ok m := by
  obtain ⟨hcheck, hkinds⟩ := h.sound
  simp only [ofParts, finished, nodesOf_built, hkinds, ok_bind, hcheck]
  rfl

/-- So is its description, if its context is not null. -/
theorem IsBuilt.ofDescription_eq (h : m.IsBuilt) (hcontext : m.context ≠ .null) : ofDescription m.described = .ok m := by
  simp only [ofDescription, described, Option.getD_some, h.sound.2, ok_bind]
  exact h.ofParts_eq

/-- Descriptions say the same if their states do, one by one; a machine says what its description said. Assumes: states
that restate each other, under the same names in the same order, with any first state, context, events and name. Then
both are built into the same machine, or fail in the same way. From what has been built the same machine is built again,
by its parts or, if its context is not null, as a whole. -/
theorem same_of_restated {states states' : List (Value × NodeSource σ)}
    (h : List.Forall₂ (fun s s' ↦ s.1 = s'.1 ∧ s.2.Restates s'.2) states states') :
    (∀ initial context events name, ofParts initial (.entries states) context events name =
      ofParts initial (.entries states') context events name) ∧
    (∀ d : Description σ, ofDescription { d with states := some (.entries states) } =
      ofDescription { d with states := some (.entries states') }) ∧
    ∀ m : Machine σ, m.IsBuilt → ofParts m.initial m.finished m.context m.kinds m.name = .ok m ∧
      (m.context ≠ .null → ofDescription m.described = .ok m) := by
  have hparts (initial context events name : Value) : ofParts initial (.entries states) context events name =
      ofParts initial (.entries states') context events name := by
    simp only [ofParts, nodesOf_eq h]
  refine ⟨hparts, fun d ↦ ?_, fun m hm ↦ ⟨hm.ofParts_eq, hm.ofDescription_eq⟩⟩
  simp only [ofDescription]
  cases d.initial with
  | none => rfl
  | some initial => simp only [hparts]

/-- An effect that does nothing. -/
def idle : Callee Unit := .effect (some "idle") fun _ _ ↦ .done

/-- One state in few words: the text of a target, and a callable. -/
def terse : NodeSource Unit :=
  .parts { on := .entries [(.text "GO", .value (.text "A"))], entry := .items [.callable idle] }

/-- The same state, finished. -/
def complete : Node Unit := ⟨[(.text "GO", ⟨some (.text "A"), none, []⟩)], [.effect ⟨"idle", idle⟩], []⟩

theorem terse_restates : terse.Restates (.built complete) := by
  have hwords : terse.Restates (.parts ⟨.entries [(.text "GO", .parts { target := .text "A" })],
      .items [.action (.ofEffect none idle)], .empty⟩) :=
    .parts (.entries (.cons ⟨rfl, .text rfl⟩ .nil)) (.items (.cons (.effect rfl) .nil)) (.refl _)
  exact hwords.trans (.built rfl)

/-- A state in few words and the finished state make the same machine, which says as much. -/
theorem same_of_restated_of_terse :
    List.Forall₂ (fun s s' ↦ s.1 = s'.1 ∧ s.2.Restates s'.2) [(Value.text "A", terse)] [(.text "A", .built complete)] ∧
      ∃ m, ofParts (.text "A") (.entries [(.text "A", terse)]) (.table []) .null (.text "machine") = .ok m ∧
        ofParts (.text "A") (.entries [(.text "A", .built complete)]) (.table []) .null (.text "machine") = .ok m ∧
        m.IsBuilt ∧ m.context ≠ .null ∧ ofDescription m.described = .ok m := by
  have hrestated : List.Forall₂ (fun s s' ↦ s.1 = s'.1 ∧ s.2.Restates s'.2)
      [(Value.text "A", terse)] [(.text "A", .built complete)] := .cons ⟨rfl, terse_restates⟩ .nil
  obtain ⟨hparts, -, hagain⟩ := same_of_restated hrestated
  have hterse : ofParts (.text "A") (.entries [(.text "A", terse)]) (.table []) .null (.text "machine") =
      .ok ⟨.text "A", [(.text "A", complete)], .table [], none, .text "machine"⟩ := rfl
  have hbuilt := IsBuilt.parts hterse
  exact ⟨hrestated, _, hterse, (hparts ..).symm.trans hterse, hbuilt, nofun, (hagain _ hbuilt).2 nofun⟩

/-- A table of parts may have null in the place of its table of transitions, a finished node may not. -/
theorem no_node_of_null :
    (∃ m, ofParts (.text "A") (.entries [(.text "A", .parts ({ on := .value .null } : NodeParts Unit))]) (.table [])
      .null (.text "machine") = .ok m) ∧
    Node.ofParts ({ on := .value .null } : NodeParts Unit) = .error (.plain .missingAttribute) :=
  ⟨⟨_, rfl⟩, rfl⟩

end Machine

end Statechart
