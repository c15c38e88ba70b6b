import Statechart.Manifest.Build
import Statechart.Proofs.Publication
import Statechart.Proofs.Refinement

/-!
# Accepted machines are closed

A machine is accepted when its parts, its description or its document pass the check of references. From then on every
state that it leads to is a declared one (`Machine.hasState_of_transition`), so that the look-up of a node never
fails, and nothing fails but the guards and assignments themselves (`Machine.raises_of_transition`). A service of an
accepted machine holds, answers with and publishes declared states only (`accepted_machine_is_closed`).
-/

set_option autoImplicit false
set_option relaxedAutoImplicit false

namespace Statechart

variable {σ : Type}

theorem ok_of_forM {α : Type} {xs : List α} {f : α → Outcome Unit} (h : xs.forM f = .ok ()) :
    ∀ x ∈ xs, f x = .ok () := by
  induction xs with
  | nil => simp
  | cons x xs ih =>
    obtain ⟨_, hx, hxs⟩ := ok_of_bind h
    exact List.forall_mem_cons.mpr ⟨hx, ih hxs⟩

namespace Machine

/-! ### The check of references -/

/-- A value is a declared state: it can be a key, and one of the keys equals it. -/
def HasState (m : Machine σ) (value : Value) : Prop :=
  value.isKey = true ∧ ∃ p ∈ m.states, p.1.alike value = true

theorem hasState_of_declares {m : Machine σ} {value : Value} (h : declares m.states value = .ok true) :
    m.HasState value := by
  unfold declares at h
  split at h
  · next hkey => simpa [HasState, hkey, Entries.contains] using h
  · cases h

/-- A declared state has a node. -/
theorem HasState.node {m : Machine σ} {value : Value} (h : m.HasState value) : ∃ node, m.node value = .ok node := by
  obtain ⟨-, p, hp, hsame⟩ := h
  unfold Machine.node
  cases hfound : Entries.find? m.states value with
  | some node => exact ⟨node, rfl⟩
  | none =>
    simp only [Entries.find?, Option.map_eq_none_iff, List.find?_eq_none] at hfound
    exact absurd hsame (hfound p hp)

theorem declares_of_checkTransition {states : List (Value × Node σ)} {events : Option (List Value)}
    {state event : Value} {t : Transition σ} (h : checkTransition states events state event t = .ok ())
    {target : Value} (htarget : t.target = some target) : declares states target = .ok true := by
  unfold checkTransition at h
  extract_lets checked at h
  have hchecked : checked () = .ok () := by
    split at h
    · exact h
    · split at h
      · exact h
      · obtain ⟨_, -, h⟩ := ok_of_bind h
        obtain ⟨_, -, h⟩ := ok_of_bind h
        cases h
  simp only [checked, htarget] at hchecked
  obtain ⟨found, hfound, hrest⟩ := ok_of_bind hchecked
  cases found with
  | true => exact hfound
  | false =>
    obtain ⟨_, -, hrest⟩ := ok_of_bind hrest
    obtain ⟨_, -, hrest⟩ := ok_of_bind hrest
    cases hrest

theorem checkTransition_of_checkStates {all states : List (Value × Node σ)} {events : Option (List Value)}
    (h : checkStates all events states = .ok ()) {state event : Value} {node : Node σ} {t : Transition σ}
    (hnode : (state, node) ∈ states) (ht : (event, t) ∈ node.on) :
    checkTransition all events state event t = .ok () := by
  induction states with
  | nil => cases hnode
  | cons p rest ih =>
    obtain ⟨_, hfirst, hrest⟩ := ok_of_bind h
    rcases List.mem_cons.mp hnode with rfl | hlater
    · exact ok_of_forM hfirst (event, t) ht
    · exact ih hrest hlater

theorem declares_of_check {m : Machine σ} (h : m.check = .ok ()) :
    declares m.states m.initial = .ok true ∧ checkStates m.states m.events m.states = .ok () := by
  unfold check at h
  extract_lets checkReferences checked at h
  have hchecked : checked () = .ok () := by
    split at h
    · cases h
    · exact h
  obtain ⟨found, hfound, hrest⟩ := ok_of_bind hchecked
  cases found with
  | true => exact ⟨hfound, hrest⟩
  | false =>
    obtain ⟨_, -, hrest⟩ := ok_of_bind hrest
    cases hrest

/-- The first state and the targets of all transitions are declared. -/
structure Closed (m : Machine σ) : Prop where
  initial : m.HasState m.initial
  target : ∀ p ∈ m.states, ∀ q ∈ p.2.on, ∀ target ∈ q.2.target, m.HasState target

theorem closed_of_check {m : Machine σ} (h : m.check = .ok ()) : m.Closed := by
  obtain ⟨hinitial, hstates⟩ := declares_of_check h
  refine ⟨hasState_of_declares hinitial, fun p hp q hq target htarget ↦ hasState_of_declares ?_⟩
  exact declares_of_checkTransition (checkTransition_of_checkStates hstates hp hq) htarget

/-- A machine that was built: from its parts or a description, whose states and transitions may be written in any of
their ways, or from a document, given as a value, as a text or in a file. -/
inductive Accepted (m : Machine σ) : Prop
  | parts {initial states context events name} (h : ofParts initial states context events name = .ok m)
  | described {d : Description σ} (h : ofDescription d = .ok m)
  | value {scope source v} (h : Manifest.loadValue scope source v = .ok m)
  | text {scope source text} (h : Manifest.loadText scope source text = .ok m)
  | file {scope files here path} (h : Manifest.loadFile scope files here path = .ok m)

theorem closed_of_parts {initial context events name : Value} {states : StatesSource σ} {m : Machine σ}
    (h : ofParts initial states context events name = .ok m) : m.Closed := by
  unfold ofParts at h
  extract_lets checked at h
  have hchecked : ∃ nodes, checked nodes = .ok m := by
    split at h
    · obtain ⟨nodes, -, h⟩ := ok_of_bind h
      exact ⟨nodes, h⟩
    · cases h
  obtain ⟨nodes, h⟩ := hchecked
  obtain ⟨kinds, -, h⟩ := ok_of_bind h
  obtain ⟨_, hcheck, h⟩ := ok_of_bind h
  cases h
  exact closed_of_check hcheck

end Machine

/-! ### What is loaded -/

namespace Manifest

variable {scope : Scope σ} {source text : String} {v : Value} {m : Machine σ}

/-- What is loaded from a value is built of what is read. -/
theorem build_of_loadValue (h : loadValue scope source v = .ok m) :
    ∃ manifest, read v = .ok manifest ∧ manifest.build scope = .ok m := by
  unfold loadValue at h
  split at h
  · split at h
    · cases h
    · next manifest hread =>
      refine ⟨manifest, hread, ?_⟩
      cases hbuild : manifest.build scope with
      | ok built =>
        rw [hbuild] at h
        exact h
      | error f =>
        rw [hbuild] at h
        simp only [withSource] at h
        split at h <;> cases h
  · cases h

theorem loadValue_of_loadText (h : loadText scope source text = .ok m) : ∃ v, loadValue scope source v = .ok m := by
  unfold loadText at h
  split at h
  · exact ⟨_, h⟩
  · cases h
  · cases h

theorem loadText_of_loadFile {files : Files} {here path : Path} (h : loadFile scope files here path = .ok m) :
    ∃ text, loadText scope path.text text = .ok m := by
  unfold loadFile at h
  split at h
  · exact ⟨_, h⟩
  · split at h <;> cases h
  · cases h

end Manifest

namespace Machine

theorem closed_of_value {scope : Scope σ} {source : String} {v : Value} {m : Machine σ}
    (h : Manifest.loadValue scope source v = .ok m) : m.Closed := by
  obtain ⟨manifest, -, hbuild⟩ := Manifest.build_of_loadValue h
  obtain ⟨states, -, hbuild⟩ := ok_of_bind hbuild
  obtain ⟨name, -, hbuild⟩ := ok_of_bind hbuild
  exact closed_of_parts hbuild

theorem closed_of_text {scope : Scope σ} {source text : String} {m : Machine σ}
    (h : Manifest.loadText scope source text = .ok m) : m.Closed := by
  obtain ⟨v, hvalue⟩ := Manifest.loadValue_of_loadText h
  exact closed_of_value hvalue

theorem Accepted.closed {m : Machine σ} (h : m.Accepted) : m.Closed := by
  cases h with
  | parts h => exact closed_of_parts h
  | described h =>
    unfold ofDescription at h
    split at h
    · obtain ⟨kinds, -, h⟩ := ok_of_bind h
      exact closed_of_parts h
    · cases h
  | value h => exact closed_of_value h
  | text h => exact closed_of_text h
  | file h =>
    obtain ⟨text, htext⟩ := Manifest.loadText_of_loadFile h
    exact closed_of_text htext

end Machine

/-! ### Guards and assignments -/

/-- The callable that an assignment calls. -/
def Action.assignment? : Action σ → Option (Callee σ)
  | .assign f => some f
  | .effect _ => none

/-- Assignments are folded unless one of them fails. -/
theorem Action.fails_of_partition {event : Event} {actions : List (Action σ)} {context : Value} {f : Failure}
    (h : partition context event actions = .error f) :
    ∃ callee ∈ actions.filterMap assignment?, ∃ context, callee.apply context event = .error f := by
  induction actions generalizing context with
  | nil => cases h
  | cons a rest ih =>
    cases a with
    | assign callee =>
      cases hcallee : callee.apply context event with
      | error f' =>
        simp only [partition, hcallee, bind, Except.bind] at h
        cases h
        exact ⟨callee, by simp [assignment?], context, hcallee⟩
      | ok next =>
        simp only [partition, hcallee, bind, Except.bind] at h
        obtain ⟨failing, hmem, hfails⟩ := ih h
        exact ⟨failing, by simp [assignment?, hmem], hfails⟩
    | effect e =>
      cases hrest : partition context event rest with
      | ok parts => simp [partition, hrest, bind, Except.bind, pure, Except.pure] at h
      | error f' =>
        simp only [partition, hrest, bind, Except.bind] at h
        cases h
        obtain ⟨failing, hmem, hfails⟩ := ih hrest
        exact ⟨failing, by simpa [assignment?] using hmem, hfails⟩

/-- Whether a transition lets an event pass is known unless its guard fails. -/
theorem Transition.fails_of_allows {t : Transition σ} {context : Value} {event : Event} {f : Failure}
    (h : t.allows context event = .error f) : ∃ guard, t.guard = some guard ∧ guard.apply context event = .error f := by
  unfold allows at h
  split at h
  · cases h
  · next guard hguard =>
    cases hfails : guard.apply context event with
    | ok v => simp [hfails, Except.map] at h
    | error f' =>
      rw [hfails] at h
      cases h
      exact ⟨guard, hguard, hfails⟩

namespace Machine

/-- The guards and the assignments of a node. -/
def nodeCallables (node : Node σ) : List (Callee σ) :=
  (node.entry ++ node.exit).filterMap Action.assignment? ++
    node.on.flatMap fun q ↦ q.2.guard.toList ++ q.2.actions.filterMap Action.assignment?

section

variable {node : Node σ} {callee : Callee σ} {l : Value} {t : Transition σ}

theorem mem_nodeCallables_of_entry (h : callee ∈ node.entry.filterMap Action.assignment?) :
    callee ∈ nodeCallables node := by
  simp [nodeCallables, h]

theorem mem_nodeCallables_of_exit (h : callee ∈ node.exit.filterMap Action.assignment?) :
    callee ∈ nodeCallables node := by
  simp [nodeCallables, h]

theorem mem_nodeCallables_of_on (ht : (l, t) ∈ node.on)
    (h : t.guard = some callee ∨ callee ∈ t.actions.filterMap Action.assignment?) : callee ∈ nodeCallables node := by
  refine List.mem_append_right _ (List.mem_flatMap.mpr ⟨_, ht, ?_⟩)
  rcases h with hguard | hactions
  · simp [hguard]
  · exact List.mem_append_right _ hactions

end

/-- A guard or an assignment of a machine fails at an event, in some context. -/
def Raises (m : Machine σ) (event : Event) (f : Failure) : Prop :=
  ∃ p ∈ m.states, ∃ callee ∈ nodeCallables p.2, ∃ context, callee.apply context event = .error f

section

variable {m : Machine σ} {source next : State σ} {event : Event} {f : Failure}

/-- The first state cannot be computed only if an assignment fails. -/
theorem raises_of_initialState (hm : m.Closed) (h : m.initialState = .error f) : m.Raises .init f := by
  obtain ⟨node, hnode⟩ := hm.initial.node
  simp only [initialState, hnode, bind, Except.bind] at h
  cases hparts : Action.partition m.context Event.init node.entry with
  | ok parts => simp [hparts, pure, Except.pure] at h
  | error f' =>
    rw [hparts] at h
    cases h
    obtain ⟨callee, hcallee, hfails⟩ := Action.fails_of_partition hparts
    obtain ⟨k, hmem⟩ := mem_states_of_node hnode
    exact ⟨_, hmem, callee, mem_nodeCallables_of_entry hcallee, hfails⟩

/-- The transition of a node for an event is one of those that stand in it. -/
theorem mem_on_of_reaction {node : Node σ} {kind : Value} {t : Transition σ} (h : reaction node kind = .ok (some t)) :
    ∃ l, (l, t) ∈ node.on := by
  unfold reaction at h
  split at h
  · exact mem_of_find? (Except.ok.inj h)
  · cases h

/-- A transition that stands in a node leads from a declared state to a declared state. -/
theorem Closed.hasState_target (hm : m.Closed) (hsource : m.HasState source.value) {node : Node σ} {t : Transition σ}
    {l : Value} (hnode : m.node source.value = .ok node) (ht : (l, t) ∈ node.on) :
    m.HasState (t.target.getD source.value) := by
  cases htarget : t.target with
  | none => exact hsource
  | some target =>
    obtain ⟨k, hmem⟩ := mem_states_of_node hnode
    exact hm.target _ hmem _ ht target htarget

/-- What follows a declared state is a declared state. -/
theorem hasState_of_transition (hm : m.Closed) (hsource : m.HasState source.value)
    (h : m.transition source event = .ok next) : m.HasState next.value := by
  cases follows_of_transition h with
  | stays hvalue _ _ _ => exact hvalue ▸ hsource
  | moves hnode ht _ _ hvalue _ _ =>
    obtain ⟨l, hl⟩ := mem_on_of_reaction ht
    exact hvalue ▸ hm.hasState_target hsource hnode hl

/-- What follows a declared state can be computed unless a guard or an assignment fails. -/
theorem raises_of_transition (hm : m.Closed) (hsource : m.HasState source.value) (hkey : event.kind.isKey = true)
    (h : m.transition source event = .error f) : m.Raises event f := by
  obtain ⟨node, hnode⟩ := hsource.node
  obtain ⟨k, hmem⟩ := mem_states_of_node hnode
  simp only [transition, hnode, reaction, hkey, if_true, bind, Except.bind] at h
  cases ht : Entries.find? node.on event.kind with
  | none => simp [ht, pure, Except.pure] at h
  | some t =>
    obtain ⟨l, hl⟩ := mem_of_find? ht
    obtain ⟨target, htarget⟩ := (hm.hasState_target hsource hnode hl).node
    simp only [ht, htarget] at h
    cases hallows : t.allows source.context event with
    | error f' =>
      rw [hallows] at h
      cases h
      obtain ⟨guard, hguard, hfails⟩ := Transition.fails_of_allows hallows
      exact ⟨_, hmem, guard, mem_nodeCallables_of_on hl (.inl hguard), _, hfails⟩
    | ok allowed =>
      cases allowed with
      | false => simp [hallows, pure, Except.pure] at h
      | true =>
        simp only [hallows, if_true] at h
        cases hparts : Action.partition source.context event (node.exit ++ t.actions ++ target.entry) with
        | ok parts =>
          rw [hparts] at h
          cases h
        | error f' =>
          rw [hparts] at h
          cases h
          -- the assignment that fails is one of the exit, of the transition or of the entry of the target
          obtain ⟨callee, hcallee, context, hfails⟩ := Action.fails_of_partition hparts
          rw [List.filterMap_append, List.filterMap_append, List.mem_append, List.mem_append] at hcallee
          rcases hcallee with (hexit | hactions) | hentry
          · exact ⟨_, hmem, callee, mem_nodeCallables_of_exit hexit, context, hfails⟩
          · exact ⟨_, hmem, callee, mem_nodeCallables_of_on hl (.inr hactions), context, hfails⟩
          · obtain ⟨k', hmem'⟩ := mem_states_of_node htarget
            exact ⟨_, hmem', callee, mem_nodeCallables_of_entry hentry, context, hfails⟩

/-- Whatever events occur, a declared state leads to declared states. -/
theorem hasState_of_foldlM (hm : m.Closed) {events : List Event} (hsource : m.HasState source.value)
    (h : events.foldlM m.transition source = .ok next) : m.HasState next.value := by
  induction events generalizing source with
  | nil =>
    cases h
    exact hsource
  | cons event events ih =>
    obtain ⟨following, hfollowing, h⟩ := ok_of_bind h
    exact ih (hasState_of_transition hm hsource hfollowing) h

theorem Closed.hasState_initialState (hm : m.Closed) {initial : State σ} (h : m.initialState = .ok initial) :
    m.HasState initial.value := by
  obtain ⟨node, -, h⟩ := ok_of_bind h
  obtain ⟨parts, -, h⟩ := ok_of_bind h
  cases h
  exact hm.initial

end

end Machine

/-! ### Services of accepted machines -/

section

variable {w : World σ} {past : List (Run σ)} {r : Run σ} {id : Nat} {s : Service σ}

/-- A service of a closed machine holds a declared state. -/
theorem History.hasState (hpast : History (.idle w) past r) (hnew : w.services = [])
    (hs : r.world.services[id]? = some s) (hm : s.machine.Closed) : s.machine.HasState s.state.value := by
  refine hpast.states hnew (P := fun _ s ↦ s.machine.Closed → s.machine.HasState s.state.value) ?_ hs hm
  intro hs before o s' hstored _ hbefore hm
  cases hstored with
  | created hinitial => exact hm.hasState_initialState hinitial
  | hosted hinitial hstate =>
    have hvalue := hm.hasState_initialState hinitial
    rw [hstate]
    exact hvalue
  | started hmachine hstate | kept hmachine hstate _ =>
    rw [hstate, hmachine]
    exact hbefore _ rfl (hmachine ▸ hm)
  | committed hmachine hnext hstate =>
    rw [hmachine] at hm
    have hvalue := Machine.hasState_of_transition hm (hbefore _ rfl hm) hnext
    rw [hstate, hmachine]
    exact hvalue

end

/-- The states of the lamp, one as a table whose transition is the bare text of its target, one as a finished node. -/
def lampStates (shine : Value → Event → Outcome Value) : StatesSource Unit :=
  .entries [(.text "off", .parts { on := .entries [(.text "press", .value (.text "on"))] }),
    (.text "on", .built ⟨[], [.effect ⟨"shine", .function none shine⟩], []⟩)]

theorem ofParts_lampStates (shine : Value → Event → Outcome Value) :
    Machine.ofParts (.text "off") (lampStates shine) .null .null (.text "lamp") = .ok (lamp shine) := rfl

/-- The states of an accepted machine are closed under its events. Assumes: a machine that was built, from its parts,
from a description or from a document, with any guards and assignments. If its first state cannot be computed, an
assignment fails. Every state that any sequence of events leads to is a declared one, from which an event with a kind
that can be a key is not followed by a state only if a guard or an assignment fails at it. In every history of a world
that began without services, with any callbacks, a service of the machine holds a declared state, tells its listeners
of declared states only and comes back with a declared state from every send that comes back. -/
theorem accepted_machine_is_closed {m : Machine σ} (hm : m.Accepted) :
    (∀ f, m.initialState = .error f → m.Raises .init f) ∧
    (∀ initial (events : List Event) final, m.initialState = .ok initial →
      events.foldlM m.transition initial = .ok final → m.HasState final.value ∧
      ∀ event f, event.kind.isKey = true → m.transition final event = .error f → m.Raises event f) ∧
    ∀ (w : World σ) past r id s, w.services = [] → History (.idle w) past r → r.world.services[id]? = some s →
      s.machine = m → m.HasState s.state.value ∧
      (∀ l snapshot, r.Tells id l snapshot → m.HasState snapshot.value) ∧
      ∀ p ∈ past, ∀ name v below a, p.request? = some (.send name v, below) → p.world.serviceOf name = .ok id →
        p.step.Ends below r → r.signal = .returning a →
          ∃ snapshot, a = .state snapshot ∧ m.HasState snapshot.value := by
  have hclosed := hm.closed
  refine ⟨fun f ↦ Machine.raises_of_initialState hclosed, fun initial events final hinitial hfold ↦ ?_, ?_⟩
  · have hfinal := Machine.hasState_of_foldlM hclosed (hclosed.hasState_initialState hinitial) hfold
    exact ⟨hfinal, fun event f ↦ Machine.raises_of_transition hclosed hfinal⟩
  · rintro w past r id s hnew hpast hs rfl
    have hstate := hpast.hasState hnew hs hclosed
    refine ⟨hstate, fun l snapshot htold ↦ ?_, fun p _ name v below a hrequest hname hends hreturned ↦ ?_⟩
    · obtain ⟨current, hcurrent, rfl⟩ := hpast.told_current hnew htold
      obtain rfl : s = current := Option.some.inj (hs.symm.trans hcurrent)
      exact hstate
    · have hanswer := hends.answer_of_request hrequest hname ⟨a, hreturned⟩ hs
      exact ⟨_, Signal.returning.inj (hreturned.symm.trans hanswer), hstate⟩

/-- The lamp is accepted; pressed once, it is in a declared state, and so is the answer to the send. -/
theorem accepted_machine_is_closed_of_lamp :
    (∃ initial final, (lamp shines).initialState = .ok initial ∧
      List.foldlM (lamp shines).transition initial [⟨.text "press", []⟩] = .ok final ∧
      (lamp shines).HasState final.value) ∧
    ∃ snapshot, ((pressed shines).after 19).signal = .returning (.state snapshot) ∧
      (lamp shines).HasState snapshot.value := by
  have hclosed := accepted_machine_is_closed (.parts (ofParts_lampStates shines))
  have hs : ((pressed shines).after 19).world.services[0]? = some _ := rfl
  obtain ⟨-, -, hsends⟩ := hclosed.2.2 (World.ofLamp shines) _ _ 0 _ rfl (History.ofLamp shines 19) hs rfl
  obtain ⟨snapshot, hanswer, hvalue⟩ := hsends ((pressed shines).after 8) (by simp [Run.trail]) "lamp"
    (.text "press") _ _ rfl rfl (.of_after (n := 10) (by decide) rfl) rfl
  have hfinal := (hclosed.2.1 _ [⟨.text "press", []⟩] _ rfl rfl).1
  exact ⟨⟨_, _, rfl, rfl, hfinal⟩, snapshot, congrArg Signal.returning hanswer, hvalue⟩

end Statechart
