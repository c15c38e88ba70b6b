import Statechart.Proofs.Placement

/-!
# Guards as they are written

The guard of a transition is written as a reference, and the machine that is loaded asks what the reference names before
it takes the transition (`Machine.GuardedBy`), unless the reference is empty or names null: then the transition is not
guarded. A reference that names nothing keeps the document from being loaded (`Manifest.guarded_unless_empty`).
-/

set_option autoImplicit false
set_option relaxedAutoImplicit false

namespace Statechart

variable {σ : Type}

namespace Machine

/-- A machine asks a callable before it takes the transition of a state for an event, and takes it only if the answer
counts as true. -/
structure GuardedBy (m : Machine σ) (state event : String) (c : Callee σ) : Prop where
  guard : ∀ value kind, value.asText? = some state → kind.asText? = some event →
    ∃ t, m.Has value kind t ∧ t.guard = some c
  asked : ∀ (s : State σ) (e : Event) next, s.value.asText? = some state → e.kind.asText? = some event →
    m.transition s e = .ok next → next.changed = true →
      ∃ answer, c.apply s.context e = .ok answer ∧ answer.isTruthy = true

/-- A machine takes the transition of a state for an event without asking. -/
def Unguarded (m : Machine σ) (state event : String) : Prop :=
  ∀ value kind, value.asText? = some state → kind.asText? = some event → ∃ t, m.Has value kind t ∧ t.guard = none

/-- A transition with a guard is taken only if the guard lets the event pass. -/
theorem Has.asked {m : Machine σ} {s next : State σ} {e : Event} {t : Transition σ} {c : Callee σ}
    (h : m.Has s.value e.kind t) (hguard : t.guard = some c) (hnext : m.transition s e = .ok next)
    (hchanged : next.changed = true) : ∃ answer, c.apply s.context e = .ok answer ∧ answer.isTruthy = true := by
  obtain ⟨node, hnode, ht⟩ := h
  cases follows_of_transition hnext with
  | stays _ _ _ hstays =>
    rw [hchanged] at hstays
    cases hstays
  | moves hnode' ht' hallows _ _ _ _ =>
    obtain rfl := Except.ok.inj (hnode.symm.trans hnode')
    obtain rfl := Option.some.inj (Except.ok.inj (ht.symm.trans ht'))
    rw [Transition.allows, hguard] at hallows
    dsimp only at hallows
    cases hanswer : c.apply s.context e with
    | error f =>
      rw [hanswer] at hallows
      cases hallows
    | ok answer =>
      rw [hanswer] at hallows
      exact ⟨answer, rfl, Except.ok.inj hallows⟩

end Machine

section

variable {scope : Scope σ} {reference : String}

/-- A reference that is not empty is resolved, and what it names is the guard, unless this is null. -/
theorem TransitionSpec.resolved_of_buildGuard {guard : Option (Callee σ)} (hreference : reference ≠ "")
    (h : buildGuard scope (some reference) = .ok guard) :
    ∃ c, scope.resolve reference = .ok c ∧
      ((c ≠ .inert .null ∧ guard = some c) ∨ (c = .inert .null ∧ guard = none)) := by
  rcases cases_of_buildGuard h with ⟨-, hnone | hempty⟩ | ⟨_, c, hsome, hc, hguard⟩
  · cases hnone
  · exact absurd (Option.some.inj hempty) hreference
  · cases hsome
    exact ⟨c, hc, hguard⟩

end

namespace Manifest

section

variable {scope : Scope σ} {source state event : String} {v x w : Value} {fields : Entries} {machine : Machine σ}

/-- What is written for the guard of a transition is the reference that the guard is built of. -/
theorem Says.guard (h : Says v state event x) (hx : x.opened = .table fields) (hw : Entries.get? fields "cond" = some w)
    (hgiven : w ≠ .null) (hload : loadValue scope source v = .ok machine) {value kind : Value}
    (hvalue : value.asText? = some state) (hkind : kind.asText? = some event) :
    ∃ reference t, readText w = .ok reference ∧ machine.Has value kind t ∧
      TransitionSpec.buildGuard scope (some reference) = .ok t.guard := by
  obtain ⟨t, built, ht, hbuilt, hhas⟩ := h.built hload hvalue hkind
  rw [readTransition_of_opened hx] at ht
  rcases cases_of_optional (fields_of_readTransition ht).2 with
    ⟨-, hmissing | hnull⟩ | ⟨w', reference, hw', -, hread, hsome⟩
  · rw [hmissing] at hw
    cases hw
  · rw [hnull] at hw
    exact absurd (Option.some.inj hw).symm hgiven
  · obtain rfl := Option.some.inj (hw.symm.trans hw')
    exact ⟨reference, built, hread, hhas, hsome ▸ TransitionSpec.guard_of_build hbuilt⟩

/-- An empty reference is not resolved. -/
theorem Says.unguarded_of_empty (h : Says v state event x) (hx : x.opened = .table fields)
    (hw : Entries.get? fields "cond" = some w) (hgiven : w ≠ .null) (hload : loadValue scope source v = .ok machine)
    (hempty : readText w = .ok "") : machine.Unguarded state event := by
  intro value kind hvalue hkind
  obtain ⟨reference, t, hreference, hhas, hbuild⟩ := h.guard hx hw hgiven hload hvalue hkind
  obtain rfl := Except.ok.inj (hempty.symm.trans hreference)
  exact ⟨t, hhas, (Except.ok.inj hbuild).symm⟩

/-- A reference that is not empty is resolved, and each transition for the state and the event has what it names as
its guard, or none if this is null. -/
theorem Says.resolved (h : Says v state event x) (hx : x.opened = .table fields)
    (hw : Entries.get? fields "cond" = some w) (hgiven : w ≠ .null) (hload : loadValue scope source v = .ok machine)
    {reference : String} (hread : readText w = .ok reference) (hne : reference ≠ "") :
    ∃ c, scope.resolve reference = .ok c ∧ ∀ value kind, value.asText? = some state → kind.asText? = some event →
      ∃ t, machine.Has value kind t ∧
        ((c ≠ .inert .null ∧ t.guard = some c) ∨ (c = .inert .null ∧ t.guard = none)) := by
  have hhas (value kind : Value) (hvalue : value.asText? = some state) (hkind : kind.asText? = some event) :
      ∃ t c, machine.Has value kind t ∧ scope.resolve reference = .ok c ∧
        ((c ≠ .inert .null ∧ t.guard = some c) ∨ (c = .inert .null ∧ t.guard = none)) := by
    obtain ⟨reference', t, hread', hhas, hbuild⟩ := h.guard hx hw hgiven hload hvalue hkind
    obtain rfl := Except.ok.inj (hread.symm.trans hread')
    obtain ⟨c, hc, hguard⟩ := TransitionSpec.resolved_of_buildGuard hne hbuild
    exact ⟨t, c, hhas, hc, hguard⟩
  obtain ⟨_, c, -, hc, -⟩ := hhas (.text state) (.text event) rfl rfl
  refine ⟨c, hc, fun value kind hvalue hkind ↦ ?_⟩
  obtain ⟨t, c', hhas, hc', hguard⟩ := hhas value kind hvalue hkind
  obtain rfl := Except.ok.inj (hc.symm.trans hc')
  exact ⟨t, hhas, hguard⟩

/-- What the reference names is asked before the transition is taken, unless it is null, which a registry may hold. -/
theorem Says.guarded (h : Says v state event x) (hx : x.opened = .table fields)
    (hw : Entries.get? fields "cond" = some w) (hgiven : w ≠ .null) (hload : loadValue scope source v = .ok machine)
    {reference : String} (hread : readText w = .ok reference) (hne : reference ≠ "") :
    ∃ c, scope.resolve reference = .ok c ∧ (c ≠ .inert .null → machine.GuardedBy state event c) ∧
      (c = .inert .null → scope.registry.lookup reference = some c ∧ machine.Unguarded state event) := by
  obtain ⟨c, hc, hguards⟩ := h.resolved hx hw hgiven hload hread hne
  refine ⟨c, hc, fun hnotnull ↦ ?_, fun hnull ↦ ⟨?_, fun value kind hvalue hkind ↦ ?_⟩⟩
  · have hguard (value kind : Value) (hvalue : value.asText? = some state) (hkind : kind.asText? = some event) :
        ∃ t, machine.Has value kind t ∧ t.guard = some c := by
      obtain ⟨t, ht, ⟨-, hsome⟩ | ⟨hnull, -⟩⟩ := hguards value kind hvalue hkind
      · exact ⟨t, ht, hsome⟩
      · exact absurd hnull hnotnull
    refine ⟨hguard, fun s e next hs he hnext hchanged ↦ ?_⟩
    obtain ⟨t, ht, hsome⟩ := hguard s.value e.kind hs he
    exact ht.asked hsome hnext hchanged
  · subst hnull
    exact Scope.registered_of_inert hc
  · obtain ⟨t, ht, ⟨hnotnull, -⟩ | ⟨-, hnone⟩⟩ := hguards value kind hvalue hkind
    · exact absurd hnull hnotnull
    · exact ⟨t, ht, hnone⟩

end

/-- A guard is asked as it is written, unless its reference is empty. Assumes a document of any values that says by a
table what happens in a state at an event (by the last one, if it says so twice), and that gives a guard in this table.
If the document is loaded, the guard is a reference, and either it is empty and the transition has no guard, or it names
something: what it names is the guard of the transition, which is taken only if the guard answers with what counts as
true. Null that a registry holds under the reference is no guard. Any other reference that names nothing keeps the
document from being loaded, and the failure names the source unless it is one of those that pass all handlers. -/
theorem guarded_unless_empty (scope : Scope σ) (source : String) {v x w : Value} {state event : String}
    {fields : Entries} (h : Says v state event x) (hx : x.opened = .table fields)
    (hw : Entries.get? fields "cond" = some w) (hgiven : w ≠ .null) :
    (∀ machine, loadValue scope source v = .ok machine → ∃ reference, readText w = .ok reference ∧
      ((reference = "" ∧ machine.Unguarded state event) ∨ ∃ c, scope.resolve reference = .ok c ∧
        (c ≠ .inert .null → machine.GuardedBy state event c) ∧
        (c = .inert .null → scope.registry.lookup reference = some c ∧ machine.Unguarded state event))) ∧
    ∀ reference f, readText w = .ok reference → reference ≠ "" → scope.resolve reference = .error f →
      ∃ f', loadValue scope source v = .error f' ∧ (f'.Names source ∨ (Origin.value source v).Escapes scope f') := by
  refine ⟨fun machine hload ↦ ?_, fun reference f hreference hne hfails ↦ ?_⟩
  · have hstate : (Value.text state).asText? = some state := rfl
    have hevent : (Value.text event).asText? = some event := rfl
    obtain ⟨reference, -, hreference, -, -⟩ := h.guard hx hw hgiven hload hstate hevent
    refine ⟨reference, hreference, ?_⟩
    by_cases hempty : reference = ""
    · exact .inl ⟨hempty, h.unguarded_of_empty hx hw hgiven hload (hempty ▸ hreference)⟩
    · exact .inr (h.guarded hx hw hgiven hload hreference hempty)
  · cases hload : loadValue scope source v with
    | error f' => exact ⟨f', rfl, names_of_loadValue hload⟩
    | ok machine =>
      obtain ⟨c, hc, -⟩ := h.guarded hx hw hgiven hload hreference hne
      cases hc.symm.trans hfails

/-- A document with one transition says in its table what guards it. -/
theorem says_guardedBy (reference : String) : Says (guardedBy reference) "A" "GO"
    (.ofFields [("target", .text "A"), ("cond", .text reference)]) :=
  says_switch _

/-- A callable whose answer is always the same. -/
def answering (b : Bool) : Callee Unit := .function (some "answer") fun _ _ ↦ .ok (.bool b)

/-- A registered reference is asked before the transition is taken, and one that names nothing keeps the document from
being loaded. -/
theorem guarded_unless_empty_of_registered :
    (∃ machine, loadValue ⟨[("powered", answering false)], []⟩ dataSource (guardedBy "powered") = .ok machine ∧
      machine.GuardedBy "A" "GO" (answering false)) ∧
    ∃ f, loadValue ({} : Scope Unit) dataSource (guardedBy "powered") = .error f ∧ f.Names dataSource := by
  have hguarded (scope : Scope Unit) := guarded_unless_empty scope dataSource (says_guardedBy "powered") rfl rfl nofun
  refine ⟨⟨_, rfl, ?_⟩, ?_⟩
  · obtain ⟨reference, hread, hguard⟩ := (hguarded ⟨[("powered", answering false)], []⟩).1 _ rfl
    cases hread
    rcases hguard with ⟨hempty, -⟩ | ⟨c, hc, hguard, -⟩
    · exact absurd hempty (by decide)
    · cases hc
      exact hguard nofun
  · obtain ⟨f, hload, -⟩ := (hguarded {}).2 "powered" _ rfl (by decide) rfl
    refine ⟨f, hload, ?_⟩
    have hfails := load_guardedBy (σ := Unit) "powered" (by decide) rfl
    cases hload.symm.trans hfails
    rfl

/-- An empty reference is a reference: it names what is registered under it. As a guard it is never asked, so that the
transition is taken whatever the answer would be, and it keeps no document from being loaded where it names nothing. -/
theorem empty_reference_not_asked :
    Says (guardedBy "") "A" "GO" (.ofFields [("target", .text "A"), ("cond", .text "")]) ∧
    (Scope.resolve ⟨[("", answering false)], []⟩ "" = .ok (answering false) ∧
      ∃ machine, loadValue ⟨[("", answering false)], []⟩ dataSource (guardedBy "") = .ok machine ∧
        machine.Unguarded "A" "GO" ∧ ¬ machine.GuardedBy "A" "GO" (answering false)) ∧
    ∃ f machine, Scope.resolve ({} : Scope Unit) "" = .error f ∧
      loadValue ({} : Scope Unit) dataSource (guardedBy "") = .ok machine := by
  have hload : loadValue ⟨[("", answering false)], []⟩ dataSource (guardedBy "") = .ok _ := rfl
  refine ⟨says_guardedBy "", ⟨rfl, _, hload, ?_, ?_⟩, _, _, rfl, rfl⟩
  · exact (says_guardedBy "").unguarded_of_empty rfl rfl nofun hload rfl
  · intro h
    obtain ⟨answer, hanswer, htruthy⟩ :=
      h.asked ⟨.text "A", .table [], [], false⟩ ⟨.text "GO", []⟩ _ rfl rfl rfl rfl
    cases hanswer
    cases htruthy

end Manifest

end Statechart
