import Statechart.Proofs.Closure
import Statechart.Proofs.Placement

/-!
# What references name

A reference names something callable, or what the registry holds under it, which is taken as it stands. Nothing else
gets into a machine that is loaded: its assignments are callable, its guards and its effects are callable or come from
the registry (`Manifest.Origin.supplied_of_load`). A transition therefore fails for want of a callable only at a guard
that is a value of the registry (`callable_unless_registered`).
-/

set_option autoImplicit false
set_option relaxedAutoImplicit false

namespace Statechart

variable {σ : Type} {scope : Scope σ}

/-! ### References -/

namespace Scope

/-- The registry holds something under a name that is neither callable nor null. -/
def Registers (scope : Scope σ) (c : Callee σ) : Prop :=
  ∃ reference v, c = .inert v ∧ v ≠ .null ∧ scope.registry.lookup reference = some c

/-- What a guard or an effect calls: something callable, or what the registry holds. -/
def Supplies (scope : Scope σ) (c : Callee σ) : Prop := c.isCallable = true ∨ scope.Registers c

/-- A reference that is not registered hits an attribute of a module that can be reached. -/
structure Hits (scope : Scope σ) (reference path name : String) (c : Callee σ) : Prop where
  unregistered : scope.registry.lookup reference = none
  parts : splitAtLastDot reference.toList = some (path.toList, name.toList)
  given : path ≠ ""
  absolute : path.startsWith "." = false
  found : ∃ entries, module scope.modules path = .ok entries ∧ (entries.lookup name <|> own? path name) = some c

section

variable {reference path name : String} {c : Callee σ} {v : Value}

/-- A hit in a module that is not callable is refused. -/
theorem Hits.refused (h : scope.Hits reference path name (.inert v)) : scope.resolve reference =
    .error (.unresolved reference ("'" ++ name ++ "' is not callable (got " ++ v.kindName ++ ")")) := by
  obtain ⟨entries, hmodule, hattribute⟩ := h.found
  rw [resolve_of_split h.unregistered h.parts, String.ofList_toList, String.ofList_toList, resolveIn]
  simp only [h.given, h.absolute, beq_iff_eq, if_false, Bool.false_eq_true, hmodule]
  rw [callableIn, hattribute]

/-- What a reference names is callable, or it is what the registry holds under it. -/
theorem callable_or_registered (h : scope.resolve reference = .ok c) :
    c.isCallable = true ∨ scope.registry.lookup reference = some c := by
  cases c with
  | function | effect => exact .inl rfl
  | inert v => exact .inr (registered_of_inert h)

theorem supplies_of_resolve (h : scope.resolve reference = .ok c) (hnull : c ≠ .inert .null) : scope.Supplies c := by
  cases c with
  | function | effect => exact .inl rfl
  | inert v =>
    have hv : v ≠ .null := fun hv ↦ hnull (hv ▸ rfl)
    exact .inr ⟨reference, v, rfl, hv, registered_of_inert h⟩

end

end Scope

/-! ### Parts of machines -/

/-- An assignment that is callable, or an effect whose callable is supplied. -/
def Action.Supplied (scope : Scope σ) : Action σ → Prop
  | .assign f => f.isCallable = true
  | .effect e => scope.Supplies e.exec

/-- A transition whose guard and whose actions are supplied. -/
structure Transition.Supplied (scope : Scope σ) (t : Transition σ) : Prop where
  guard : ∀ c, t.guard = some c → scope.Supplies c
  actions : ∀ a ∈ t.actions, a.Supplied scope

/-- A node all of whose parts are supplied. -/
structure Node.Supplied (scope : Scope σ) (node : Node σ) : Prop where
  on : ∀ q ∈ node.on, q.2.Supplied scope
  entry : ∀ a ∈ node.entry, a.Supplied scope
  exit : ∀ a ∈ node.exit, a.Supplied scope

/-- A machine all of whose guards, assignments and effects are supplied. -/
def Machine.Supplied (scope : Scope σ) (m : Machine σ) : Prop := ∀ p ∈ m.states, p.2.Supplied scope

/-- An assignment is refused unless it is callable; an effect is taken as it is named. -/
theorem ActionSpec.supplied_of_build {a : ActionSpec} {action : Action σ} (h : a.build scope = .ok action) :
    action.Supplied scope := by
  unfold build at h
  split at h
  · obtain ⟨c, -, h⟩ := ok_of_bind h
    cases c with
    | function | effect =>
      cases h
      rfl
    | inert v =>
      change Except.error (Failure.refusing _ _ v) = _ at h
      cases h
  · cases h
    rfl
  · obtain ⟨c, hc, h⟩ := ok_of_bind h
    cases h
    unfold effectOf
    split
    · exact .inl rfl
    · next hnull => exact Scope.supplies_of_resolve hc hnull
  · cases h
    exact .inl rfl

theorem ActionSpec.supplied_of_mapM {specs : List ActionSpec} {actions : List (Action σ)}
    (h : specs.mapM (ActionSpec.build scope) = .ok actions) : ∀ a ∈ actions, a.Supplied scope := by
  intro a ha
  obtain ⟨spec, -, hbuild⟩ := mem_of_mapM h a ha
  exact supplied_of_build hbuild

theorem TransitionSpec.supplied_of_build {t : TransitionSpec} {built : Transition σ} (h : t.build scope = .ok built) :
    built.Supplied scope := by
  obtain ⟨guard, hguard, h⟩ := ok_of_bind h
  obtain ⟨actions, hactions, h⟩ := ok_of_bind h
  cases h
  refine ⟨fun c hc ↦ ?_, ActionSpec.supplied_of_mapM hactions⟩
  obtain rfl : guard = some c := hc
  rcases TransitionSpec.cases_of_buildGuard hguard with ⟨hnone, -⟩ | ⟨reference, c', -, hc', hsome | hnull⟩
  · cases hnone
  · obtain rfl := Option.some.inj hsome.2
    exact Scope.supplies_of_resolve hc' hsome.1
  · cases hnull.2

theorem StateSpec.supplied_of_build {s : StateSpec} {node : Node σ} (h : s.build scope = .ok node) :
    node.Supplied scope := by
  obtain ⟨on, hon, h⟩ := ok_of_bind h
  obtain ⟨entry, hentry, h⟩ := ok_of_bind h
  obtain ⟨exit, hexit, h⟩ := ok_of_bind h
  cases h
  refine ⟨fun q hq ↦ ?_, ActionSpec.supplied_of_mapM hentry, ActionSpec.supplied_of_mapM hexit⟩
  obtain ⟨_, -, hbuild⟩ := mem_of_mapM hon q hq
  obtain ⟨t, ht, hbuild⟩ := ok_of_bind hbuild
  cases hbuild
  exact TransitionSpec.supplied_of_build ht

namespace Manifest

theorem supplied_of_build {m : Manifest} {machine : Machine σ} (h : m.build scope = .ok machine) :
    machine.Supplied scope := by
  intro p hp
  obtain ⟨_, -, hbuild⟩ := mem_of_mapM (states_of_build h) p hp
  obtain ⟨node, hnode, hbuild⟩ := ok_of_bind hbuild
  cases hbuild
  exact StateSpec.supplied_of_build hnode

namespace Origin

variable {d : Origin} {machine : Machine σ}

/-- A machine that is loaded is built of a document. -/
theorem build_of_load (h : d.load scope = .ok machine) : ∃ m : Manifest, m.build scope = .ok machine := by
  have hvalue : ∃ source v, loadValue scope source v = .ok machine := by
    cases d with
    | value source v => exact ⟨source, v, h⟩
    | text source text => exact ⟨source, loadValue_of_loadText h⟩
    | file files here path =>
      obtain ⟨text, htext⟩ := loadText_of_loadFile h
      exact ⟨path.text, loadValue_of_loadText htext⟩
  obtain ⟨source, v, hload⟩ := hvalue
  obtain ⟨m, -, hbuild⟩ := build_of_loadValue hload
  exact ⟨m, hbuild⟩

theorem accepted_of_load (h : d.load scope = .ok machine) : machine.Accepted := by
  cases d with
  | value => exact .value h
  | text => exact .text h
  | file => exact .file h

/-- Nothing gets into a machine that is loaded but what is callable or registered. -/
theorem supplied_of_load (h : d.load scope = .ok machine) : machine.Supplied scope := by
  obtain ⟨m, hbuild⟩ := build_of_load h
  exact supplied_of_build hbuild

end Origin

end Manifest

/-! ### Failures -/

namespace Machine

variable {m : Machine σ} {node : Node σ} {callee : Callee σ}

/-- The assignments of a node are callable, and a guard of it is callable or registered. -/
theorem callable_or_guard (hnode : node.Supplied scope) (h : callee ∈ nodeCallables node) :
    callee.isCallable = true ∨ (scope.Registers callee ∧ ∃ q ∈ node.on, q.2.guard = some callee) := by
  have hassignment {actions : List (Action σ)} (hactions : ∀ a ∈ actions, a.Supplied scope)
      (h : callee ∈ actions.filterMap Action.assignment?) : callee.isCallable = true := by
    obtain ⟨a, ha, hassigned⟩ := List.mem_filterMap.mp h
    have hsupplied := hactions a ha
    cases a with
    | assign f =>
      cases hassigned
      exact hsupplied
    | effect e => cases hassigned
  simp only [nodeCallables, List.mem_append, List.filterMap_append, List.mem_flatMap] at h
  rcases h with (hentry | hexit) | ⟨q, hq, hguard | hactions⟩
  · exact .inl (hassignment hnode.entry hentry)
  · exact .inl (hassignment hnode.exit hexit)
  · have hguard : q.2.guard = some callee := by simpa using hguard
    exact ((hnode.on q hq).guard callee hguard).imp_right fun hregistered ↦ ⟨hregistered, q, hq, hguard⟩
  · exact .inl (hassignment (hnode.on q hq).actions hactions)

end Machine

/-- A reference names something callable, unless the registry holds something else under it. Assumes a registry and
modules of any values. What is hit in a module and is not callable is refused, with its kind. In every machine that is
loaded from a value, a text or a file the assignments are callable, and guards and effects are callable or values of the
registry other than null. In a declared state, at an event whose kind can be a key, only a guard or an assignment of the
machine that is callable fails, or a guard that is such a value. -/
theorem callable_unless_registered (scope : Scope σ) :
    (∀ reference c, scope.resolve reference = .ok c →
      c.isCallable = true ∨ scope.registry.lookup reference = some c) ∧
    (∀ reference path name v, scope.Hits reference path name (.inert v) → scope.resolve reference =
      .error (.unresolved reference ("'" ++ name ++ "' is not callable (got " ++ v.kindName ++ ")"))) ∧
    ∀ (d : Manifest.Origin) (machine : Machine σ), d.load scope = .ok machine → machine.Supplied scope ∧
      ∀ (s : State σ) (event : Event) f, machine.HasState s.value → event.kind.isKey = true →
        machine.transition s event = .error f →
          ∃ p ∈ machine.states, ∃ callee ∈ Machine.nodeCallables p.2,
            (∃ context, callee.apply context event = .error f) ∧
            (callee.isCallable = true ∨ (scope.Registers callee ∧ ∃ q ∈ p.2.on, q.2.guard = some callee)) := by
  refine ⟨fun reference c h ↦ Scope.callable_or_registered h, fun reference path name v h ↦ h.refused, ?_⟩
  intro d machine hload
  have hsupplied := Manifest.Origin.supplied_of_load hload
  refine ⟨hsupplied, fun s event f hs hkey hfails ↦ ?_⟩
  have hclosed := (Manifest.Origin.accepted_of_load hload).closed
  obtain ⟨p, hp, callee, hcallee, hraised⟩ := Machine.raises_of_transition hclosed hs hkey hfails
  exact ⟨p, hp, callee, hcallee, hraised, Machine.callable_or_guard (hsupplied p hp) hcallee⟩

/-- A callable that fails at every event. -/
def failing : Callee Unit := .function (some "ask") fun _ _ ↦ .error .missingKey

/-- A registry with a callable, and a module with an attribute that is not callable. -/
def furnished : Scope Unit := ⟨[("ask", failing)], [("lamp", .attributes [("limit", .inert (.int 5))])]⟩

theorem furnished_hits : furnished.Hits "lamp.limit" "lamp" "limit" (.inert (.int 5)) :=
  ⟨rfl, rfl, by decide, by simp, _, rfl, rfl⟩

/-- The registered callable is named as it is, the attribute of the module is refused, and the machine whose guard the
callable is fails with it. -/
theorem callable_unless_registered_of_furnished :
    (failing.isCallable = true ∨ furnished.registry.lookup "ask" = some failing) ∧
    furnished.Hits "lamp.limit" "lamp" "limit" (.inert (.int 5)) ∧
    furnished.resolve "lamp.limit" = .error (.unresolved "lamp.limit" "'limit' is not callable (got int)") ∧
    ∃ machine, (Manifest.Origin.value Manifest.dataSource (Manifest.guardedBy "ask")).load furnished = .ok machine ∧
      machine.Supplied furnished ∧ ∃ p ∈ machine.states, ∃ callee ∈ Machine.nodeCallables p.2,
        ∃ context, callee.apply context ⟨.text "GO", []⟩ = .error .missingKey := by
  obtain ⟨hnames, hrefuses, hloads⟩ := callable_unless_registered furnished
  have hload : (Manifest.Origin.value Manifest.dataSource (Manifest.guardedBy "ask")).load furnished = .ok _ := rfl
  obtain ⟨hsupplied, hfails⟩ := hloads _ _ hload
  obtain ⟨p, hp, callee, hcallee, hraised, -⟩ := hfails ⟨.text "A", .table [], [], false⟩ ⟨.text "GO", []⟩ _
    ⟨rfl, _, List.mem_singleton.mpr rfl, rfl⟩ rfl rfl
  exact ⟨hnames "ask" _ rfl, furnished_hits, hrefuses _ _ _ _ furnished_hits, _, hload, hsupplied, p, hp, callee,
    hcallee, hraised⟩

/-- A number that the registry holds is named by its reference. As a guard it gets into a machine, whose transition
fails because the number is no function. -/
theorem number_named : ∃ scope : Scope Unit, scope.resolve "limit" = .ok (.inert (.int 5)) ∧
    ∃ machine, (Manifest.Origin.value Manifest.dataSource (Manifest.guardedBy "limit")).load scope = .ok machine ∧
      (∃ p ∈ machine.states, ∃ q ∈ p.2.on, q.2.guard = some (.inert (.int 5))) ∧
      machine.transition ⟨.text "A", .table [], [], false⟩ ⟨.text "GO", []⟩ = .error .wrongType :=
  ⟨⟨[("limit", .inert (.int 5))], []⟩, rfl, _, rfl, ⟨_, List.mem_singleton.mpr rfl, _, List.mem_singleton.mpr rfl, rfl⟩,
    rfl⟩

end Statechart
