import Statechart.Proofs.Compilation

/-!
# Documents that cannot be loaded

A document is loaded from a value, from a text or from a file (`Manifest.Origin`). Whatever goes wrong with it is
reported with its source, a few causes apart, which pass all handlers (`Manifest.Origin.Escapes`): a file that is no
text or cannot have its name, a text that is refused for another reason than its form, a reference with an empty or a
relative module path, and values that cannot be written (`load_reports`). The check of a machine made from a document
is none of them, for all its states, events and targets are texts (`Machine.reported_of_check`).
-/

set_option autoImplicit false
set_option relaxedAutoImplicit false

namespace Statechart

variable {σ : Type}

section

variable {α β : Type} {e : Failure}

/-- What fails in two steps fails in the first or in the second. -/
theorem error_of_bind {x : Outcome α} {f : α → Outcome β} (h : x >>= f = .error e) :
    x = .error e ∨ ∃ a, x = .ok a ∧ f a = .error e := by
  cases x with
  | error e' =>
    rw [error_bind] at h
    cases h
    exact .inl rfl
  | ok a => exact .inr ⟨a, rfl, h⟩

theorem error_of_mapM {xs : List α} {f : α → Outcome β} (h : xs.mapM f = .error e) : ∃ x ∈ xs, f x = .error e := by
  induction xs with
  | nil => cases h
  | cons x xs ih =>
    rw [List.mapM_cons] at h
    rcases error_of_bind h with hx | ⟨y, -, h⟩
    · exact ⟨x, by simp, hx⟩
    · rcases error_of_bind h with hxs | ⟨ys, -, h⟩
      · obtain ⟨x', hx', hfails⟩ := ih hxs
        exact ⟨x', List.mem_cons_of_mem x hx', hfails⟩
      · cases h

theorem error_of_forM {xs : List α} {f : α → Outcome Unit} (h : xs.forM f = .error e) : ∃ x ∈ xs, f x = .error e := by
  induction xs with
  | nil => cases h
  | cons x xs ih =>
    rcases error_of_bind h with hx | ⟨_, -, hxs⟩
    · exact ⟨x, by simp, hx⟩
    · obtain ⟨x', hx', hfails⟩ := ih hxs
      exact ⟨x', List.mem_cons_of_mem x hx', hfails⟩

/-- A pass over a list that succeeds gives one result for each element, in its place. -/
theorem getElem?_of_mapM {xs : List α} {f : α → Outcome β} {ys : List β} (h : xs.mapM f = .ok ys) :
    ys.length = xs.length ∧ ∀ (i : Nat) (x : α), xs[i]? = some x → ∃ y, ys[i]? = some y ∧ f x = .ok y := by
  induction xs generalizing ys with
  | nil =>
    cases h
    simp
  | cons x xs ih =>
    rw [List.mapM_cons] at h
    obtain ⟨y, hy, h⟩ := ok_of_bind h
    obtain ⟨rest, hrest, h⟩ := ok_of_bind h
    cases h
    obtain ⟨hlength, helements⟩ := ih hrest
    refine ⟨by simp [hlength], fun i x' hx' ↦ ?_⟩
    cases i with
    | zero =>
      cases hx'
      exact ⟨y, rfl, hy⟩
    | succ i => exact helements i x' hx'

theorem mem_of_mapM {xs : List α} {f : α → Outcome β} {ys : List β} (h : xs.mapM f = .ok ys) :
    ∀ y ∈ ys, ∃ x ∈ xs, f x = .ok y := by
  obtain ⟨hlength, helements⟩ := getElem?_of_mapM h
  intro y hy
  obtain ⟨i, hi⟩ := List.mem_iff_getElem?.mp hy
  have hlt : i < xs.length := hlength ▸ (List.getElem?_eq_some_iff.mp hi).1
  obtain ⟨y', hy', hfound⟩ := helements i xs[i] (List.getElem?_eq_getElem hlt)
  cases hi.symm.trans hy'
  exact ⟨xs[i], List.getElem_mem hlt, hfound⟩

end

/-- A failure that is passed on with the source of the document. -/
def Failure.IsReported : Failure → Prop
  | .unresolved _ _ | .validation _ _ _ => True
  | _ => False

/-- A failure to load a document that names its source. -/
def Failure.Names (source : String) : Failure → Prop
  | .notLoaded s _ | .badManifest s _ => s = source
  | _ => False

/-! ### References -/

namespace Scope

theorem splitAtLastDot_eq_some {name before after : List Char} (h : splitAtLastDot name = some (before, after)) :
    name = before ++ '.' :: after ∧ '.' ∉ after := by
  -- what has no dot is not split
  have hnone {name : List Char} (h : splitAtLastDot name = none) : '.' ∉ name := by
    induction name with
    | nil => simp
    | cons c rest ih =>
      unfold splitAtLastDot at h
      cases hrest : splitAtLastDot rest with
      | some parts => simp [hrest] at h
      | none =>
        simp only [hrest] at h
        split at h
        · cases h
        · next hc =>
          have hc : '.' ≠ c := by
            rintro rfl
            simp at hc
          simp [hc, ih hrest]
  induction name generalizing before with
  | nil => cases h
  | cons c rest ih =>
    unfold splitAtLastDot at h
    cases hrest : splitAtLastDot rest with
    | some parts =>
      obtain ⟨before', after'⟩ := parts
      simp only [hrest, Option.some.injEq, Prod.mk.injEq] at h
      obtain ⟨rfl, rfl⟩ := h
      obtain ⟨hsplit, hafter⟩ := ih hrest
      exact ⟨by rw [hsplit]; rfl, hafter⟩
    | none =>
      simp only [hrest] at h
      split at h
      · next hc =>
        cases h
        exact ⟨by rw [eq_of_beq hc]; rfl, hnone hrest⟩
      · cases h

/-- A reference that fails in a way that no handler of references knows. -/
inductive Escapes (scope : Scope σ) (reference : String) : Failure → Prop
  /-- Nothing stands before the only dot. -/
  | emptyPath {name} (hnew : scope.registry.lookup reference = none) (h : reference.toList = '.' :: name)
      (hname : '.' ∉ name) : Escapes scope reference .badValue
  /-- What stands before the last dot begins with a dot. -/
  | relativePath {path name} (hnew : scope.registry.lookup reference = none)
      (h : reference.toList = '.' :: path ++ '.' :: name) (hname : '.' ∉ name) : Escapes scope reference .wrongType
  /-- What is registered is not callable, and cannot be written either. -/
  | unwritable {v} (h : scope.registry.lookup reference = some (.inert v)) (hv : v.isWritable = false) :
      Escapes scope reference .badValue

variable {scope : Scope σ} {reference : String} {f : Failure}

theorem escapes_of_resolve (h : scope.resolve reference = .error f) : f.IsReported ∨ scope.Escapes reference f := by
  unfold resolve at h
  split at h
  · cases h
  · next hnew =>
    split at h
    · cases h
      exact .inl trivial
    · next path name hsplit =>
      obtain ⟨hreference, hname⟩ := splitAtLastDot_eq_some hsplit
      unfold resolveIn at h
      split at h
      · next hempty =>
        cases h
        have hpath : path = [] := by simpa using hempty
        subst hpath
        exact .inr (.emptyPath hnew hreference hname)
      · split at h
        · next hrelative =>
          cases h
          cases path with
          | nil => simp at hrelative
          | cons c path =>
            have hc : '.' = c := by simpa using hrelative
            subst hc
            exact .inr (.relativePath hnew hreference hname)
        · split at h
          · unfold callableIn at h
            split at h
            · cases h
              exact .inl trivial
            · cases h
            · cases h
              exact .inl trivial
          · cases h
            exact .inl trivial
          · cases h
            exact .inl trivial

end Scope

/-! ### Building a document -/

/-- What lets a document pass all handlers: one of its references, or a name that cannot be written. -/
inductive Manifest.Escapes (scope : Scope σ) (m : Manifest) : Failure → Prop
  | reference {reference f} (hmem : reference ∈ m.references) (h : scope.Escapes reference f) : Escapes scope m f
  | name (h : ((m.metadata.lookup "name").getD (.text "machine")).isWritable = false) : Escapes scope m .badValue

/-- A failure is reported, or one of the references escapes with it. -/
def Scope.Accounts (scope : Scope σ) (references : List String) (f : Failure) : Prop :=
  f.IsReported ∨ ∃ reference ∈ references, scope.Escapes reference f

section

variable {scope : Scope σ} {references more : List String} {f : Failure}

theorem Scope.Accounts.mono (h : scope.Accounts references f) (hsubset : references ⊆ more) : scope.Accounts more f :=
  h.imp_right fun ⟨reference, hmem, hescapes⟩ ↦ ⟨reference, hsubset hmem, hescapes⟩

theorem Scope.accounts_of_resolve {reference : String} (h : scope.resolve reference = .error f) :
    scope.Accounts [reference] f :=
  (escapes_of_resolve h).imp_right fun hescapes ↦ ⟨reference, by simp, hescapes⟩

/-- What a list of entries resolves accounts for the failure of one of them. -/
theorem Scope.accounts_of_mapM {α β : Type} {xs : List α} {build : α → Outcome β} {references : α → List String}
    (hbuild : ∀ x ∈ xs, ∀ f, build x = .error f → scope.Accounts (references x) f) (h : xs.mapM build = .error f) :
    scope.Accounts (xs.flatMap references) f := by
  obtain ⟨x, hx, hfails⟩ := error_of_mapM h
  exact (hbuild x hx f hfails).mono fun reference hmem ↦ List.mem_flatMap.mpr ⟨x, hx, hmem⟩

/-- Only what stands in the registry is not callable. -/
theorem Scope.registered_of_inert {reference : String} {v : Value} (h : scope.resolve reference = .ok (.inert v)) :
    scope.registry.lookup reference = some (.inert v) := by
  unfold resolve at h
  split at h
  · next hfound =>
    cases h
    exact hfound
  · split at h
    · cases h
    · cases isCallable_of_resolveIn h

theorem ActionSpec.accounts_of_build {a : ActionSpec} (h : a.build scope = .error f) :
    scope.Accounts a.references f := by
  unfold build at h
  unfold references
  cases hassign : a.assign with
  | some reference =>
    rw [hassign] at h
    rcases error_of_bind h with hresolve | ⟨c, hc, hassignment⟩
    · exact Scope.accounts_of_resolve hresolve
    · cases c with
      | inert v =>
        -- what is registered is refused as an assignment
        change Except.error (Failure.refusing _ _ v) = _ at hassignment
        unfold Failure.refusing at hassignment
        split at hassignment
        · cases hassignment
          exact .inl trivial
        · next hv =>
          cases hassignment
          have hregistered := Scope.registered_of_inert hc
          exact .inr ⟨reference, by simp, .unwritable hregistered (by simpa using hv)⟩
      | function | effect => cases hassignment
  | none =>
    cases hvalues : a.assignValues with
    | some values =>
      rw [hassign, hvalues] at h
      cases h
    | none =>
      cases heffect : a.effect with
      | some reference =>
        rw [hassign, hvalues, heffect] at h
        rcases error_of_bind h with hresolve | ⟨c, -, hreturn⟩
        · exact Scope.accounts_of_resolve hresolve
        · cases hreturn
      | none =>
        rw [hassign, hvalues, heffect] at h
        cases h

theorem TransitionSpec.accounts_of_buildGuard {guard : Option String} (h : buildGuard scope guard = .error f) :
    scope.Accounts guard.toList f := by
  unfold buildGuard at h
  split at h
  · cases h
  · cases h
  · rcases error_of_bind h with hresolve | ⟨c, -, hreturn⟩
    · exact Scope.accounts_of_resolve hresolve
    · split at hreturn <;> cases hreturn

theorem TransitionSpec.accounts_of_build {t : TransitionSpec} (h : t.build scope = .error f) :
    scope.Accounts t.references f := by
  rcases error_of_bind h with hguard | ⟨guard, -, h⟩
  · exact (accounts_of_buildGuard hguard).mono (List.subset_append_left _ _)
  · rcases error_of_bind h with hactions | ⟨actions, -, hreturn⟩
    · have haccounts := Scope.accounts_of_mapM (fun a _ f ha ↦ ActionSpec.accounts_of_build ha) hactions
      exact haccounts.mono (List.subset_append_right _ _)
    · cases hreturn

theorem StateSpec.accounts_of_build {s : StateSpec} (h : s.build scope = .error f) :
    scope.Accounts s.references f := by
  have hactions {actions : List ActionSpec} {f : Failure} (h : actions.mapM (ActionSpec.build scope) = .error f) :
      scope.Accounts (actions.flatMap ActionSpec.references) f :=
    Scope.accounts_of_mapM (fun a _ f ha ↦ ActionSpec.accounts_of_build ha) h
  rcases error_of_bind h with hon | ⟨on, -, h⟩
  · have haccounts : scope.Accounts (s.on.flatMap fun p ↦ p.2.references) f := by
      refine Scope.accounts_of_mapM (fun p _ f hp ↦ ?_) hon
      rcases error_of_bind hp with ht | ⟨t, -, hreturn⟩
      · exact TransitionSpec.accounts_of_build ht
      · cases hreturn
    exact haccounts.mono (List.subset_append_left _ _)
  · rcases error_of_bind h with hentry | ⟨entry, -, h⟩
    · exact (hactions hentry).mono fun reference hmem ↦ by simp [references, hmem]
    · rcases error_of_bind h with hexit | ⟨exit, -, hreturn⟩
      · exact (hactions hexit).mono fun reference hmem ↦ by simp [references, hmem]
      · cases hreturn

end

/-! ### The check of texts -/

/-- A value that is a text. -/
def Value.IsText (v : Value) : Prop := ∃ s, v = .text s

namespace Value.IsText

variable {v : Value}

theorem isKey (h : v.IsText) : v.isKey = true := by
  obtain ⟨s, rfl⟩ := h
  rfl

theorem isWritable (h : v.IsText) : v.isWritable = true := by
  obtain ⟨s, rfl⟩ := h
  rfl

theorem literal? (h : v.IsText) : v.literal? = .ok v.literal := if_pos h.isWritable

theorem shown? (h : v.IsText) : v.shown? = .ok v.shown := if_pos h.isWritable

theorem refusing (h : v.IsText) (field constraint : String) :
    Failure.refusing field constraint v = .validation field constraint v := if_pos h.isWritable

end Value.IsText

theorem sortedLiteral_of_texts {vs : List Value} (h : ∀ v ∈ vs, v.IsText) :
    sortedLiteral vs = .ok (textsLiteral (Text.sorted (vs.map Value.shown))) := by
  have hshown : vs.mapM Value.shown? = .ok (vs.map Value.shown) := by
    induction vs with
    | nil => rfl
    | cons v rest ih =>
      obtain ⟨hv, hrest⟩ := List.forall_mem_cons.mp h
      rw [List.mapM_cons, hv.shown?, ih hrest]
      rfl
  unfold sortedLiteral
  rw [hshown]
  rfl

namespace Machine

/-- All states, events and targets of a machine are texts. -/
structure Textual (m : Machine σ) : Prop where
  initial : m.initial.IsText
  states : ∀ p ∈ m.states, p.1.IsText
  on : ∀ p ∈ m.states, ∀ q ∈ p.2.on, q.1.IsText ∧ ∀ target ∈ q.2.target, target.IsText
  events : ∀ kinds ∈ m.events, ∀ kind ∈ kinds, kind.IsText

theorem declares_of_isText {states : List (Value × Node σ)} {v : Value} (h : v.IsText) :
    declares states v = .ok (Entries.contains states v) := if_pos h.isKey

theorem reported_of_checkTransition {states : List (Value × Node σ)} {events : Option (List Value)}
    {state event : Value} {t : Transition σ} {f : Failure}
    (h : checkTransition states events state event t = .error f) (hstate : state.IsText) (hevent : event.IsText)
    (htarget : ∀ target ∈ t.target, target.IsText) (hevents : ∀ kinds ∈ events, ∀ kind ∈ kinds, kind.IsText) :
    f.IsReported := by
  have hrefused {field constraint : String} {v : Value} (hv : v.IsText)
      (h : (throw (Failure.refusing field constraint v) : Outcome Unit) = .error f) : f.IsReported := by
    rw [hv.refusing] at h
    cases h
    trivial
  unfold checkTransition at h
  extract_lets checked at h
  -- what is wrong with the target
  have hchecked (h : checked () = .error f) : f.IsReported := by
    simp only [checked] at h
    split at h
    · cases h
    · next target hsome =>
      rw [declares_of_isText (htarget target hsome), hstate.literal?, hevent.shown?] at h
      simp only [ok_bind] at h
      split at h
      · cases h
      · exact hrefused (htarget target hsome) h
  cases events with
  | none => exact hchecked h
  | some kinds =>
    dsimp only at h
    split at h
    · exact hchecked h
    · rw [hstate.literal?, sortedLiteral_of_texts (hevents kinds rfl)] at h
      simp only [ok_bind] at h
      rcases error_of_bind h with h | ⟨_, hthrow, -⟩
      · exact hrefused hevent h
      · rw [hevent.refusing] at hthrow
        cases hthrow

theorem reported_of_checkStates {all states : List (Value × Node σ)} {events : Option (List Value)} {f : Failure}
    (h : checkStates all events states = .error f) (hstates : ∀ p ∈ states, p.1.IsText)
    (hon : ∀ p ∈ states, ∀ q ∈ p.2.on, q.1.IsText ∧ ∀ target ∈ q.2.target, target.IsText)
    (hevents : ∀ kinds ∈ events, ∀ kind ∈ kinds, kind.IsText) : f.IsReported := by
  induction states with
  | nil => cases h
  | cons p rest ih =>
    obtain ⟨hp, hrest⟩ := List.forall_mem_cons.mp hstates
    obtain ⟨honp, honrest⟩ := List.forall_mem_cons.mp hon
    rcases error_of_bind h with hfirst | ⟨_, -, hlater⟩
    · obtain ⟨q, hq, hfails⟩ := error_of_forM hfirst
      exact reported_of_checkTransition hfails hp (honp q hq).1 (honp q hq).2 hevents
    · exact ih hlater hrest honrest

/-- The check of a machine whose references are texts has nothing to complain of but what is reported. -/
theorem reported_of_check {m : Machine σ} (hm : m.Textual) {f : Failure} (h : m.check = .error f) : f.IsReported := by
  unfold check at h
  extract_lets checkReferences checked at h
  have hchecked (h : checked () = .error f) : f.IsReported := by
    simp only [checked, declares_of_isText hm.initial, ok_bind] at h
    have hkeys : ∀ v ∈ Entries.keys m.states, v.IsText := by
      intro v hv
      obtain ⟨p, hp, rfl⟩ := List.mem_map.mp hv
      exact hm.states p hp
    rw [sortedLiteral_of_texts hkeys] at h
    split at h
    · simp only [ok_bind, hm.initial.refusing] at h
      cases h
      trivial
    · exact reported_of_checkStates h hm.states hm.on hm.events
  split at h
  · cases h
    trivial
  · exact hchecked h

end Machine

section

variable {scope : Scope σ}

theorem TransitionSpec.target_of_build {t : TransitionSpec} {built : Transition σ} (h : t.build scope = .ok built) :
    built.target = t.target.map .text := by
  obtain ⟨guard, -, h⟩ := ok_of_bind h
  obtain ⟨actions, -, h⟩ := ok_of_bind h
  cases h
  rfl

theorem StateSpec.texts_of_build {s : StateSpec} {node : Node σ} (h : s.build scope = .ok node) :
    ∀ q ∈ node.on, q.1.IsText ∧ ∀ target ∈ q.2.target, target.IsText := by
  obtain ⟨on, hon, h⟩ := ok_of_bind h
  obtain ⟨entry, -, h⟩ := ok_of_bind h
  obtain ⟨exit, -, h⟩ := ok_of_bind h
  cases h
  intro q hq
  obtain ⟨p, -, hp⟩ := mem_of_mapM hon q hq
  obtain ⟨t, ht, hp⟩ := ok_of_bind hp
  cases hp
  refine ⟨⟨p.1, rfl⟩, fun target htarget ↦ ?_⟩
  rw [TransitionSpec.target_of_build ht] at htarget
  obtain ⟨text, -, htext⟩ := Option.map_eq_some_iff.mp htarget
  exact ⟨text, htext.symm⟩

end

namespace Manifest

/-- The kinds of events of a document are a set of texts. -/
theorem eventSet_kinds (m : Manifest) :
    ∃ events, eventSet m.kinds = .ok events ∧ ∀ kinds ∈ events, ∀ kind ∈ kinds, kind.IsText := by
  unfold kinds
  cases m.spec.events with
  | none => exact ⟨none, rfl, by simp⟩
  | some kinds =>
    have htexts : ∀ v ∈ kinds.map Value.text, v.IsText := by simp [Value.IsText]
    have hkeys : (kinds.map Value.text).all Value.isKey = true :=
      List.all_eq_true.mpr fun v hv ↦ (htexts v hv).isKey
    have hdistinct : distinctKeys (kinds.map Value.text) = .ok ((kinds.map Value.text).foldl gather []) :=
      if_pos hkeys
    refine ⟨some ((kinds.map Value.text).foldl gather []), ?_, ?_⟩
    · change (do return some (← distinctKeys (kinds.map Value.text))) = _
      rw [hdistinct]
      rfl
    · rintro gathered ⟨⟩ kind hkind
      exact htexts kind (foldl_gather_subset [] _ kind hkind)

variable {scope : Scope σ} {m : Manifest} {f : Failure}

/-- Whatever keeps a document from being built is reported, or escapes. -/
theorem escapes_of_build (h : m.build scope = .error f) : f.IsReported ∨ m.Escapes scope f := by
  rcases error_of_bind h with hstates | ⟨states, hstates, h⟩
  · have haccounts : scope.Accounts m.references f := by
      refine Scope.accounts_of_mapM (fun p _ f hp ↦ ?_) hstates
      rcases error_of_bind hp with hs | ⟨node, -, hreturn⟩
      · exact StateSpec.accounts_of_build hs
      · cases hreturn
    exact haccounts.imp_right fun ⟨reference, hmem, hescapes⟩ ↦ .reference hmem hescapes
  · rcases error_of_bind h with hname | ⟨name, -, h⟩
    · unfold Manifest.name Value.shown? at hname
      split at hname
      · cases hname
      · next hwritable =>
        cases hname
        exact .inr (.name (by simpa using hwritable))
    · obtain ⟨events, hevents, htexts⟩ := m.eventSet_kinds
      have hparts : Machine.check ⟨.text m.spec.initial, states, .ofFields m.spec.context, events, .text name⟩ =
          .error f := by
        change Machine.ofParts _ _ _ m.kinds _ = _ at h
        simp only [Machine.ofParts, Machine.nodesOf_built, hevents, ok_bind] at h
        rcases error_of_bind h with hcheck | ⟨_, -, hreturn⟩
        · exact hcheck
        · cases hreturn
      -- whatever the references name, the states, events and targets are those of the document
      have hnodes (p : Value × Node σ) (hp : p ∈ states) :
          p.1.IsText ∧ ∀ q ∈ p.2.on, q.1.IsText ∧ ∀ target ∈ q.2.target, target.IsText := by
        obtain ⟨entry, -, hentry⟩ := mem_of_mapM hstates p hp
        obtain ⟨node, hnode, hentry⟩ := ok_of_bind hentry
        cases hentry
        exact ⟨⟨entry.1, rfl⟩, StateSpec.texts_of_build hnode⟩
      refine .inl (Machine.reported_of_check ?_ hparts)
      exact ⟨⟨m.spec.initial, rfl⟩, fun p hp ↦ (hnodes p hp).1, fun p hp ↦ (hnodes p hp).2, htexts⟩

/-! ### Loading -/

/-- A document that is loaded: a value, a text, or a file. -/
inductive Origin where
  | value (source : String) (v : Value)
  | text (source text : String)
  | file (files : Files) (here path : Path)

namespace Origin

/-- The source that is named: as given, or the path. -/
def source : Origin → String
  | .value source _ => source
  | .text source _ => source
  | .file _ _ path => path.text

def load (scope : Scope σ) : Origin → Outcome (Machine σ)
  | .value source v => loadValue scope source v
  | .text source s => loadText scope source s
  | .file files here path => loadFile scope files here path

/-- The causes that pass all handlers of the loader. -/
inductive Escapes (scope : Scope σ) : Origin → Failure → Prop
  | document {source v m f} (h : read v = .ok m) (hm : m.Escapes scope f) : Escapes scope (.value source v) f
  | text {source text v f} (h : Yaml.load text = .ok v) (hv : Escapes scope (.value source v) f) :
      Escapes scope (.text source text) f
  /-- A text that cannot be read for another reason than its form. -/
  | unreadable {source text f} (h : Yaml.load text = .error f) (hf : ∀ reason, f ≠ .fault .badYaml reason) :
      Escapes scope (.text source text) f
  | file {files here path text f} (h : Files.readText files here path = .ok text)
      (ht : Escapes scope (.text path.text text) f) : Escapes scope (.file files here path) f
  /-- No file can have the name. -/
  | unnameable {files here path} (h : Files.find files here path = .unnameable) :
      Escapes scope (.file files here path) .badValue
  /-- The file is no text. -/
  | undecodable {files here path bytes} (h : Files.find files here path = .file bytes)
      (hbytes : String.fromUTF8? ⟨bytes.toArray⟩ = none) : Escapes scope (.file files here path) (.plain .undecodable)

/-- A load gives a machine or fails with its source. -/
def Reports (scope : Scope σ) (d : Origin) : Prop :=
  (∃ machine, d.load scope = .ok machine) ∨ ∃ f, d.load scope = .error f ∧ f.Names d.source

end Origin

theorem names_of_withSource {α : Type} {source : String} {f' : Failure}
    (h : withSource source (.error f' : Outcome α) = .error f) : f' = f ∨ f.Names source := by
  unfold withSource at h
  dsimp only at h
  split at h
  · cases h
    exact .inr rfl
  · cases h
    exact .inr rfl
  · cases h
    exact .inl rfl

theorem names_of_loadValue {source : String} {v : Value} (h : loadValue scope source v = .error f) :
    f.Names source ∨ (Origin.value source v).Escapes scope f := by
  unfold loadValue at h
  split at h
  · split at h
    · cases h
      exact .inl rfl
    · next m hread =>
      cases hbuild : m.build scope with
      | ok machine =>
        rw [hbuild] at h
        cases h
      | error f' =>
        rw [hbuild] at h
        rcases escapes_of_build hbuild with hreported | hescapes
        · refine .inl ?_
          cases f' with
          | unresolved | validation =>
            change Except.error (Failure.notLoaded source _) = _ at h
            cases h
            rfl
          | _ => cases hreported
        · rcases names_of_withSource h with rfl | hnames
          · exact .inr (.document hread hescapes)
          · exact .inl hnames
  · cases h
    exact .inl rfl

theorem names_of_loadText {source text : String} (h : loadText scope source text = .error f) :
    f.Names source ∨ (Origin.text source text).Escapes scope f := by
  unfold loadText at h
  split at h
  · next v hload => exact (names_of_loadValue h).imp_right (.text hload)
  · cases h
    exact .inl rfl
  · next f' hmalformed hload =>
    cases h
    exact .inr (.unreadable hload fun reason hf ↦ hmalformed reason hf)

/-- A file that cannot be read fails with the file system's own fault, or for its name or its bytes. -/
theorem names_of_loadFile {files : Files} {here path : Path} (h : loadFile scope files here path = .error f) :
    f.Names path.text ∨ (Origin.file files here path).Escapes scope f := by
  unfold loadFile at h
  cases htext : files.readText here path with
  | ok text =>
    rw [htext] at h
    exact (names_of_loadText h).imp_right (.file htext)
  | error f' =>
    rw [htext] at h
    rcases error_of_bind htext with hread | ⟨bytes, hread, htext⟩
    · unfold Files.read at hread
      cases hfound : files.find here path with
      | file bytes => simp [hfound] at hread
      | unnameable =>
        rw [hfound] at hread
        cases hread
        cases h
        exact .inr (.unnameable hfound)
      | directory | missing | blocked | tooLong =>
        rw [hfound] at hread
        cases hread
        cases h
        exact .inl rfl
    · rcases error_of_bind htext with hdecode | ⟨_, -, hreturn⟩
      · have hfound : files.find here path = .file bytes := by
          unfold Files.read at hread
          split at hread <;> cases hread
          assumption
        unfold Files.decode at hdecode
        split at hdecode
        · cases hdecode
        · next hbytes =>
          cases hdecode
          cases h
          exact .inr (.undecodable hfound hbytes)
      · cases hreturn

/-- A document that is loaded gives a machine or fails with its source, the causes apart that pass all handlers. -/
theorem load_reports (scope : Scope σ) (d : Origin) :
    d.Reports scope ∨ ∃ f, d.load scope = .error f ∧ d.Escapes scope f := by
  cases hload : d.load scope with
  | ok machine => exact .inl (.inl ⟨machine, hload⟩)
  | error f =>
    have hnames : f.Names d.source ∨ d.Escapes scope f := by
      cases d with
      | value source v => exact names_of_loadValue hload
      | text source text => exact names_of_loadText hload
      | file files here path => exact names_of_loadFile hload
    rcases hnames with hnames | hescapes
    · exact .inl (.inr ⟨f, hload, hnames⟩)
    · exact .inr ⟨f, rfl, hescapes⟩

theorem Origin.not_reports {d : Origin} (h : d.load scope = .error f) (hf : ¬ f.Names d.source) :
    ¬ d.Reports scope := by
  rintro (⟨machine, hmachine⟩ | ⟨f', hf', hnames⟩)
  · cases h.symm.trans hmachine
  · cases h.symm.trans hf'
    exact hf hnames

/-- A document with one transition, whose guard is a reference. -/
def guardedBy (reference : String) : Value :=
  .ofFields [("kind", .text "Machine"), ("spec", .ofFields [("initial", .text "A"),
    ("states", .ofFields [("A", .ofFields [("on", .ofFields [("GO", .ofFields
      [("target", .text "A"), ("cond", .text reference)])])])])])]

/-- What is read from it. -/
def guarded (reference : String) : Manifest where
  spec := { initial := "A", states := [("A", { on := [("GO", { target := some "A", guard := some reference })] })] }

/-- It is loaded as far as the reference goes. -/
theorem load_guardedBy (reference : String) (hempty : reference ≠ "")
    (h : Scope.resolve ({} : Scope σ) reference = .error f) :
    (Origin.value dataSource (guardedBy reference)).load ({} : Scope σ) = withSource dataSource (.error f) := by
  have hguards : (guarded reference).NamesGuards := by
    simp [NamesGuards, guarded, hempty]
  have hreferences : (guarded reference).references = [reference] := rfl
  change withSource dataSource ((guarded reference).build {}) = _
  rw [build_eq (by simp) hguards, hreferences, Scope.resolveAll, h]
  rfl

/-- One file, whose only byte begins no text. -/
def undecodable : Files where
  contents := [(["m.yaml"], [0xff])]

/-- An empty module path, a relative one and a file that is no text are not reported. -/
theorem loads_escape :
    ¬ (Origin.value dataSource (guardedBy ".run")).Reports ({} : Scope Unit) ∧
    ¬ (Origin.value dataSource (guardedBy "..a.run")).Reports ({} : Scope Unit) ∧
    ¬ (Origin.file undecodable ⟨"/", []⟩ ⟨"", ["m.yaml"]⟩).Reports ({} : Scope Unit) := by
  have hempty : (Origin.value dataSource (guardedBy ".run")).load ({} : Scope Unit) = .error .badValue :=
    load_guardedBy ".run" (by decide) rfl
  have hrelative : (Origin.value dataSource (guardedBy "..a.run")).load ({} : Scope Unit) = .error .wrongType := by
    have hresolve : Scope.resolve ({} : Scope Unit) "..a.run" = .error .wrongType := by
      have hsplit : Scope.splitAtLastDot "..a.run".toList = some ("..a".toList, "run".toList) := rfl
      rw [Scope.resolve_of_split rfl hsplit, Scope.resolveIn, if_neg (by decide), if_pos (by simp)]
    exact load_guardedBy "..a.run" (by decide) hresolve
  have hfile : (Origin.file undecodable ⟨"/", []⟩ ⟨"", ["m.yaml"]⟩).load ({} : Scope Unit) =
      .error (.plain .undecodable) := rfl
  exact ⟨Origin.not_reports hempty id, Origin.not_reports hrelative id, Origin.not_reports hfile id⟩

end Manifest

end Statechart
