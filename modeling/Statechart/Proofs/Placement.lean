import Statechart.Proofs.Acceptance
import Statechart.Proofs.Table

/-!
# Where transitions stand

A transition of a document stands in the table of transitions of a state, which has its key in one of two spellings;
where both are used the last one counts (`Manifest.HasTransitions`). Keys that are read as one name count once, too: the
last one does (`Value.Names`). From here a transition is followed to where it ends up: a problem with it is a problem of
the document, at the place where it stands (`Manifest.Stands.reports`), and the transition that is read is the one that
the machine has for the event (`Manifest.Says.built`).
-/

set_option autoImplicit false
set_option relaxedAutoImplicit false

namespace Statechart

/-! ### Keys and names -/

namespace Entries

/-- The entries of a table as a value has them: their keys can be keys, and none of them stands twice. -/
structure AreKeyed (entries : Entries) : Prop where
  hashable : ∀ e ∈ entries, e.1.isKey = true
  distinct : Distinct (keys entries)

end Entries

namespace Manifest

/-- Of entries with one name the last one stands. -/
theorem lookup_merged {α : Type} {before after : List (String × α)} {name : String} {x : α}
    (hafter : ∀ e ∈ after, e.1 ≠ name) : (merged (before ++ (name, x) :: after)).lookup name = some x := by
  have hfound : Entries.get? (Entries.ofList (Entries.named (before ++ (name, x) :: after))) name = some x := by
    have hsplit : Entries.named (before ++ (name, x) :: after) =
        Entries.named before ++ (.text name, x) :: Entries.named after := by
      simp [Entries.named]
    rw [hsplit]
    refine Entries.get?_ofList_of_last rfl rfl (List.forall_mem_map.mpr fun e he ↦ ⟨rfl, ?_⟩)
    simpa [Value.asText?] using hafter e he
  -- all keys are texts, so nothing is lost where the names are read off them
  have hmerged : Entries.named (merged (before ++ (name, x) :: after)) =
      Entries.ofList (Entries.named (before ++ (name, x) :: after)) := by
    rw [Entries.named, merged, List.map_map]
    refine (List.map_congr_left fun e he ↦ ?_).trans (List.map_id _)
    rcases Entries.mem_keys_overlay (List.mem_map_of_mem he) with hnone | hkey
    · simp [Entries.keys] at hnone
    · simp only [Entries.keys, List.map_map, List.mem_map] at hkey
      obtain ⟨e', -, hkey⟩ := hkey
      exact Prod.ext (by simp [← hkey, Value.asText?]) rfl
  rw [← Entries.get?_named, hmerged, hfound]

end Manifest

/-! ### Problems -/

/-- The problem as one of a whole, where its part stands at some places. -/
def Problem.under (places : List Place) (p : Problem) : Problem := { p with location := places ++ p.location }

namespace Checked

variable {α β : Type} {a : Checked α} {b : Checked β} {p : Problem}

/-- A problem is among those that are found. -/
def Reports (a : Checked α) (p : Problem) : Prop := ∃ problems, a = .error problems ∧ p ∈ problems

theorem reports_problem (kind : ProblemKind) (text : String) :
    (problem kind text : Checked α).Reports ⟨[], kind, text⟩ :=
  ⟨_, rfl, List.mem_singleton.mpr rfl⟩

theorem Reports.left (h : a.Reports p) (b : Checked β) : (both a b).Reports p := by
  obtain ⟨problems, rfl, hp⟩ := h
  cases b with
  | ok y => exact ⟨problems, rfl, hp⟩
  | error more => exact ⟨problems ++ more, rfl, List.mem_append_left more hp⟩

theorem Reports.right (h : b.Reports p) (a : Checked α) : (both a b).Reports p := by
  obtain ⟨problems, rfl, hp⟩ := h
  cases a with
  | ok x => exact ⟨problems, rfl, hp⟩
  | error more => exact ⟨more ++ problems, rfl, List.mem_append_right more hp⟩

theorem Reports.map (h : a.Reports p) (f : α → β) : Reports (a.map f) p := by
  obtain ⟨problems, rfl, hp⟩ := h
  exact ⟨problems, rfl, hp⟩

theorem Reports.bind (h : a.Reports p) (f : α → Checked β) : Reports (a >>= f) p := by
  obtain ⟨problems, rfl, hp⟩ := h
  exact ⟨problems, rfl, hp⟩

/-- A problem of a part is a problem of the whole, at the place of the part. -/
theorem Reports.within (h : a.Reports p) (place : Place) : (within place a).Reports (p.under [place]) := by
  obtain ⟨problems, rfl, hp⟩ := h
  exact ⟨_, rfl, List.mem_map_of_mem hp⟩

theorem Reports.all {as : List (Checked α)} (h : a.Reports p) (hmem : a ∈ as) : (all as).Reports p := by
  induction as with
  | nil => cases hmem
  | cons a' rest ih =>
    rcases List.mem_cons.mp hmem with rfl | hrest
    · exact (h.left _).map _
    · exact ((ih hrest).right a').map _

theorem ok_of_bind {f : α → Checked β} {y : β} (h : a >>= f = .ok y) : ∃ x, a = .ok x ∧ f x = .ok y := by
  cases a with
  | error problems => cases h
  | ok x => exact ⟨x, rfl, h⟩

theorem map_eq_ok {f : α → β} {y : β} : Except.map f a = (.ok y : Checked β) ↔ ∃ x, a = .ok x ∧ f x = y := by
  cases a with
  | error problems => exact ⟨nofun, nofun⟩
  | ok x => simp [Except.map]

theorem all_eq_ok {as : List (Checked α)} {xs : List α} : all as = .ok xs ↔ as = xs.map .ok := by
  induction as generalizing xs with
  | nil => cases xs <;> simp [all]
  | cons a rest ih =>
    simp only [all, map_eq_ok, both_eq_ok, Prod.exists, ih]
    cases xs with
    | nil => simp
    | cons x xs => simp

end Checked

/-! ### Parts of documents -/

namespace Value

/-- A value holds another one under the name of a field. -/
def Holds (v : Value) (name : String) (x : Value) : Prop :=
  ∃ entries, v.opened = .table entries ∧ Entries.get? entries name = some x

/-- A value is a table with an entry. -/
def Lists (v key x : Value) : Prop := ∃ entries, v.opened = .table entries ∧ (key, x) ∈ entries

/-- A value is a table with an entry whose key is read as a name; of several ones it is the last. -/
def Names (v : Value) (name : String) (x : Value) : Prop :=
  ∃ before key after, v.opened = .table (before ++ (key, x) :: after) ∧ Manifest.readText key = .ok name ∧
    ∀ e ∈ after, Manifest.readText e.1 ≠ .ok name

end Value

namespace Manifest

section

variable {α : Type} {v x key : Value} {name part : String} {read : Value → Checked α} {p : Problem}

theorem readPart_of_opened {entries : Entries} (h : v.opened = .table entries) : readPart part v = .ok entries := by
  rw [readPart, h]

/-- A problem with an entry of a table is a problem of the table. -/
theorem reports_readTable (h : v.Lists key x) (hx : (read x).Reports p) :
    (readTable read v).Reports (p.under [.ofKey key]) := by
  obtain ⟨entries, hopened, hmem⟩ := h
  simp only [readTable, hopened]
  have hentry := (hx.right (.within (.key "[key]") (readText key))).within (.ofKey key)
  exact (hentry.all (List.mem_map.mpr ⟨(key, x), hmem, rfl⟩)).map _

theorem reports_optional (read : Value → Checked α) {entries : Entries} (h : Entries.get? entries name = some x)
    (default : α) (hx : (read x).Reports p) : (optional entries name default read).Reports (p.under [.key name]) := by
  rw [optional, h]
  exact hx.within _

theorem reports_required {entries : Entries} (h : Entries.get? entries name = some x) (hx : (read x).Reports p) :
    (required entries name read).Reports (p.under [.key name]) := by
  rw [required, h]
  exact hx.within _

theorem optional_eq_ok (read : Value → Checked α) {entries : Entries} {default y : α}
    (h : Entries.get? entries name = some x) (hy : optional entries name default read = .ok y) : read x = .ok y := by
  rw [optional, h] at hy
  exact Checked.within_eq_ok.mp hy

theorem required_eq_ok {entries : Entries} {y : α} (h : Entries.get? entries name = some x)
    (hy : required entries name read = .ok y) : read x = .ok y := by
  rw [required, h] at hy
  exact Checked.within_eq_ok.mp hy

/-- What is read of a field that may be null: nothing where it is missing or null. -/
theorem cases_of_optional {entries : Entries} {y : Option α}
    (h : optional entries name none (readOptional read) = .ok y) :
    (y = none ∧ (Entries.get? entries name = none ∨ Entries.get? entries name = some .null)) ∨
      ∃ x z, Entries.get? entries name = some x ∧ x ≠ .null ∧ read x = .ok z ∧ y = some z := by
  unfold optional at h
  cases hfound : Entries.get? entries name with
  | none =>
    rw [hfound] at h
    cases h
    exact .inl ⟨rfl, .inl rfl⟩
  | some x =>
    rw [hfound] at h
    have hread : readOptional read x = .ok y := Checked.within_eq_ok.mp h
    by_cases hnull : x = .null
    · subst hnull
      cases hread
      exact .inl ⟨rfl, .inr rfl⟩
    · rw [readOptional] at hread
      · obtain ⟨z, hz, rfl⟩ := Checked.map_eq_ok.mp hread
        exact .inr ⟨x, z, rfl, hnull, hz, rfl⟩
      · exact hnull

/-- What is read of a table has, under a name, what is read of the last entry with this name. -/
theorem lookup_of_readTable {entries : List (String × α)} (h : v.Names name x)
    (hread : readTable read v = .ok entries) :
    ∃ y, entries.lookup name = some y ∧ read x = .ok y := by
  obtain ⟨before, key, after, hopened, hkey, hafter⟩ := h
  simp only [readTable, hopened] at hread
  obtain ⟨pairs, hpairs, rfl⟩ := Checked.map_eq_ok.mp hread
  rw [Checked.all_eq_ok, List.map_append, List.map_cons] at hpairs
  obtain ⟨first, rest, rfl, -, hrest⟩ := List.append_eq_map_iff.mp hpairs
  cases rest with
  | nil => cases hrest
  | cons pair last =>
    rw [List.map_cons, List.cons.injEq] at hrest
    obtain ⟨hpair, hlast⟩ := hrest
    obtain ⟨name', y⟩ := pair
    obtain ⟨hname, hy⟩ := Checked.both_eq_ok.mp (Checked.within_eq_ok.mp hpair.symm)
    obtain rfl : name = name' := Except.ok.inj (hkey.symm.trans (Checked.within_eq_ok.mp hname))
    refine ⟨y, lookup_merged fun e he heq ↦ ?_, hy⟩
    -- an entry that comes later has a key that is read as another name
    have hmem : (Except.ok e : Checked (String × α)) ∈ last.map .ok := List.mem_map_of_mem he
    rw [hlast] at hmem
    obtain ⟨source, hsource, hread⟩ := List.mem_map.mp hmem
    have hlater := (Checked.both_eq_ok.mp (Checked.within_eq_ok.mp hread)).1
    exact hafter source hsource (heq ▸ Checked.within_eq_ok.mp hlater)

end

/-! ### Transitions of a state -/

/-- The keys under which the transitions of a state stand: their name, and the truth value true. -/
def IsOnKey (key : Value) : Prop := key.asText? = some "on" ∨ key = .bool true

/-- The transitions of a state: what stands under a key of theirs, under the last one if both spellings are used. -/
def HasTransitions (state on : Value) : Prop :=
  ∃ before key after, state.opened = .table (before ++ (key, on) :: after) ∧
    Entries.AreKeyed (before ++ (key, on) :: after) ∧ IsOnKey key ∧ ∀ e ∈ after, ¬ IsOnKey e.1

/-- In its own spelling a key of transitions is read as their name. -/
theorem ownKey_of_isOnKey {key : Value} (hkey : IsOnKey key) (hhashable : key.isKey = true) :
    (ownKey key).isKey = true ∧ (ownKey key).asText? = some "on" := by
  by_cases hyes : key = .bool true
  · subst hyes
    exact ⟨rfl, rfl⟩
  · rw [ownKey_of_ne hyes]
    exact ⟨hhashable, hkey.resolve_right hyes⟩

/-- After the keys have been put into one spelling, the transitions that count stand under their name. -/
theorem get?_restoreOn {before after : Entries} {key on : Value}
    (h : Entries.AreKeyed (before ++ (key, on) :: after)) (hkey : IsOnKey key) (hafter : ∀ e ∈ after, ¬ IsOnKey e.1) :
    Entries.get? (restoreOn (before ++ (key, on) :: after)) "on" = some on := by
  by_cases hrestored : ∃ e ∈ before ++ (key, on) :: after, e.1 = .bool true
  · rw [restoreOn_of_mem hrestored, List.map_append, List.map_cons]
    obtain ⟨hhashable, htext⟩ := ownKey_of_isOnKey hkey (h.hashable (key, on) (by simp))
    refine Entries.get?_ofList_of_last hhashable htext (List.forall_mem_map.mpr fun e he ↦ ?_)
    have hother := hafter e he
    dsimp only
    rw [ownKey_of_ne fun hk ↦ hother (.inr hk)]
    exact ⟨h.hashable e (by simp [he]), fun htext ↦ hother (.inl htext)⟩
  · have hnone : ∀ e ∈ before ++ (key, on) :: after, e.1 ≠ .bool true := fun e he hk ↦ hrestored ⟨e, he, hk⟩
    rw [restoreOn_of_not_mem hnone]
    have htext : key.asText? = some "on" := hkey.resolve_right (hnone (key, on) (by simp))
    -- no key before this one is the same, so none of them has its name
    have hbefore : ∀ e ∈ before, e.1.alike (.text "on") = false := by
      intro e he
      rw [Bool.eq_false_iff]
      intro halike
      have hdistinct := h.distinct
      rw [Entries.keys, List.map_append, List.map_cons] at hdistinct
      have hdiffers := (List.pairwise_append.mp hdistinct).2.2 e.1 (List.mem_map_of_mem he) key (List.mem_cons_self ..)
      rw [Value.alike_of_asText? (Value.alike_text_iff.mp halike) htext] at hdiffers
      cases hdiffers
    have hfound : key.alike (.text "on") = true :=
      (Value.alike_text_of_isKey (h.hashable (key, on) (by simp))).mpr htext
    have hskip : List.find? (fun e ↦ e.1.alike (.text "on")) before = none :=
      List.find?_eq_none.mpr fun e he ↦ by simp [hbefore e he]
    simp [Entries.get?, Entries.find?, List.find?_append, hskip, hfound]

theorem readPart_of_hasTransitions {state on : Value} (h : HasTransitions state on) :
    ∃ entries, readPart "StateSpec" state = .ok entries ∧ Entries.get? (restoreOn entries) "on" = some on := by
  obtain ⟨before, key, after, hopened, hkeyed, hkey, hafter⟩ := h
  exact ⟨_, readPart_of_opened hopened, get?_restoreOn hkeyed hkey hafter⟩

theorem lists_expandTable {on key x : Value} (h : on.Lists key x) :
    (expandTable on).Lists key (expandShorthand x) := by
  obtain ⟨entries, hopened, hmem⟩ := h
  simp only [expandTable, hopened]
  exact ⟨_, rfl, List.mem_map.mpr ⟨(key, x), hmem, rfl⟩⟩

theorem names_expandTable {on x : Value} {name : String} (h : on.Names name x) :
    (expandTable on).Names name (expandShorthand x) := by
  obtain ⟨before, key, after, hopened, hkey, hafter⟩ := h
  simp only [expandTable, hopened, List.map_append, List.map_cons]
  exact ⟨_, key, _, rfl, hkey, List.forall_mem_map.mpr hafter⟩

/-! ### Transitions of a document -/

/-- A value stands in a table of transitions of a document, by the keys of its state and of its event. -/
def Stands (v stateKey eventKey x : Value) : Prop :=
  ∃ spec states state on, v.Holds "spec" spec ∧ spec.Holds "states" states ∧ states.Lists stateKey state ∧
    HasTransitions state on ∧ on.Lists eventKey x

/-- A document says by a value what happens in a state at an event. -/
def Says (v : Value) (state event : String) (x : Value) : Prop :=
  ∃ spec states node on, v.Holds "spec" spec ∧ spec.Holds "states" states ∧ states.Names state node ∧
    HasTransitions node on ∧ on.Names event x

section

variable {v x stateKey eventKey : Value} {state event : String}

/-- The place of a transition in a document. -/
def place (stateKey eventKey : Value) : List Place :=
  [.key "spec", .key "states", .ofKey stateKey, .key "on", .ofKey eventKey]

/-- A problem with a transition is a problem of the document, at the place of the transition. -/
theorem Stands.reports {p : Problem} (h : Stands v stateKey eventKey x)
    (hx : (readTransition (expandShorthand x)).Reports p) : (read v).Reports (p.under (place stateKey eventKey)) := by
  obtain ⟨spec, states, state, on, ⟨document, hdocument, hspec⟩, ⟨machine, hmachine, hstates⟩, hstate, hon, hx'⟩ := h
  obtain ⟨fields, hfields, hget⟩ := readPart_of_hasTransitions hon
  have hread : (readState state).Reports (p.under [.key "on", .ofKey eventKey]) := by
    have htable := reports_readTable (lists_expandTable hx') hx
    have hfield := reports_optional (fun v ↦ readTable readTransition (expandTable v)) hget [] htable
    unfold readState
    rw [hfields]
    exact (((hfield.left _).right _).right _).bind _
  have hspecification : (readMachine spec).Reports
      (p.under [.key "states", .ofKey stateKey, .key "on", .ofKey eventKey]) := by
    have hfield := reports_required hstates (reports_readTable hstate hread)
    unfold readMachine
    rw [readPart_of_opened hmachine]
    exact ((((hfield.left _).right _).right _).right _).bind _
  have hfield := reports_required hspec hspecification
  unfold read
  rw [readPart_of_opened hdocument]
  exact ((((hfield.left _).right _).right _).right _).bind _

theorem spec_of_read {m : Manifest} {spec : Value} (h : v.Holds "spec" spec) (hread : read v = .ok m) :
    readMachine spec = .ok m.spec := by
  obtain ⟨document, hdocument, hspec⟩ := h
  unfold read at hread
  rw [readPart_of_opened hdocument] at hread
  obtain ⟨_, ⟨⟩, hread⟩ := Checked.ok_of_bind hread
  obtain ⟨parts, hparts, hm⟩ := Checked.ok_of_bind hread
  cases hm
  simp only [Checked.both_eq_ok] at hparts
  exact required_eq_ok hspec hparts.2.2.2.1

theorem states_of_readMachine {m : MachineSpec} {spec states : Value} (h : spec.Holds "states" states)
    (hread : readMachine spec = .ok m) : readTable readState states = .ok m.states := by
  obtain ⟨fields, hfields, hstates⟩ := h
  unfold readMachine at hread
  rw [readPart_of_opened hfields] at hread
  obtain ⟨_, ⟨⟩, hread⟩ := Checked.ok_of_bind hread
  obtain ⟨parts, hparts, hm⟩ := Checked.ok_of_bind hread
  cases hm
  simp only [Checked.both_eq_ok] at hparts
  exact required_eq_ok hstates hparts.2.2.2.1

theorem on_of_readState {s : StateSpec} {node on : Value} (h : HasTransitions node on)
    (hread : readState node = .ok s) :
    readTable readTransition (expandTable on) = .ok s.on := by
  obtain ⟨fields, hfields, hget⟩ := readPart_of_hasTransitions h
  unfold readState at hread
  rw [hfields] at hread
  obtain ⟨_, ⟨⟩, hread⟩ := Checked.ok_of_bind hread
  obtain ⟨parts, hparts, hs⟩ := Checked.ok_of_bind hread
  cases hs
  simp only [Checked.both_eq_ok] at hparts
  exact optional_eq_ok (fun v ↦ readTable readTransition (expandTable v)) hget hparts.2.2.1

/-- What is read of a transition stands under its names in what is read of the document. -/
theorem Says.reads {m : Manifest} (h : Says v state event x) (hread : read v = .ok m) :
    ∃ s t, m.spec.states.lookup state = some s ∧ s.on.lookup event = some t ∧
      readTransition (expandShorthand x) = .ok t := by
  obtain ⟨spec, states, node, on, hspec, hstates, hnode, hon, hx⟩ := h
  have hlisted := states_of_readMachine hstates (spec_of_read hspec hread)
  obtain ⟨s, hs, hnode⟩ := lookup_of_readTable hnode hlisted
  obtain ⟨t, ht, htransition⟩ := lookup_of_readTable (names_expandTable hx) (on_of_readState hon hnode)
  exact ⟨s, t, hs, ht, htransition⟩

end

/-- A document with one state, in which a value stands for the transition at one event. -/
def switch (x : Value) : Value :=
  .ofFields [("kind", .text documentKind), ("spec", .ofFields [("initial", .text "A"),
    ("states", .ofFields [("A", .ofFields [("on", .ofFields [("GO", x)])])])])]

theorem switch_hasTransitions (on : Value) : HasTransitions (.ofFields [("on", on)]) on :=
  ⟨[], .text "on", [], rfl, ⟨by simp [Value.isKey], List.pairwise_singleton _ _⟩, .inl rfl, nofun⟩

theorem stands_switch (x : Value) : Stands (switch x) (.text "A") (.text "GO") x :=
  ⟨_, _, _, .ofFields [("GO", x)], ⟨_, rfl, rfl⟩, ⟨_, rfl, rfl⟩, ⟨_, rfl, List.mem_singleton.mpr rfl⟩,
    switch_hasTransitions _, ⟨_, rfl, List.mem_singleton.mpr rfl⟩⟩

theorem says_switch (x : Value) : Says (switch x) "A" "GO" x :=
  ⟨_, _, _, .ofFields [("GO", x)], ⟨_, rfl, rfl⟩, ⟨_, rfl, rfl⟩, ⟨[], .text "A", [], rfl, rfl, nofun⟩,
    switch_hasTransitions _, ⟨[], .text "GO", [], rfl, rfl, nofun⟩⟩

/-! ### Transitions in tables -/

section

variable {x : Value} {fields : Entries} {t : TransitionSpec}

/-- A table counts as false exactly if it is empty. -/
theorem isTruthy_of_opened (h : x.opened = .table fields) : x.isTruthy = !fields.isEmpty := by
  cases x with
  | table entries =>
    cases h
    rfl
  | knot label inside =>
    cases inside with
    | table entries =>
      cases h
      cases entries <;> rfl
    | again label' isTable =>
      simp only [Value.opened, Value.tied] at h
      split at h <;> cases h
    | knot label' inside =>
      simp only [Value.opened, Value.tied] at h
      split at h <;> cases h
    | _ => cases h
  | _ => cases h

/-- A table is its own spelling; an empty one has no parts. -/
theorem readTransition_of_opened (h : x.opened = .table fields) :
    readTransition (expandShorthand x) = readTransition (.table fields) := by
  have htext : x.asText? = none := by
    cases x <;> first | rfl | cases h
  have htruthy := isTruthy_of_opened h
  unfold expandShorthand
  rw [htext]
  cases fields with
  | nil => simp [htruthy]
  | cons e rest =>
    simp only [htruthy, List.isEmpty_cons, Bool.not_false, if_true]
    unfold readTransition
    rw [readPart_of_opened h, readPart_of_opened (Value.opened_table _)]

/-- The target and the guard of a transition are read from their fields. -/
theorem fields_of_readTransition (h : readTransition (.table fields) = .ok t) :
    optional fields "target" none (readOptional readText) = .ok t.target ∧
      optional fields "cond" none (readOptional readText) = .ok t.guard := by
  unfold readTransition at h
  rw [readPart_of_opened (Value.opened_table fields)] at h
  obtain ⟨_, ⟨⟩, h⟩ := Checked.ok_of_bind h
  obtain ⟨parts, hparts, ht⟩ := Checked.ok_of_bind h
  cases ht
  simp only [Checked.both_eq_ok] at hparts
  exact ⟨hparts.1, hparts.2.1⟩

end

end Manifest

/-! ### Transitions of the machine -/

/-- A machine has a transition in a state for a kind of event. -/
def Machine.Has {σ : Type} (m : Machine σ) (value kind : Value) (t : Transition σ) : Prop :=
  ∃ node, m.node value = .ok node ∧ Machine.reaction node kind = .ok (some t)

section

variable {σ : Type} {scope : Scope σ} {name : String} {key : Value}

/-- What is built of an entry stands under its name. -/
theorem find?_of_mapM {α β : Type} {xs : List (String × α)} {ys : List (Value × β)} {f : α → Outcome β} {x : α}
    (h : xs.mapM (fun p ↦ do return (Value.text p.1, ← f p.2)) = .ok ys) (hx : xs.lookup name = some x)
    (hkey : key.asText? = some name) : ∃ y, Entries.find? ys key = some y ∧ f x = .ok y := by
  induction xs generalizing ys with
  | nil => cases hx
  | cons p rest ih =>
    obtain ⟨first, x'⟩ := p
    rw [List.mapM_cons] at h
    obtain ⟨entry, hentry, h⟩ := ok_of_bind h
    obtain ⟨entries, hentries, h⟩ := ok_of_bind h
    obtain ⟨y, hy, hentry⟩ := ok_of_bind hentry
    cases hentry
    cases h
    by_cases hfirst : name = first
    · subst hfirst
      rw [List.lookup_cons_self] at hx
      cases hx
      have halike : (Value.text name).alike key = true := Value.alike_of_asText? rfl hkey
      exact ⟨y, by simp [Entries.find?, halike], hy⟩
    · have hother : (name == first) = false := by simpa using hfirst
      have hdiffers : (Value.text first).alike key = false := by
        rw [Bool.eq_false_iff]
        intro halike
        have htext := Value.asText?_of_alike halike hkey
        exact hfirst (Option.some.inj htext).symm
      rw [List.lookup_cons, hother] at hx
      obtain ⟨y', hfound, hy'⟩ := ih hentries hx
      exact ⟨y', by simpa [Entries.find?, hdiffers] using hfound, hy'⟩

theorem TransitionSpec.guard_of_build {t : TransitionSpec} {built : Transition σ} (h : t.build scope = .ok built) :
    buildGuard scope t.guard = .ok built.guard := by
  obtain ⟨guard, hguard, h⟩ := ok_of_bind h
  obtain ⟨actions, -, h⟩ := ok_of_bind h
  cases h
  exact hguard

/-- A guard is what its reference names, unless this is null; an empty reference is none. -/
theorem TransitionSpec.cases_of_buildGuard {written : Option String} {guard : Option (Callee σ)}
    (h : buildGuard scope written = .ok guard) : (guard = none ∧ (written = none ∨ written = some "")) ∨
      ∃ reference c, written = some reference ∧ scope.resolve reference = .ok c ∧
        ((c ≠ .inert .null ∧ guard = some c) ∨ (c = .inert .null ∧ guard = none)) := by
  unfold buildGuard at h
  split at h
  · cases h
    exact .inl ⟨rfl, .inl rfl⟩
  · cases h
    exact .inl ⟨rfl, .inr rfl⟩
  · next reference _ =>
    obtain ⟨c, hc, h⟩ := ok_of_bind h
    refine .inr ⟨reference, c, rfl, hc, ?_⟩
    split at h
    · cases h
      exact .inr ⟨rfl, rfl⟩
    · next hnull =>
      cases h
      exact .inl ⟨hnull, rfl⟩

/-- The states of a machine are built one by one. -/
theorem Manifest.states_of_build {m : Manifest} {machine : Machine σ} (h : m.build scope = .ok machine) :
    m.spec.states.mapM (fun p ↦ do return (Value.text p.1, ← p.2.build scope)) = .ok machine.states := by
  obtain ⟨states, hstates, h⟩ := ok_of_bind h
  obtain ⟨name, -, h⟩ := ok_of_bind h
  have hparts : Machine.ofParts (.text m.spec.initial) (.entries (states.map fun p ↦ (p.1, .built p.2)))
      (.ofFields m.spec.context) m.kinds (.text name) = .ok machine := h
  simp only [Machine.ofParts, Machine.nodesOf_built, ok_bind] at hparts
  obtain ⟨events, -, hparts⟩ := ok_of_bind hparts
  obtain ⟨_, -, hparts⟩ := ok_of_bind hparts
  cases hparts
  exact hstates

/-- The transition that a document says is built, and the machine has it for its state and its event. -/
theorem Manifest.Says.built {v x value kind : Value} {state event source : String} {machine : Machine σ}
    (h : Says v state event x) (hload : loadValue scope source v = .ok machine) (hvalue : value.asText? = some state)
    (hkind : kind.asText? = some event) :
    ∃ t built, readTransition (expandShorthand x) = .ok t ∧ t.build scope = .ok built ∧
      machine.Has value kind built := by
  obtain ⟨m, hread, hbuild⟩ := build_of_loadValue hload
  obtain ⟨s, t, hs, ht, htransition⟩ := h.reads hread
  obtain ⟨node, hnode, hbuilt⟩ := find?_of_mapM (states_of_build hbuild) hs hvalue
  obtain ⟨on, hon, hbuilt⟩ := ok_of_bind hbuilt
  obtain ⟨entry, -, hbuilt⟩ := ok_of_bind hbuilt
  obtain ⟨exit, -, hbuilt⟩ := ok_of_bind hbuilt
  cases hbuilt
  obtain ⟨built, hfound, hbuilt⟩ := find?_of_mapM (f := TransitionSpec.build scope) hon ht hkind
  refine ⟨t, built, htransition, hbuilt, _, by rw [Machine.node, hnode], ?_⟩
  have hkey : kind.isKey = true := by
    cases kind <;> first | rfl | cases hkind
  rw [Machine.reaction, if_pos hkey, hfound]

end

end Statechart
