import Mathlib.Data.List.Forall2
import Statechart.Proofs.Placement

/-!
# Declared events

An event is declared where it stands in a table of transitions of a state. A state of a document has such a table under
either spelling of its key, and reading puts both spellings into one. An event that is declared in a document that loads
is one of the events of the state in the machine, unless what declares it is superseded
(`Manifest.declared_unless_superseded`): its table by a later one of the same state, under the other spelling, or its
state by a later one whose key is read as the same name. Where a state uses one of the spellings only, it does not
matter which one (`Manifest.Respelled`).
-/

set_option autoImplicit false
set_option relaxedAutoImplicit false

namespace Statechart

/-! ### Entries and what comes later -/

namespace Value

/-- A value is a table with an entry, and with some entries after it. -/
def Places (v key x : Value) (later : Entries) : Prop :=
  ∃ before, v.opened = .table (before ++ (key, x) :: later)

theorem Places.lists {v key x : Value} {later : Entries} (h : v.Places key x later) : v.Lists key x := by
  obtain ⟨before, hopened⟩ := h
  exact ⟨_, hopened, by simp⟩

/-- An entry whose key is not read as its name again is the one that counts. -/
theorem Places.names {v key x : Value} {later : Entries} {name : String} (h : v.Places key x later)
    (hkey : Manifest.readText key = .ok name) (hlater : ∀ e ∈ later, Manifest.readText e.1 ≠ .ok name) :
    v.Names name x := by
  obtain ⟨before, hopened⟩ := h
  exact ⟨before, key, later, hopened, hkey, hlater⟩

/-- A name that is the reading of a key is one under which something counts. -/
theorem Lists.exists_names {v key x : Value} {name : String} (h : v.Lists key x)
    (hkey : Manifest.readText key = .ok name) : ∃ x', v.Names name x' := by
  obtain ⟨entries, hopened, hmem⟩ := h
  have hfound : ∃ e ∈ entries, Manifest.readText e.1 = .ok name := ⟨_, hmem, hkey⟩
  obtain ⟨before, ⟨key', x'⟩, after, hentries, hname, hlast⟩ : ∃ before e after, entries = before ++ e :: after ∧
      Manifest.readText e.1 = .ok name ∧ ∀ e' ∈ after, Manifest.readText e'.1 ≠ .ok name := by
    clear hopened hmem
    induction entries with
    | nil => simp at hfound
    | cons e rest ih =>
      by_cases hrest : ∃ e' ∈ rest, Manifest.readText e'.1 = .ok name
      · obtain ⟨before, e', after, rfl, hname, hlast⟩ := ih hrest
        exact ⟨e :: before, e', after, rfl, hname, hlast⟩
      · have hfirst : Manifest.readText e.1 = .ok name := by
          obtain ⟨e', he', hname⟩ := hfound
          rcases List.mem_cons.mp he' with rfl | he'
          · exact hname
          · exact absurd ⟨e', he', hname⟩ hrest
        exact ⟨[], e, rest, rfl, hfirst, fun e' he' hname ↦ hrest ⟨e', he', hname⟩⟩
  exact ⟨x', before, key', after, by rw [hopened, hentries], hname, hlast⟩

/-- Two tables have the same keys, and what stands under one key is related. -/
def Parallel (R : Value → Value → Value → Prop) (v v' : Value) : Prop :=
  ∃ entries entries', v.opened = .table entries ∧ v'.opened = .table entries' ∧
    List.Forall₂ (fun e e' ↦ e.1 = e'.1 ∧ R e.1 e.2 e'.2) entries entries'

/-- What stands under a key is the same, but for what is related under the key of one field. -/
def InField (name : String) (R : Value → Value → Prop) (key x x' : Value) : Prop :=
  x = x' ∨ key.asText? = some name ∧ R x x'

end Value

namespace Entries

variable {entries entries' : Entries} {R : Value → Value → Value → Prop}

/-- What is made of the keys of entries is the same where the keys are. -/
theorem map_of_keys {β : Type} {f : Value × Value → β} (hf : ∀ key x x', f (key, x) = f (key, x'))
    (h : keys entries = keys entries') : entries.map f = entries'.map f := by
  have hkeys (es : Entries) : es.map f = (keys es).map fun key ↦ f (key, .null) := by
    rw [keys, List.map_map]
    exact List.map_congr_left fun e _ ↦ hf e.1 e.2 .null
  rw [hkeys, hkeys, h]

theorem keys_of_forall₂ (h : List.Forall₂ (fun e e' ↦ e.1 = e'.1 ∧ R e.1 e.2 e'.2) entries entries') :
    keys entries = keys entries' := by
  induction h with
  | nil => rfl
  | cons hfirst _ ih =>
    simp only [keys, List.map_cons] at ih ⊢
    rw [hfirst.1, ih]

/-- Under a name stands the same in both tables, or it is that of the field whose values are related. -/
theorem get?_of_inField {name field : String} {R : Value → Value → Prop}
    (h : List.Forall₂ (fun e e' ↦ e.1 = e'.1 ∧ Value.InField field R e.1 e.2 e'.2) entries entries') :
    get? entries name = get? entries' name ∨
      name = field ∧ ∃ x x', get? entries name = some x ∧ get? entries' name = some x' ∧ R x x' := by
  induction h with
  | nil => exact .inl rfl
  | @cons e e' rest rest' hfirst _ ih =>
    obtain ⟨key, x⟩ := e
    obtain ⟨key', x'⟩ := e'
    obtain ⟨hkey, hvalue⟩ := hfirst
    obtain rfl : key = key' := hkey
    by_cases halike : key.alike (.text name) = true
    · have hhead {y : Value} {more : Entries} : get? ((key, y) :: more) name = some y := by
        simp [get?, find?, halike]
      rcases hvalue with rfl | ⟨htext, hrelated⟩
      · exact .inl (hhead.trans hhead.symm)
      · have hopened : key.opened = key := by
          cases key <;> first | rfl | cases htext
        have hname := Value.alike_text_iff.mp halike
        rw [hopened, htext] at hname
        exact .inr ⟨(Option.some.inj hname).symm, x, x', hhead, hhead, hrelated⟩
    · have htail {y : Value} {more : Entries} : get? ((key, y) :: more) name = get? more name := by
        simp [get?, find?, halike]
      simpa only [htail] using ih

end Entries

theorem Checked.ok_bind {α β : Type} (x : α) (f : α → Checked β) : (Except.ok x : Checked α) >>= f = f x := rfl

namespace Manifest

/-! ### Reading what differs in one field -/

section

variable {α : Type} {read : Value → Checked α} {entries entries' : Entries} {name field : String}
  {R : Value → Value → Prop}

theorem noOthers_congr (known : List String) (h : Entries.keys entries = Entries.keys entries') :
    noOthers known entries = noOthers known entries' := by
  unfold noOthers
  rw [Entries.map_of_keys (fun _ _ _ ↦ rfl) h]

theorem required_congr
    (h : List.Forall₂ (fun e e' ↦ e.1 = e'.1 ∧ Value.InField field R e.1 e.2 e'.2) entries entries')
    (hread : name = field → ∀ x x', R x x' → read x = read x') :
    required entries name read = required entries' name read := by
  unfold required
  have hget : Entries.get? entries name = Entries.get? entries' name ∨ _ := Entries.get?_of_inField h
  rcases hget with hsame | ⟨hname, x, x', hx, hx', hrelated⟩
  · rw [hsame]
  · rw [hx, hx']
    simp only [hread hname x x' hrelated]

theorem optional_congr (name : String) (default : α) (read : Value → Checked α)
    (h : List.Forall₂ (fun e e' ↦ e.1 = e'.1 ∧ Value.InField field R e.1 e.2 e'.2) entries entries')
    (hname : name ≠ field) : optional entries name default read = optional entries' name default read := by
  have hget : Entries.get? entries name = Entries.get? entries' name ∨ _ := Entries.get?_of_inField h
  rcases hget with hsame | ⟨hfield, -⟩
  · rw [optional, optional, hsame]
  · exact absurd hfield hname

theorem readTable_congr {v v' : Value} {R : Value → Value → Value → Prop} (h : v.Parallel R v')
    (hread : ∀ key x x', R key x x' → read x = read x') : readTable read v = readTable read v' := by
  obtain ⟨entries, entries', hopened, hopened', hrelated⟩ := h
  simp only [readTable, hopened, hopened']
  congr 2
  clear hopened hopened'
  induction hrelated with
  | nil => rfl
  | cons hfirst _ ih => rw [List.map_cons, List.map_cons, ih, hfirst.1, hread _ _ _ hfirst.2]

/-- Merging adds no names. -/
theorem exists_mem_of_merged {pairs : List (String × α)} (h : name ∈ (merged pairs).map (·.1)) :
    ∃ y, (name, y) ∈ pairs := by
  simp only [merged, List.map_map, List.mem_map] at h
  obtain ⟨e, he, hname⟩ := h
  rcases Entries.mem_keys_overlay (List.mem_map_of_mem he) with hnone | hkey
  · simp [Entries.keys] at hnone
  · simp only [Entries.keys, List.map_map, List.mem_map] at hkey
    obtain ⟨pair, hpair, hkey⟩ := hkey
    have hsame : pair.1 = name := by
      rw [← hname, Function.comp_apply, ← hkey]
      rfl
    exact ⟨pair.2, hsame ▸ hpair⟩

/-- Every entry of a table that is read has a name, and what stands under it is read. -/
theorem of_readTable {v key x : Value} {items : List (String × α)} (h : v.Lists key x)
    (hread : readTable read v = .ok items) : ∃ name y, readText key = .ok name ∧ read x = .ok y := by
  obtain ⟨entries, hopened, hmem⟩ := h
  simp only [readTable, hopened] at hread
  obtain ⟨pairs, hpairs, -⟩ := Checked.map_eq_ok.mp hread
  rw [Checked.all_eq_ok] at hpairs
  have hentry := List.mem_map_of_mem hmem (f := fun e : Value × Value ↦
    Checked.within (.ofKey e.1) (.both (.within (.key "[key]") (readText e.1)) (read e.2)))
  rw [hpairs] at hentry
  obtain ⟨pair, -, hpair⟩ := List.mem_map.mp hentry
  obtain ⟨hname, hy⟩ := Checked.both_eq_ok.mp (Checked.within_eq_ok.mp hpair.symm)
  exact ⟨pair.1, pair.2, Checked.within_eq_ok.mp hname, hy⟩

/-- What is read of a table has the names as which its keys are read. -/
theorem mem_names_of_readTable {v : Value} {items : List (String × α)} (hopened : v.opened = .table entries)
    (hread : readTable read v = .ok items) :
    name ∈ items.map (·.1) ↔ ∃ e ∈ entries, readText e.1 = .ok name := by
  constructor
  · intro hmem
    simp only [readTable, hopened] at hread
    obtain ⟨pairs, hpairs, rfl⟩ := Checked.map_eq_ok.mp hread
    obtain ⟨y, hy⟩ := exists_mem_of_merged hmem
    have hentry : (Except.ok (name, y) : Checked (String × α)) ∈ pairs.map .ok := List.mem_map_of_mem hy
    rw [← Checked.all_eq_ok.mp hpairs] at hentry
    obtain ⟨e, he, hentry⟩ := List.mem_map.mp hentry
    have hkey := (Checked.both_eq_ok.mp (Checked.within_eq_ok.mp hentry)).1
    exact ⟨e, he, Checked.within_eq_ok.mp hkey⟩
  · rintro ⟨e, he, hkey⟩
    obtain ⟨x', hnames⟩ := Value.Lists.exists_names ⟨entries, hopened, he⟩ hkey
    obtain ⟨y, hy, -⟩ := lookup_of_readTable hnames hread
    rw [List.lookup_eq_some_iff] at hy
    obtain ⟨before, after, rfl, -⟩ := hy
    simp

end

/-! ### The key of transitions, in one spelling -/

/-- A state of a document, with the states that come after it. -/
def DeclaresState (v stateKey node : Value) (later : Entries) : Prop :=
  ∃ spec states, v.Holds "spec" spec ∧ spec.Holds "states" states ∧ states.Places stateKey node later

/-- A table of transitions of a state, under either spelling of its key, with the fields that come after it. -/
def DeclaresTable (node : Value) (transitions later : Entries) : Prop :=
  ∃ before key on, node.opened = .table (before ++ (key, on) :: later) ∧
    Entries.AreKeyed (before ++ (key, on) :: later) ∧ IsOnKey key ∧ on.opened = .table transitions

/-- A state has its transitions under one key, which the other one writes in another spelling or in the same. -/
def RespelledState (node node' : Value) : Prop :=
  ∃ before key key' on after, node.opened = .table (before ++ (key, on) :: after) ∧
    node'.opened = .table (before ++ (key', on) :: after) ∧ Entries.AreKeyed (before ++ (key, on) :: after) ∧
    Entries.AreKeyed (before ++ (key', on) :: after) ∧ IsOnKey key ∧ IsOnKey key' ∧
    ∀ e ∈ before ++ after, ¬ IsOnKey e.1

/-- Two documents are the same but for the spelling of the key of transitions, in any of the states that have one. -/
def Respelled : Value → Value → Prop :=
  Value.Parallel (Value.InField "spec" (Value.Parallel (Value.InField "states"
    (Value.Parallel fun _ node node' ↦ node = node' ∨ RespelledState node node'))))

section

variable {before after : Entries} {key on node node' : Value}

/-- Beside a key of transitions no other key becomes one, so that the entries keep their places. -/
theorem distinct_respelled (h : Entries.AreKeyed (before ++ (key, on) :: after))
    (hothers : ∀ e ∈ before ++ after, ¬ IsOnKey e.1) :
    Distinct (Entries.keys (before ++ (.text "on", on) :: after)) := by
  have hkeys := h.distinct
  simp only [Entries.keys, List.map_append, List.map_cons, Distinct, List.pairwise_append, List.pairwise_cons,
    List.forall_mem_map, List.forall_mem_cons] at hkeys ⊢
  obtain ⟨hbefore, ⟨-, hafter⟩, hcross⟩ := hkeys
  refine ⟨hbefore, ⟨fun e he ↦ ?_, hafter⟩, fun e he ↦ ⟨?_, (hcross e he).2⟩⟩
  · rw [Bool.eq_false_iff]
    intro halike
    exact hothers e (List.mem_append_right before he)
      (.inl (Value.asText?_of_isKey halike (h.hashable e (by simp [he])) rfl))
  · rw [Bool.eq_false_iff]
    intro halike
    exact hothers e (List.mem_append_left after he)
      (.inl ((Value.alike_text_of_isKey (h.hashable e (by simp [he]))).mp halike))

/-- Where one key has a spelling of that of transitions, it gets the spelling that is a text; nothing else changes. -/
theorem restoreOn_of_single (h : Entries.AreKeyed (before ++ (key, on) :: after)) (hkey : IsOnKey key)
    (hothers : ∀ e ∈ before ++ after, ¬ IsOnKey e.1) :
    ∃ k, restoreOn (before ++ (key, on) :: after) = before ++ (k, on) :: after ∧ k.isKey = true ∧
      k.asText? = some "on" := by
  have hbefore : ∀ e ∈ before, e.1 ≠ .bool true :=
    fun e he hk ↦ hothers e (List.mem_append_left after he) (.inr hk)
  have hafter : ∀ e ∈ after, e.1 ≠ .bool true :=
    fun e he hk ↦ hothers e (List.mem_append_right before he) (.inr hk)
  by_cases hyes : key = .bool true
  · subst hyes
    refine ⟨.text "on", ?_, rfl, rfl⟩
    rw [restoreOn_of_mem ⟨_, List.mem_append_right before List.mem_cons_self, rfl⟩, List.map_append, List.map_cons,
      map_ownKey_of_ne hbefore, map_ownKey_of_ne hafter]
    exact Entries.ofList_of_distinct (distinct_respelled h hothers)
  · refine ⟨key, restoreOn_of_not_mem fun e he ↦ ?_, h.hashable (key, on) (by simp), hkey.resolve_right hyes⟩
    rcases List.mem_append.mp he with he | he
    · exact hbefore e he
    · rcases List.mem_cons.mp he with rfl | he
      · exact hyes
      · exact hafter e he

/-- The spelling of the key does not matter for what is read. -/
theorem readState_of_respelled (h : RespelledState node node') : readState node = readState node' := by
  obtain ⟨before, key, key', on, after, hopened, hopened', hkeyed, hkeyed', hkey, hkey', hothers⟩ := h
  obtain ⟨k, hrestored, hhashable, htext⟩ := restoreOn_of_single hkeyed hkey hothers
  obtain ⟨k', hrestored', hhashable', htext'⟩ := restoreOn_of_single hkeyed' hkey' hothers
  have hget (name : String) :
      Entries.get? (before ++ (k, on) :: after) name = Entries.get? (before ++ (k', on) :: after) name := by
    have hsame : k.alike (.text name) = k'.alike (.text name) := by
      rw [Bool.eq_iff_iff, Value.alike_text_of_isKey hhashable, Value.alike_text_of_isKey hhashable', htext, htext']
    simp only [Entries.get?, Entries.find?, List.find?_append, List.find?_cons, hsame]
    cases k'.alike (.text name) <;> simp only [Option.map_or, Option.map_some]
  have hfields : noOthers ["entry", "exit", "on"] (before ++ (k, on) :: after) =
      noOthers ["entry", "exit", "on"] (before ++ (k', on) :: after) := by
    simp only [noOthers, List.map_append, List.map_cons, htext, htext']
  unfold readState
  rw [readPart_of_opened hopened, readPart_of_opened hopened']
  simp only [Checked.ok_bind, hrestored, hrestored', optional, hget, hfields]

/-- What is read of a machine does not depend on the spelling either. -/
theorem readMachine_of_respelled {spec spec' : Value} (h : Value.Parallel (Value.InField "states"
    (Value.Parallel fun _ node node' ↦ node = node' ∨ RespelledState node node')) spec spec') :
    readMachine spec = readMachine spec' := by
  obtain ⟨entries, entries', hopened, hopened', hrelated⟩ := h
  have hstates : required entries "states" (readTable readState) = required entries' "states" (readTable readState) := by
    refine required_congr hrelated fun _ states states' hparallel ↦ readTable_congr hparallel fun _ node node' hnode ↦ ?_
    rcases hnode with rfl | hnode
    · rfl
    · exact readState_of_respelled hnode
  have hinitial : required entries "initial" readText = required entries' "initial" readText :=
    required_congr hrelated fun hfield ↦ absurd hfield (by decide)
  unfold readMachine
  rw [readPart_of_opened hopened, readPart_of_opened hopened']
  simp only [Checked.ok_bind, hinitial, hstates, optional_congr "context" _ _ hrelated (by decide),
    optional_congr "events" _ _ hrelated (by decide), noOthers_congr _ (Entries.keys_of_forall₂ hrelated)]

theorem loadValue_of_respelled {σ : Type} {v v' : Value} (scope : Scope σ) (source : String) (h : Respelled v v') :
    loadValue scope source v = loadValue scope source v' := by
  obtain ⟨entries, entries', hopened, hopened', hrelated⟩ := h
  have hspec : required entries "spec" readMachine = required entries' "spec" readMachine :=
    required_congr hrelated fun _ _ _ hmachine ↦ readMachine_of_respelled hmachine
  have hkind : required entries "kind" readKind = required entries' "kind" readKind :=
    required_congr hrelated fun hfield ↦ absurd hfield (by decide)
  have hget {name : String} (hname : name ≠ "spec") : Entries.get? entries name = Entries.get? entries' name := by
    rcases Entries.get?_of_inField hrelated with hsame | ⟨hfield, -⟩
    · exact hsame
    · exact absurd hfield hname
  have hversion : versionField entries = versionField entries' := by
    rw [versionField, versionField, hget (by decide)]
  have hnamed : versionField entries' ≠ "spec" := by
    unfold versionField
    split <;> decide
  have hread : read v = read v' := by
    unfold read
    rw [readPart_of_opened hopened, readPart_of_opened hopened']
    simp only [Checked.ok_bind, hversion, hget hnamed, hkind, hspec,
      optional_congr "metadata" _ _ hrelated (by decide), noOthers_congr _ (Entries.keys_of_forall₂ hrelated)]
  simp only [loadValue, hopened, hopened', hread]

end

/-! ### Events of states -/

section

variable {σ : Type} {v stateKey node : Value} {laterStates laterParts transitions : Entries}

/-- A table of transitions that is the last one of its state is read, each transition with its event. -/
theorem DeclaresTable.reads {s : StateSpec} (h : DeclaresTable node transitions laterParts)
    (hlast : ∀ e ∈ laterParts, ¬ IsOnKey e.1) (hread : readState node = .ok s) : ∃ expanded : Value,
      expanded.opened = .table (transitions.map fun e ↦ (e.1, expandShorthand e.2)) ∧
        readTable readTransition expanded = .ok s.on := by
  obtain ⟨before, key, on, hopened, hkeyed, hkey, hon⟩ := h
  refine ⟨expandTable on, ?_, on_of_readState ⟨before, key, laterParts, hopened, hkeyed, hkey, hlast⟩ hread⟩
  simp only [expandTable, hon]
  rfl

/-- Each state of a document that is read has a name, and is read itself. -/
theorem DeclaresState.reads {m : Manifest} (h : DeclaresState v stateKey node laterStates) (hread : read v = .ok m) :
    ∃ state s, readText stateKey = .ok state ∧ readState node = .ok s := by
  obtain ⟨spec, states, hspec, hstates, hplaces⟩ := h
  exact of_readTable hplaces.lists (states_of_readMachine hstates (spec_of_read hspec hread))

/-- The state of a machine that is built has the events of its description. -/
theorem contains_of_build {scope : Scope σ} {s : StateSpec} {n : Node σ} {event : String} (h : s.build scope = .ok n) :
    Entries.contains n.on (.text event) = true ↔ event ∈ s.on.map (·.1) := by
  obtain ⟨on, hon, h⟩ := ok_of_bind h
  obtain ⟨entry, -, h⟩ := ok_of_bind h
  obtain ⟨exit, -, h⟩ := ok_of_bind h
  cases h
  constructor
  · intro hcontains
    obtain ⟨e, he, halike⟩ := List.any_eq_true.mp hcontains
    obtain ⟨item, hitem, hbuilt⟩ := mem_of_mapM hon e he
    obtain ⟨t, -, hentry⟩ := ok_of_bind hbuilt
    cases hentry
    have hevent : item.1 = event := beq_iff_eq.mp halike
    exact hevent ▸ List.mem_map_of_mem hitem
  · intro hmem
    obtain ⟨item, hitem, rfl⟩ := List.mem_map.mp hmem
    have hlookup : (s.on.lookup item.1).isSome := by
      rw [List.lookup_isSome_iff]
      exact ⟨item, hitem, beq_self_eq_true _⟩
    obtain ⟨t, ht⟩ := Option.isSome_iff_exists.mp hlookup
    have hkey : (Value.text item.1).asText? = some item.1 := rfl
    obtain ⟨built, hfound, -⟩ := find?_of_mapM (f := TransitionSpec.build scope) hon ht hkey
    obtain ⟨e, he, -⟩ := Option.map_eq_some_iff.mp hfound
    have halike := List.find?_some he
    exact List.any_eq_true.mpr ⟨e, List.mem_of_find?_eq_some he, halike⟩

/-- Assumes: each key stands once in a table, as in every table that is a value (in `DeclaresTable`).

Of the states and tables of transitions that a document declares, those that are not superseded are in the machine, if
the document loads: unless a later table of the same state takes the place of a table, all its keys are events, and unless
a later state takes the place of its state, these are exactly the events of the state in the machine. The spelling of the
key of transitions matters neither for whether a document loads nor for the machine. -/
theorem declared_unless_superseded (scope : Scope σ) (source : String) (v : Value) :
    (∀ machine, loadValue scope source v = .ok machine → ∀ stateKey node laterStates,
      DeclaresState v stateKey node laterStates → ∃ state, readText stateKey = .ok state ∧
        ∀ transitions laterParts, DeclaresTable node transitions laterParts → (∃ e ∈ laterParts, IsOnKey e.1) ∨
          (∀ e ∈ transitions, ∃ event, readText e.1 = .ok event) ∧ ((∃ e ∈ laterStates, readText e.1 = .ok state) ∨
            ∃ n, machine.node (.text state) = .ok n ∧ ∀ event, Entries.contains n.on (.text event) = true ↔
              ∃ e ∈ transitions, readText e.1 = .ok event)) ∧
      ∀ v', Respelled v v' → loadValue scope source v' = loadValue scope source v := by
  refine ⟨fun machine hload stateKey node laterStates hnode ↦ ?_,
    fun v' hrespelled ↦ (loadValue_of_respelled scope source hrespelled).symm⟩
  obtain ⟨m, hread, hbuild⟩ := build_of_loadValue hload
  obtain ⟨state, s, hstate, hs⟩ := hnode.reads hread
  refine ⟨state, hstate, fun transitions laterParts hon ↦ or_iff_not_imp_left.mpr fun hlast ↦ ?_⟩
  simp only [not_exists, not_and] at hlast
  obtain ⟨expanded, hopened, htable⟩ := hon.reads hlast hs
  refine ⟨fun e he ↦ ?_, or_iff_not_imp_left.mpr fun hlatest ↦ ?_⟩
  · obtain ⟨event, t, hevent, -⟩ := of_readTable ⟨_, hopened, List.mem_map_of_mem he⟩ htable
    exact ⟨event, hevent⟩
  · simp only [not_exists, not_and] at hlatest
    obtain ⟨spec, states, hspec, hstates, hplaces⟩ := hnode
    have hnames := hplaces.names hstate hlatest
    obtain ⟨s', hlookup, hs'⟩ := lookup_of_readTable hnames (states_of_readMachine hstates (spec_of_read hspec hread))
    obtain rfl : s = s' := Except.ok.inj (hs.symm.trans hs')
    have hvalue : (Value.text state).asText? = some state := rfl
    obtain ⟨n, hfound, hbuilt⟩ := find?_of_mapM (states_of_build hbuild) hlookup hvalue
    refine ⟨n, by rw [Machine.node, hfound], fun event ↦ ?_⟩
    rw [contains_of_build hbuilt, mem_names_of_readTable hopened htable]
    simp

/-- A document with one state. -/
def station (node : Value) : Value :=
  .ofFields [("kind", .text documentKind), ("spec", .ofFields [("initial", .text "A"),
    ("states", .ofFields [("A", node)])])]

/-- A state with its transitions under a key. -/
def platform (key : Value) : Value := .table [(key, .ofFields [("GO", .text "A")])]

theorem declaresState_station (node : Value) : DeclaresState (station node) (.text "A") node [] :=
  ⟨_, _, ⟨_, rfl, rfl⟩, ⟨_, rfl, rfl⟩, [], rfl⟩

theorem areKeyed_single {key : Value} (on : Value) (hkey : key.isKey = true) : Entries.AreKeyed [(key, on)] :=
  ⟨by simpa using hkey, List.pairwise_singleton _ _⟩

/-- With the truth value true as its key, as which an unquoted `on` may be read, a table declares its events, and the
text in its place gives the same machine. -/
theorem declared_unless_superseded_of_station :
    (∃ machine n, loadValue ({} : Scope Unit) dataSource (station (platform (.bool true))) = .ok machine ∧
      DeclaresState (station (platform (.bool true))) (.text "A") (platform (.bool true)) [] ∧
      DeclaresTable (platform (.bool true)) [(.text "GO", .text "A")] [] ∧
      machine.node (.text "A") = .ok n ∧ Entries.contains n.on (.text "GO") = true) ∧
    Respelled (station (platform (.bool true))) (station (platform (.text "on"))) ∧
      loadValue ({} : Scope Unit) dataSource (station (platform (.text "on"))) =
        loadValue {} dataSource (station (platform (.bool true))) := by
  have htable : DeclaresTable (platform (.bool true)) [(.text "GO", .text "A")] [] :=
    ⟨[], .bool true, _, rfl, areKeyed_single _ rfl, .inr rfl, rfl⟩
  have hrespelled : Respelled (station (platform (.bool true))) (station (platform (.text "on"))) := by
    refine ⟨_, _, rfl, rfl, .cons ⟨rfl, .inl rfl⟩ (.cons ⟨rfl, .inr ⟨rfl, ?_⟩⟩ .nil)⟩
    refine ⟨_, _, rfl, rfl, .cons ⟨rfl, .inl rfl⟩ (.cons ⟨rfl, .inr ⟨rfl, ?_⟩⟩ .nil)⟩
    refine ⟨_, _, rfl, rfl, .cons ⟨rfl, .inr ?_⟩ .nil⟩
    exact ⟨[], .bool true, .text "on", _, [], rfl, rfl, areKeyed_single _ rfl, areKeyed_single _ rfl, .inr rfl, .inl rfl,
      nofun⟩
  have hdeclared := declared_unless_superseded ({} : Scope Unit) dataSource (station (platform (.bool true)))
  refine ⟨?_, hrespelled, hdeclared.2 _ hrespelled⟩
  obtain ⟨state, hstate, hevents⟩ := hdeclared.1 _ rfl _ _ [] (declaresState_station _)
  cases hstate
  rcases hevents _ [] htable with hlast | ⟨-, hlatest | ⟨n, hn, hcontains⟩⟩
  · simp at hlast
  · simp at hlatest
  · exact ⟨_, n, rfl, declaresState_station _, htable, hn, (hcontains "GO").mpr ⟨_, List.mem_singleton.mpr rfl, rfl⟩⟩

/-- A state with its transitions under both spellings of their key. -/
def twoTables : Value :=
  .table [(.text "on", .ofFields [("STOP", .text "A")]), (.bool true, .ofFields [("GO", .text "A")])]

/-- A state that has both spellings is loaded with the later table alone, and nothing is said of the earlier one. -/
theorem table_superseded :
    DeclaresState (station twoTables) (.text "A") twoTables [] ∧
      DeclaresTable twoTables [(.text "STOP", .text "A")] [(.bool true, .ofFields [("GO", .text "A")])] ∧
      ∃ machine n, loadValue ({} : Scope Unit) dataSource (station twoTables) = .ok machine ∧
        machine.node (.text "A") = .ok n ∧ Entries.contains n.on (.text "STOP") = false := by
  refine ⟨declaresState_station _, ⟨[], .text "on", _, rfl, ⟨?_, ?_⟩, .inl rfl, rfl⟩, _, _, rfl, rfl, rfl⟩
  · simp [Value.isKey]
  · exact List.pairwise_cons.mpr ⟨by decide, List.pairwise_singleton _ _⟩

end

end Manifest

end Statechart
