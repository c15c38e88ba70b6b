import Statechart.Proofs.Loading

/-!
# The grammar of documents

A document that describes a machine has a grammar (`Manifest.IsDocument`): each of its parts is a table with the
fields of this part only, each field holds what it may hold, and what is required is there. The grammar is told apart
from the reading of documents, part by part. A document made of plain values is read exactly if it is grammatical
(`Manifest.accepted_iff_grammatical`), where nothing is said in two spellings at once and the entries of a table of
transitions are texts, null values and tables.

`Checked.Passes` tells that something is read without a problem. What is read from parts side by side passes if each
of them does, so that the acceptance of a part is put together from that of its fields.
-/

set_option autoImplicit false
set_option relaxedAutoImplicit false

namespace Statechart

/-! ### Plain values -/

/-- A value built from null, truth values, numbers, texts, lists and tables, each of which has a key once. -/
inductive Value.IsPlain : Value → Prop
  | null : IsPlain .null
  | bool (b : Bool) : IsPlain (.bool b)
  | int (i : Int) : IsPlain (.int i)
  | float (d : Double) : IsPlain (.float d)
  | text (s : String) : IsPlain (.text s)
  | list {items : List Value} (h : ∀ v ∈ items, IsPlain v) : IsPlain (.list items)
  | table {entries : Entries} (hdistinct : Distinct (Entries.keys entries)) (hkeys : ∀ e ∈ entries, IsPlain e.1)
      (hvalues : ∀ e ∈ entries, IsPlain e.2) : IsPlain (.table entries)

namespace Value

theorem IsText.isPlain {v : Value} (h : v.IsText) : v.IsPlain := by
  obtain ⟨s, rfl⟩ := h
  exact .text s

namespace IsPlain

variable {v : Value} {entries : Entries} {items : List Value} {s : String}

theorem item (h : IsPlain (.list items)) : ∀ v ∈ items, IsPlain v := by
  cases h with
  | list h => exact h

theorem entry (h : IsPlain (.table entries)) : ∀ e ∈ entries, IsPlain e.1 ∧ IsPlain e.2 := by
  cases h with
  | table _ hkeys hvalues => exact fun e he ↦ ⟨hkeys e he, hvalues e he⟩

theorem distinct (h : IsPlain (.table entries)) : Distinct (Entries.keys entries) := by
  cases h with
  | table hdistinct _ _ => exact hdistinct

/-- A plain value is opened. -/
theorem opened (h : v.IsPlain) : v.opened = v := by
  cases h <;> rfl

theorem asText?_eq (h : v.IsPlain) : v.asText? = some s ↔ v = .text s := by
  cases h <;> simp [asText?]

theorem alike_text (h : v.IsPlain) : v.alike (.text s) = true ↔ v = .text s := by
  cases h with
  | text t => exact beq_iff_eq.trans (Value.text.injEq _ _).symm.to_iff
  | _ => exact ⟨nofun, nofun⟩

theorem text_alike (h : v.IsPlain) : (Value.text s).alike v = true ↔ v = .text s := by
  cases h with
  | text t => exact beq_iff_eq.trans (eq_comm.trans (Value.text.injEq _ _).symm.to_iff)
  | _ => exact ⟨nofun, nofun⟩

end IsPlain

end Value

namespace Entries

variable {entries : Entries}

/-- Under a text key stands the value of the entry with this key. -/
theorem get?_eq_some (h : (Value.table entries).IsPlain) {name : String} {v : Value} :
    get? entries name = some v ↔ (.text name, v) ∈ entries := by
  have hkeys := h.distinct
  have hplain := h.entry
  clear h
  induction entries with
  | nil => simp [get?, find?]
  | cons e rest ih =>
    obtain ⟨k, x⟩ := e
    obtain ⟨hk, hrest⟩ := List.forall_mem_cons.mp hplain
    obtain ⟨hfirst, hdistinct⟩ := List.pairwise_cons.mp hkeys
    have hfound := ih hdistinct hrest
    simp only [get?, find?] at hfound ⊢
    by_cases hname : k = .text name
    · subst hname
      have hnone : (Value.text name, v) ∉ rest := by
        intro hmem
        have hsame : (Value.text name).alike (.text name) = true := (Value.IsPlain.text name).alike_text.mpr rfl
        rw [hfirst (.text name) (List.mem_map_of_mem hmem)] at hsame
        cases hsame
      simp [(Value.IsPlain.text name).alike_text, hnone, eq_comm]
    · have hdiffers : k.alike (.text name) = false := Bool.eq_false_iff.mpr (mt hk.1.alike_text.mp hname)
      simp [hdiffers, hfound, Ne.symm hname]

/-- Entries whose keys are distinct are written as they are. -/
theorem ofList_of_distinct (h : Distinct (keys entries)) : ofList entries = entries := by
  have hoverlay (before more : Entries) (h : Distinct (keys (before ++ more))) :
      overlay before more = before ++ more := by
    induction more generalizing before with
    | nil => simp [overlay]
    | cons e rest ih =>
      have hnew : contains before e.1 = false := by
        simp only [contains, List.any_eq_false, Bool.not_eq_true]
        intro x hx
        rw [keys, List.map_append] at h
        exact (List.pairwise_append.mp h).2.2 x.1 (List.mem_map_of_mem hx) e.1 (by simp)
      have hrest := ih (before ++ [e]) (by simpa using h)
      rw [overlay, List.foldl_cons, insert_of_not_contains _ _ _ hnew]
      simpa [overlay] using hrest
  exact hoverlay [] entries h

end Entries

/-! ### What passes -/

namespace Checked

variable {α β : Type}

/-- Something is read without a problem. -/
def Passes (a : Checked α) : Prop := ∃ x, a = .ok x

@[simp] theorem passes_ok (x : α) : Passes (.ok x) := ⟨x, rfl⟩

@[simp] theorem not_passes_problem (kind : ProblemKind) (text : String) : ¬ Passes (problem kind text : Checked α) := by
  rintro ⟨x, h⟩
  cases h

theorem both_eq_ok {a : Checked α} {b : Checked β} {x : α × β} :
    both a b = .ok x ↔ a = .ok x.1 ∧ b = .ok x.2 := by
  cases a <;> cases b <;> simp [both, Prod.ext_iff]

@[simp] theorem passes_both {a : Checked α} {b : Checked β} : (both a b).Passes ↔ a.Passes ∧ b.Passes := by
  simp [Passes, both_eq_ok]

@[simp] theorem passes_map {f : α → β} {a : Checked α} : Passes (a.map f) ↔ a.Passes := by
  cases a <;> simp [Passes, Except.map]

theorem within_eq_ok {place : Place} {a : Checked α} {x : α} : within place a = .ok x ↔ a = .ok x := by
  cases a with
  | ok y => exact Iff.rfl
  | error problems =>
    refine iff_of_false ?_ ?_
    · rintro ⟨⟩
    · rintro ⟨⟩

@[simp] theorem passes_within {place : Place} {a : Checked α} : (within place a).Passes ↔ a.Passes := by
  simp [Passes, within_eq_ok]

@[simp] theorem passes_all {as : List (Checked α)} : (all as).Passes ↔ ∀ a ∈ as, a.Passes := by
  induction as with
  | nil => simp [all]
  | cons a rest ih => simp [all, ih]

/-- What is read first passes, and what follows it. -/
theorem passes_bind {a : Checked α} {f : α → Checked β} :
    Passes (a >>= f) ↔ ∃ x, a = .ok x ∧ (f x).Passes := by
  cases a with
  | error ps => simp [Passes, bind, Except.bind]
  | ok x => simp [bind, Except.bind]

/-- What follows what is read passes under a condition of its own. -/
theorem passes_bind_iff {a : Checked α} {f : α → Checked β} {p q : Prop} (ha : a.Passes ↔ p)
    (hf : ∀ x, a = .ok x → ((f x).Passes ↔ q)) : Passes (a >>= f) ↔ p ∧ q := by
  rw [passes_bind, ← ha]
  constructor
  · rintro ⟨x, hx, h⟩
    exact ⟨⟨x, hx⟩, (hf x hx).mp h⟩
  · rintro ⟨⟨x, hx⟩, h⟩
    exact ⟨x, hx, (hf x hx).mpr h⟩

/-- What follows what is read has no problem of its own. -/
theorem passes_bind_of_passes {a : Checked α} {f : α → Checked β} {p : Prop} (ha : a.Passes ↔ p)
    (hf : ∀ x, (f x).Passes) : Passes (a >>= f) ↔ p :=
  (passes_bind_iff ha fun x _ ↦ iff_true_intro (hf x)).trans (and_iff_left trivial)

end Checked

/-! ### The grammar -/

namespace Manifest

/-- A value that is null or has a property. -/
def IsOptional (p : Value → Prop) (v : Value) : Prop := v = .null ∨ p v

/-- A list of values with a property. -/
def IsListOf (p : Value → Prop) (v : Value) : Prop := ∃ items, v = .list items ∧ ∀ x ∈ items, p x

/-- A table of values with a property under text keys. -/
def IsTableOf (p : Value → Prop) (v : Value) : Prop :=
  ∃ entries, v = .table entries ∧ ∀ e ∈ entries, e.1.IsText ∧ p e.2

/-- A field of a part of a document: the keys under which it may stand, and what it may hold. -/
structure Field where
  keys : List Value
  accepts : Value → Prop
  isRequired : Bool := false

/-- A field that stands under its name. -/
def Field.named (name : String) (accepts : Value → Prop) : Field := ⟨[.text name], accepts, false⟩

def Field.required (name : String) (accepts : Value → Prop) : Field := ⟨[.text name], accepts, true⟩

/-- What stands under the keys of a field is what it may hold, and something does if it is required. -/
structure Field.Fits (f : Field) (entries : Entries) : Prop where
  right : ∀ e ∈ entries, e.1 ∈ f.keys → f.accepts e.2
  complete : f.isRequired = true → ∃ e ∈ entries, e.1 ∈ f.keys

/-- The entries of a part of a document are some of its fields, with those that are required. -/
structure HasFields (fields : List Field) (entries : Entries) : Prop where
  fit : ∀ f ∈ fields, f.Fits entries
  only : ∀ e ∈ entries, ∃ f ∈ fields, e.1 ∈ f.keys

/-- A table with some of the fields. -/
def IsPart (fields : List Field) (v : Value) : Prop := ∃ entries, v = .table entries ∧ HasFields fields entries

/-- A field is given, not as null. -/
def Gives (entries : Entries) (name : String) : Prop := ∃ v, (.text name, v) ∈ entries ∧ v ≠ .null

/-- The fields of an action that tell its kind. -/
def actionKinds : List String := ["assign", "assign_values", "effect", "log"]

def actionFields : List Field :=
  [.named "assign" (IsOptional Value.IsText), .named "assign_values" (IsOptional (IsTableOf fun _ ↦ True)),
    .named "effect" (IsOptional Value.IsText), .named "log" (IsOptional Value.IsText), .named "level" Value.IsText,
    .named "type" (IsOptional Value.IsText)]

/-- An action: exactly one of the fields that tell its kind is given. -/
def IsAction (v : Value) : Prop :=
  ∃ entries, v = .table entries ∧ HasFields actionFields entries ∧
    ∃ kind ∈ actionKinds, Gives entries kind ∧ ∀ other ∈ actionKinds, Gives entries other → other = kind

def transitionFields : List Field :=
  [.named "target" (IsOptional Value.IsText), .named "cond" (IsOptional Value.IsText),
    .named "actions" (IsListOf IsAction)]

/-- A transition: the state that it leads to, or a table. -/
def IsTransition (v : Value) : Prop := v.IsText ∨ v = .null ∨ IsPart transitionFields v

/-- The transitions of a state may also stand under the truth value true. -/
def stateFields : List Field :=
  [⟨[.text "on", .bool true], IsTableOf IsTransition, false⟩, .named "entry" (IsListOf IsAction),
    .named "exit" (IsListOf IsAction)]

def specFields : List Field :=
  [.required "initial" Value.IsText, .named "context" (IsTableOf fun _ ↦ True),
    .named "events" (IsOptional (IsListOf Value.IsText)), .required "states" (IsTableOf (IsPart stateFields))]

def documentFields : List Field :=
  [⟨[.text "apiVersion", .text "api_version"], Value.IsText, false⟩, .required "kind" (· = .text documentKind),
    .named "metadata" (IsTableOf fun _ ↦ True), .required "spec" (IsPart specFields)]

/-- A document that describes a machine. -/
def IsDocument (v : Value) : Prop := IsPart documentFields v

/-! ### Fields -/

section

variable {α : Type} {entries : Entries} {read : Value → Checked α} {p : Value → Prop} {name : String} {v : Value}

theorem passes_readText (hv : v.IsPlain) : (readText v).Passes ↔ v.IsText := by
  cases hv with
  | text s => exact ⟨fun _ ↦ ⟨s, rfl⟩, fun _ ↦ ⟨s, rfl⟩⟩
  | _ => exact ⟨fun h ↦ absurd h (Checked.not_passes_problem _ _), nofun⟩

theorem passes_readOptional (h : (read v).Passes ↔ p v) : (readOptional read v).Passes ↔ IsOptional p v := by
  by_cases hv : v = .null
  · subst hv
    simp [readOptional, IsOptional]
  · rw [readOptional, Checked.passes_map, h, IsOptional, or_iff_right hv]
    exact hv

theorem passes_readList (hv : v.IsPlain) (h : ∀ x, x.IsPlain → ((read x).Passes ↔ p x)) :
    (readList read v).Passes ↔ IsListOf p v := by
  cases hv with
  | @list items hitems =>
    have hall : (readList read (.list items)).Passes ↔ ∀ x ∈ items, (read x).Passes := by
      simp only [readList, Value.opened_list, Checked.passes_all, List.forall_mem_map, Checked.passes_within]
      constructor
      · intro hread x hx
        obtain ⟨i, hi, rfl⟩ := List.mem_iff_getElem.mp hx
        exact hread (items[i], i) (List.mk_mem_zipIdx_iff_getElem?.mpr (List.getElem?_eq_getElem hi))
      · intro hread x hx
        exact hread x.1 (List.fst_mem_of_mem_zipIdx hx)
    rw [hall]
    constructor
    · intro hread
      exact ⟨items, rfl, fun x hx ↦ (h x (hitems x hx)).mp (hread x hx)⟩
    · rintro ⟨_, ⟨⟩, hp⟩ x hx
      exact (h x (hitems x hx)).mpr (hp x hx)
  | _ => exact ⟨fun h ↦ absurd h (Checked.not_passes_problem _ _), nofun⟩

theorem passes_readTable (hv : v.IsPlain)
    (h : ∀ entries, v = .table entries → ∀ e ∈ entries, ((read e.2).Passes ↔ p e.2)) :
    (readTable read v).Passes ↔ IsTableOf p v := by
  cases hv with
  | @table entries hdistinct hkeys hvalues =>
    have hall : (readTable read (.table entries)).Passes ↔ ∀ e ∈ entries, e.1.IsText ∧ (read e.2).Passes := by
      simp only [readTable, Value.opened_table, Checked.passes_map, Checked.passes_all, List.forall_mem_map,
        Checked.passes_within, Checked.passes_both]
      exact forall₂_congr fun e he ↦ and_congr_left' (passes_readText (hkeys e he))
    rw [hall]
    constructor
    · intro hread
      exact ⟨entries, rfl, fun e he ↦ (hread e he).imp_right (h entries rfl e he).mp⟩
    · rintro ⟨_, ⟨⟩, hp⟩ e he
      exact (hp e he).imp_right (h entries rfl e he).mpr
  | _ => exact ⟨fun h ↦ absurd h (Checked.not_passes_problem _ _), nofun⟩

theorem isTableOf_table : IsTableOf p (.table entries) ↔ ∀ e ∈ entries, e.1.IsText ∧ p e.2 := by
  simp [IsTableOf]

theorem passes_readAnything (hv : v.IsPlain) :
    (readTable (Except.ok : Value → Checked Value) v).Passes ↔ IsTableOf (fun _ ↦ True) v :=
  passes_readTable hv fun _ _ _ _ ↦ by simp

/-- A field that may be left out. -/
theorem passes_optional (h : (Value.table entries).IsPlain) (default : α)
    (hread : ∀ x, (Value.text name, x) ∈ entries → ((read x).Passes ↔ p x)) :
    (optional entries name default read).Passes ↔ (Field.named name p).Fits entries := by
  have hfield : (optional entries name default read).Passes ↔ ∀ x, (Value.text name, x) ∈ entries → p x := by
    unfold optional
    cases hx : Entries.get? entries name with
    | some x =>
      have hmem := (Entries.get?_eq_some h).mp hx
      rw [Checked.passes_within, hread x hmem]
      refine ⟨fun hpasses y hy ↦ ?_, fun hall ↦ hall x hmem⟩
      rw [(Entries.get?_eq_some h).mpr hy] at hx
      cases hx
      exact hpasses
    | none =>
      refine ⟨fun _ y hy ↦ ?_, fun _ ↦ Checked.passes_ok _⟩
      rw [(Entries.get?_eq_some h).mpr hy] at hx
      cases hx
  rw [hfield]
  constructor
  · intro hall
    refine ⟨?_, nofun⟩
    rintro ⟨k, x⟩ he hk
    obtain rfl : k = .text name := List.mem_singleton.mp hk
    exact hall x he
  · intro hfits x hx
    exact hfits.right _ hx (List.mem_singleton.mpr rfl)

/-- A field that has to be there. -/
theorem passes_required (h : (Value.table entries).IsPlain)
    (hread : ∀ x, (Value.text name, x) ∈ entries → ((read x).Passes ↔ p x)) :
    (required entries name read).Passes ↔ (Field.required name p).Fits entries := by
  have hright := passes_optional h none fun x hx ↦ (Checked.passes_map (f := some)).trans (hread x hx)
  unfold required
  unfold optional at hright
  cases hx : Entries.get? entries name with
  | some x =>
    have hmem := (Entries.get?_eq_some h).mp hx
    simp only [hx, Checked.passes_within, Checked.passes_map] at hright ⊢
    rw [hright]
    exact ⟨fun hfits ↦ ⟨hfits.right, fun _ ↦ ⟨_, hmem, List.mem_singleton.mpr rfl⟩⟩, fun hfits ↦ ⟨hfits.right, nofun⟩⟩
  | none =>
    simp only [Checked.passes_within, Checked.not_passes_problem, false_iff]
    intro hfits
    obtain ⟨⟨k, x⟩, he, hk⟩ := hfits.complete rfl
    obtain rfl : k = .text name := List.mem_singleton.mp hk
    rw [(Entries.get?_eq_some h).mpr he] at hx
    cases hx

/-- No fields but those of a part. -/
theorem passes_noOthers (h : (Value.table entries).IsPlain) (known : List String) (fields : List Field)
    (hknown : (known.map Value.text).Perm (fields.flatMap Field.keys)) :
    (noOthers known entries).Passes ↔ ∀ e ∈ entries, ∃ f ∈ fields, e.1 ∈ f.keys := by
  have hkeys (e : Value × Value) : (∃ f ∈ fields, e.1 ∈ f.keys) ↔ ∃ name ∈ known, e.1 = .text name := by
    rw [← List.mem_flatMap, ← hknown.mem_iff, List.mem_map]
    simp [eq_comm]
  simp only [noOthers, Checked.passes_map, Checked.passes_all, List.forall_mem_map, hkeys]
  refine forall₂_congr fun e he ↦ ?_
  cases hname : e.1.asText? with
  | none =>
    have hnot (name : String) : e.1 ≠ .text name := fun hk ↦ by
      rw [(h.entry e he).1.asText?_eq.mpr hk] at hname
      cases hname
    simp [hnot]
  | some name =>
    have hk : e.1 = .text name := (h.entry e he).1.asText?_eq.mp hname
    by_cases hmem : name ∈ known
    · simp [hmem, hk]
    · simp [hmem, hk]

end

/-! ### Parts -/

theorem readPart_eq_ok {part : String} {v : Value} {entries : Entries} (hv : v.IsPlain) :
    readPart part v = .ok entries ↔ v = .table entries := by
  cases hv with
  | table => exact ⟨fun h ↦ by cases h; rfl, fun h ↦ by cases h; rfl⟩
  | _ => exact ⟨nofun, nofun⟩

/-- What is read from the entries of a part. -/
theorem passes_readPart {α : Type} {part : String} {read : Entries → Checked α} {p : Entries → Prop} {v : Value}
    (hv : v.IsPlain)
    (h : ∀ entries, v = .table entries → (Value.table entries).IsPlain → ((read entries).Passes ↔ p entries)) :
    (readPart part v >>= read).Passes ↔ ∃ entries, v = .table entries ∧ p entries := by
  simp only [Checked.passes_bind, readPart_eq_ok hv]
  exact exists_congr fun entries ↦ and_congr_right fun htable ↦ h entries htable (htable ▸ hv)

theorem hasFields_iff {fields : List Field} {entries : Entries} :
    HasFields fields entries ↔ (∀ f ∈ fields, f.Fits entries) ∧ ∀ e ∈ entries, ∃ f ∈ fields, e.1 ∈ f.keys :=
  ⟨fun h ↦ ⟨h.fit, h.only⟩, fun h ↦ ⟨h.1, h.2⟩⟩

/-- The kinds that an action gives are different ones. -/
theorem length_given (a : ActionSpec) :
    a.given.length = 1 ↔ ∃ kind ∈ a.given, ∀ other ∈ a.given, other = kind := by
  have hdistinct : a.given.Nodup := by
    unfold ActionSpec.given
    cases a.assign.isSome <;> cases a.assignValues.isSome <;> cases a.effect.isSome <;> cases a.log.isSome <;> decide
  constructor
  · intro h
    obtain ⟨kind, hkind⟩ := List.length_eq_one_iff.mp h
    simp [hkind]
  · rintro ⟨kind, hmem, hall⟩
    have hsame := List.eq_replicate_of_mem hall
    rw [hsame, List.nodup_replicate] at hdistinct
    exact Nat.le_antisymm hdistinct (List.length_pos_of_mem hmem)

theorem mem_given {a : ActionSpec} {kind : String} :
    kind ∈ a.given ↔ kind = "assign" ∧ a.assign.isSome = true ∨ kind = "assign_values" ∧ a.assignValues.isSome = true ∨
      kind = "effect" ∧ a.effect.isSome = true ∨ kind = "log" ∧ a.log.isSome = true := by
  simp only [ActionSpec.given, List.mem_append, List.mem_ite_nil_right, List.mem_singleton, and_comm, or_assoc]

section

variable {entries : Entries}

/-- What is read from a field that may be null tells whether it is given. -/
theorem isSome_of_optional {α : Type} {read : Value → Checked α} {name : String} {x : Option α}
    (h : (Value.table entries).IsPlain) (hx : optional entries name none (readOptional read) = .ok x) :
    x.isSome = true ↔ Gives entries name := by
  unfold optional at hx
  cases hv : Entries.get? entries name with
  | none =>
    rw [hv] at hx
    cases hx
    refine ⟨nofun, fun ⟨v, hmem, _⟩ ↦ ?_⟩
    rw [(Entries.get?_eq_some h).mpr hmem] at hv
    cases hv
  | some v =>
    rw [hv] at hx
    have hmem := (Entries.get?_eq_some h).mp hv
    have hread : readOptional read v = .ok x := Checked.within_eq_ok.mp hx
    by_cases hnull : v = .null
    · subst hnull
      cases hread
      refine ⟨nofun, fun ⟨v, hother, hgiven⟩ ↦ ?_⟩
      rw [(Entries.get?_eq_some h).mpr hother] at hv
      cases hv
      exact absurd rfl hgiven
    · have hsome : x.isSome = true := by
        rw [readOptional] at hread
        · cases hr : read v with
          | error ps =>
            rw [hr] at hread
            cases hread
          | ok y =>
            rw [hr] at hread
            cases hread
            rfl
        · exact hnull
      simp only [hsome, true_iff]
      exact ⟨v, hmem, hnull⟩

theorem passes_checkKind {a : ActionSpec} : (checkKind a).Passes ↔ a.given.length = 1 := by
  unfold checkKind
  split
  · next h => simpa using h
  · next h => simpa using h

/-- An action that was read gives exactly one kind where its table does. -/
theorem length_given_of_read {assign effect log kind : Option String} {values : Option (List (String × Value))}
    {level : String} (h : (Value.table entries).IsPlain)
    (hassign : optional entries "assign" none (readOptional readText) = .ok assign)
    (hvalues : optional entries "assign_values" none (readOptional (readTable .ok)) = .ok values)
    (heffect : optional entries "effect" none (readOptional readText) = .ok effect)
    (hlog : optional entries "log" none (readOptional readText) = .ok log) :
    (ActionSpec.given ⟨assign, values, effect, log, level, kind⟩).length = 1 ↔
      ∃ kind ∈ actionKinds, Gives entries kind ∧ ∀ other ∈ actionKinds, Gives entries other → other = kind := by
  have hgiven (name : String) :
      name ∈ ActionSpec.given ⟨assign, values, effect, log, level, kind⟩ ↔ name ∈ actionKinds ∧ Gives entries name := by
    rw [mem_given, isSome_of_optional h hassign, isSome_of_optional h hvalues, isSome_of_optional h heffect,
      isSome_of_optional h hlog]
    simp only [actionKinds, List.mem_cons, List.not_mem_nil, or_false, or_and_right]
    grind
  rw [length_given]
  simp only [hgiven, and_imp, and_assoc]

/-- An action passes if its fields do and exactly one of them tells its kind. -/
theorem passes_readAction {v : Value} (hv : v.IsPlain) : (readAction v).Passes ↔ IsAction v := by
  refine passes_readPart hv fun entries _ h ↦ ?_
  have htext (name : String) : (optional entries name none (readOptional readText)).Passes ↔
      (Field.named name (IsOptional Value.IsText)).Fits entries :=
    passes_optional h _ fun x hx ↦ passes_readOptional (passes_readText (h.entry _ hx).2)
  have hvalues : (optional entries "assign_values" none (readOptional (readTable .ok))).Passes ↔
      (Field.named "assign_values" (IsOptional (IsTableOf fun _ ↦ True))).Fits entries :=
    passes_optional h _ fun x hx ↦ passes_readOptional (passes_readAnything (h.entry _ hx).2)
  have hlevel : (optional entries "level" "INFO" readText).Passes ↔
      (Field.named "level" Value.IsText).Fits entries :=
    passes_optional h _ fun x hx ↦ passes_readText (h.entry _ hx).2
  have hothers := passes_noOthers h ["assign", "assign_values", "effect", "log", "level", "type"] actionFields
    (.refl _)
  refine Checked.passes_bind_iff ?_ ?_
  · simp only [Checked.passes_both, htext, hvalues, hlevel, hothers, hasFields_iff, actionFields, List.forall_mem_cons,
      List.not_mem_nil, false_imp_iff, implies_true, and_true, and_assoc]
  · rintro x hx
    simp only [Checked.both_eq_ok] at hx
    obtain ⟨hassign, hvalues, heffect, hlog, -⟩ := hx
    rw [passes_checkKind]
    exact length_given_of_read h hassign hvalues heffect hlog

theorem passes_readTransition {v : Value} (hv : v.IsPlain) :
    (readTransition v).Passes ↔ IsPart transitionFields v := by
  refine passes_readPart hv fun entries _ h ↦ ?_
  have htext (name : String) : (optional entries name none (readOptional readText)).Passes ↔
      (Field.named name (IsOptional Value.IsText)).Fits entries :=
    passes_optional h _ fun x hx ↦ passes_readOptional (passes_readText (h.entry _ hx).2)
  have hactions : (optional entries "actions" [] (readList readAction)).Passes ↔
      (Field.named "actions" (IsListOf IsAction)).Fits entries :=
    passes_optional h _ fun x hx ↦ passes_readList (h.entry _ hx).2 fun _ ↦ passes_readAction
  have hothers := passes_noOthers h ["target", "cond", "actions"] transitionFields (.refl _)
  refine Checked.passes_bind_of_passes ?_ fun _ ↦ Checked.passes_ok _
  simp only [Checked.passes_both, htext, hactions, hothers, hasFields_iff, transitionFields, List.forall_mem_cons,
    List.not_mem_nil, false_imp_iff, implies_true, and_true, and_assoc]

end

/-! ### Transitions in two spellings -/

/-- A value that is read as a transition: a text, null or a table. -/
def IsShorthand (v : Value) : Prop := v.IsText ∨ v = .null ∨ ∃ entries, v = .table entries

section

variable {v : Value} {entries : Entries}

theorem expandShorthand_isPlain (hv : v.IsPlain) (h : IsShorthand v) : (expandShorthand v).IsPlain := by
  have hempty : (Value.table []).IsPlain := .table .nil nofun nofun
  rcases h with ⟨s, rfl⟩ | rfl | ⟨entries, rfl⟩
  · exact .table (List.pairwise_singleton _ _) (by simpa using .text "target") (by simpa using hv)
  · exact hempty
  · rw [expandShorthand]
    split
    · contradiction
    · split
      · exact hv
      · exact hempty

/-- A transition is what its spelling stands for. -/
theorem isPart_expandShorthand (h : IsShorthand v) :
    IsPart transitionFields (expandShorthand v) ↔ IsTransition v := by
  have hempty : IsPart transitionFields (.table []) := by
    refine ⟨[], rfl, fun f hf ↦ ⟨nofun, ?_⟩, nofun⟩
    simp only [transitionFields, Field.named, List.mem_cons, List.not_mem_nil, or_false] at hf
    rcases hf with rfl | rfl | rfl <;> exact nofun
  rcases h with ⟨s, rfl⟩ | rfl | ⟨entries, rfl⟩
  · refine iff_of_true ⟨[(.text "target", .text s)], rfl, fun f hf ↦ ?_, fun e he ↦ ?_⟩ (.inl ⟨s, rfl⟩)
    · simp only [transitionFields, Field.named, List.mem_cons, List.not_mem_nil, or_false] at hf
      rcases hf with rfl | rfl | rfl
      · exact ⟨by simp [IsOptional, Value.IsText], nofun⟩
      · exact ⟨by simp, nofun⟩
      · exact ⟨by simp, nofun⟩
    · exact ⟨_, .head _, by rw [List.mem_singleton.mp he]; exact List.mem_singleton.mpr rfl⟩
  · exact iff_of_true hempty (.inr (.inl rfl))
  · have htransition : IsTransition (.table entries) ↔ IsPart transitionFields (.table entries) :=
      ⟨fun h ↦ by rcases h with ⟨_, ⟨⟩⟩ | ⟨⟨⟩⟩ | h; exact h, fun h ↦ .inr (.inr h)⟩
    rw [htransition]
    cases entries with
    | nil => rfl
    | cons e rest => rfl

/-- The entries of a table are read as transitions. -/
def IsShorthandTable (v : Value) : Prop := ∀ entries, v = .table entries → ∀ e ∈ entries, IsShorthand e.2

/-- The transitions of a state are written in any spelling. -/
theorem passes_readTransitions (hv : v.IsPlain) (h : IsShorthandTable v) :
    (readTable readTransition (expandTable v)).Passes ↔ IsTableOf IsTransition v := by
  cases hv with
  | @table entries hdistinct hkeys hvalues =>
    have hshort := h entries rfl
    have hexpanded : (expandTable (.table entries)).IsPlain := by
      refine .table ?_ (List.forall_mem_map.mpr hkeys)
        (List.forall_mem_map.mpr fun e he ↦ expandShorthand_isPlain (hvalues e he) (hshort e he))
      rw [Entries.keys, List.map_map]
      exact hdistinct
    rw [passes_readTable hexpanded fun es hes e he ↦ passes_readTransition ((hes ▸ hexpanded).entry e he).2,
      isTableOf_table]
    refine isTableOf_table.trans (List.forall_mem_map.trans ?_)
    exact forall₂_congr fun e he ↦ and_congr_right' (isPart_expandShorthand (hshort e he))
  | _ =>
    refine iff_of_false (Checked.not_passes_problem _ _) ?_
    rintro ⟨_, ⟨⟩, -⟩

end

/-! ### Fields in two spellings -/

section

variable {entries : Entries} {f : Field} {fields : List Field}

theorem fits_respell {keys : List Value} {respell : Value → Value}
    (h : ∀ e ∈ entries, respell e.1 ∈ keys ↔ e.1 ∈ f.keys) :
    ({ f with keys } : Field).Fits (entries.map fun e ↦ (respell e.1, e.2)) ↔ f.Fits entries := by
  constructor
  · rintro ⟨hright, hcomplete⟩
    rw [List.forall_mem_map] at hright
    refine ⟨fun e he hkey ↦ hright e he ((h e he).mpr hkey), fun hrequired ↦ ?_⟩
    obtain ⟨_, hmem, hkey⟩ := hcomplete hrequired
    obtain ⟨e, he, rfl⟩ := List.mem_map.mp hmem
    exact ⟨e, he, (h e he).mp hkey⟩
  · rintro ⟨hright, hcomplete⟩
    refine ⟨List.forall_mem_map.mpr fun e he hkey ↦ hright e he ((h e he).mp hkey), fun hrequired ↦ ?_⟩
    obtain ⟨e, he, hkey⟩ := hcomplete hrequired
    exact ⟨_, List.mem_map_of_mem he, (h e he).mpr hkey⟩

/-- Fields are the same after some keys have been respelled. -/
theorem hasFields_respell (keys : List Value) (respell : Value → Value)
    (hfirst : ∀ e ∈ entries, respell e.1 ∈ keys ↔ e.1 ∈ f.keys)
    (hrest : ∀ g ∈ fields, ∀ e ∈ entries, respell e.1 ∈ g.keys ↔ e.1 ∈ g.keys) :
    HasFields ({ f with keys } :: fields) (entries.map fun e ↦ (respell e.1, e.2)) ↔
      HasFields (f :: fields) entries := by
  simp only [hasFields_iff, List.forall_mem_cons, List.forall_mem_map]
  refine and_congr (and_congr (fits_respell hfirst) ?_) ?_
  · exact forall₂_congr fun g hg ↦ fits_respell (f := g) (hrest g hg)
  · simp only [List.mem_cons, exists_eq_or_imp]
    refine forall₂_congr fun e he ↦ or_congr (hfirst e he) ?_
    exact exists_congr fun g ↦ and_congr_right fun hg ↦ hrest g hg e he

end

/-- The key of a field of a state in its own spelling. -/
def ownKey (key : Value) : Value :=
  match key with
  | .bool true => .text "on"
  | key => key

section

variable {entries : Entries}

/-- A state says nothing in two spellings at once, and its transitions are texts, null values and tables. -/
structure IsClearState (entries : Entries) : Prop where
  once : ¬ ((∃ v, (.text "on", v) ∈ entries) ∧ ∃ v, (.bool true, v) ∈ entries)
  shorthand : ∀ e ∈ entries, e.1 = .text "on" ∨ e.1 = .bool true → IsShorthandTable e.2

theorem ownKey_of_ne {key : Value} (h : key ≠ .bool true) : ownKey key = key := by
  unfold ownKey
  split
  · contradiction
  · rfl

theorem map_ownKey_of_ne (h : ∀ e ∈ entries, e.1 ≠ .bool true) : entries.map (fun e ↦ (ownKey e.1, e.2)) = entries := by
  refine (List.map_congr_left fun e he ↦ ?_).trans (List.map_id entries)
  rw [ownKey_of_ne (h e he)]
  rfl

/-- The fields of a state are put into their own spelling where one of them is in the other. -/
theorem restoreOn_of_mem (h : ∃ e ∈ entries, e.1 = .bool true) :
    restoreOn entries = Entries.ofList (entries.map fun e ↦ (ownKey e.1, e.2)) := by
  unfold restoreOn
  extract_lets isYes
  have hyes (key : Value) : isYes key = true ↔ key = .bool true := by
    cases key <;> simp [isYes]
  have hown (key : Value) : (if isYes key = true then .text "on" else key) = ownKey key := by
    split
    · next hkey => rw [(hyes key).mp hkey, ownKey]
    · next hkey => exact (ownKey_of_ne (mt (hyes key).mpr hkey)).symm
  obtain ⟨e, he, hkey⟩ := h
  rw [if_pos (List.any_eq_true.mpr ⟨e, he, (hyes e.1).mpr hkey⟩)]
  simp only [hown]

theorem restoreOn_of_not_mem (h : ∀ e ∈ entries, e.1 ≠ .bool true) : restoreOn entries = entries := by
  unfold restoreOn
  extract_lets isYes
  have hno (key : Value) (hkey : key ≠ .bool true) : isYes key = false := by
    cases key <;> simp_all [isYes]
  refine if_neg fun hany ↦ ?_
  obtain ⟨e, he, hyes⟩ := List.any_eq_true.mp hany
  rw [hno e.1 (h e he)] at hyes
  cases hyes

theorem distinct_ownKey (h : (Value.table entries).IsPlain) (hclear : IsClearState entries) :
    Distinct (entries.map fun e ↦ ownKey e.1) := by
  -- a key in its own spelling is none of those that stand beside the one in the second spelling
  have hother {e : Value × Value} (he : e ∈ entries) (hon : ∃ v, (.bool true, v) ∈ entries) :
      e.1 ≠ .text "on" := fun hkey ↦ hclear.once ⟨⟨e.2, hkey ▸ he⟩, hon⟩
  refine List.pairwise_map.mpr ((List.pairwise_map.mp h.distinct).imp_of_mem ?_)
  intro e e' he he' hdiffers
  by_cases hon : e.1 = .bool true
  · have hpresent : ∃ v, (.bool true, v) ∈ entries := ⟨e.2, hon ▸ he⟩
    have hon' : e'.1 ≠ .bool true := by
      intro hon'
      rw [hon, hon'] at hdiffers
      cases hdiffers
    rw [hon, ownKey_of_ne hon', ownKey, Bool.eq_false_iff]
    exact mt (h.entry e' he').1.text_alike.mp (hother he' hpresent)
  · rw [ownKey_of_ne hon]
    by_cases hon' : e'.1 = .bool true
    · rw [hon', ownKey, Bool.eq_false_iff]
      exact mt (h.entry e he).1.alike_text.mp (hother he ⟨e'.2, hon' ▸ he'⟩)
    · rwa [ownKey_of_ne hon']

theorem restoreOn_eq (h : (Value.table entries).IsPlain) (hclear : IsClearState entries) :
    restoreOn entries = entries.map fun e ↦ (ownKey e.1, e.2) := by
  by_cases hyes : ∃ e ∈ entries, e.1 = .bool true
  · have hdistinct : Distinct (Entries.keys (entries.map fun e ↦ (ownKey e.1, e.2))) := by
      rw [Entries.keys, List.map_map]
      exact distinct_ownKey h hclear
    rw [restoreOn_of_mem hyes, Entries.ofList_of_distinct hdistinct]
  · have hno : ∀ e ∈ entries, e.1 ≠ .bool true := fun e he hkey ↦ hyes ⟨e, he, hkey⟩
    rw [restoreOn_of_not_mem hno, map_ownKey_of_ne hno]

theorem ownKey_isPlain {key : Value} (h : key.IsPlain) : (ownKey key).IsPlain := by
  unfold ownKey
  split
  · exact .text "on"
  · exact h

theorem ownKey_eq_on {key : Value} : ownKey key = .text "on" ↔ key = .text "on" ∨ key = .bool true := by
  by_cases hkey : key = .bool true
  · simp [hkey, ownKey]
  · simp [ownKey_of_ne hkey, hkey]

theorem ownKey_eq_of_ne {key : Value} {name : String} (h : name ≠ "on") :
    ownKey key = .text name ↔ key = .text name := by
  by_cases hkey : key = .bool true
  · simp [hkey, ownKey, h.symm]
  · rw [ownKey_of_ne hkey]

/-- A state passes if its fields do, after they have been put into one spelling. -/
theorem passes_readState {v : Value} (hv : v.IsPlain) (hclear : ∀ entries, v = .table entries → IsClearState entries) :
    (readState v).Passes ↔ IsPart stateFields v := by
  refine passes_readPart hv fun entries htable h ↦ ?_
  have hclear := hclear entries htable
  rw [restoreOn_eq h hclear]
  have hown : (Value.table (entries.map fun e ↦ (ownKey e.1, e.2))).IsPlain := by
    refine .table ?_ (List.forall_mem_map.mpr fun e he ↦ ownKey_isPlain (h.entry e he).1)
      (List.forall_mem_map.mpr fun e he ↦ (h.entry e he).2)
    rw [Entries.keys, List.map_map]
    exact distinct_ownKey h hclear
  have hsame : HasFields [.named "on" (IsTableOf IsTransition), .named "entry" (IsListOf IsAction),
      .named "exit" (IsListOf IsAction)] (entries.map fun e ↦ (ownKey e.1, e.2)) ↔ HasFields stateFields entries := by
    refine hasFields_respell (f := ⟨[.text "on", .bool true], IsTableOf IsTransition, false⟩) [.text "on"] ownKey ?_ ?_
    · simp [ownKey_eq_on]
    · simp [Field.named, ownKey_eq_of_ne]
  rw [← hsame]
  generalize hrespelled : (entries.map fun e ↦ (ownKey e.1, e.2)) = respelled at hown
  have hactions (name : String) : (optional respelled name [] (readList readAction)).Passes ↔
      (Field.named name (IsListOf IsAction)).Fits respelled :=
    passes_optional hown _ fun x hx ↦ passes_readList (hown.entry _ hx).2 fun _ ↦ passes_readAction
  have hon : (optional respelled "on" [] fun v ↦ readTable readTransition (expandTable v)).Passes ↔
      (Field.named "on" (IsTableOf IsTransition)).Fits respelled := by
    refine passes_optional hown _ fun x hx ↦ passes_readTransitions (hown.entry _ hx).2 ?_
    rw [← hrespelled] at hx
    obtain ⟨e, he, heq⟩ := List.mem_map.mp hx
    obtain ⟨hkey, rfl⟩ := Prod.mk.inj heq
    exact hclear.shorthand e he (ownKey_eq_on.mp hkey)
  have hothers := passes_noOthers hown ["entry", "exit", "on"] [.named "on" (IsTableOf IsTransition),
    .named "entry" (IsListOf IsAction), .named "exit" (IsListOf IsAction)]
    (@List.perm_append_comm _ [Value.text "entry", .text "exit"] [.text "on"])
  refine Checked.passes_bind_of_passes ?_ fun _ ↦ Checked.passes_ok _
  simp only [Checked.passes_both, hactions, hon, hothers, hasFields_iff, List.forall_mem_cons, List.not_mem_nil,
    false_imp_iff, implies_true, and_true, and_assoc, and_left_comm]

theorem passes_readKind {v : Value} (hv : v.IsPlain) : (readKind v).Passes ↔ v = .text documentKind := by
  cases hv with
  | text s =>
    simp only [readKind, Value.text.injEq, beq_iff_eq]
    split
    · next h => exact iff_of_true (Checked.passes_ok _) h
    · next h => exact iff_of_false (Checked.not_passes_problem _ _) h
  | _ => exact ⟨fun h ↦ absurd h (Checked.not_passes_problem _ _), nofun⟩

/-- The description of a machine passes if its fields do. -/
theorem passes_readMachine {v : Value} (hv : v.IsPlain)
    (hclear : ∀ entries states k state, v = .table entries → (.text "states", .table states) ∈ entries →
      (k, .table state) ∈ states → IsClearState state) :
    (readMachine v).Passes ↔ IsPart specFields v := by
  refine passes_readPart hv fun entries htable h ↦ ?_
  have hinitial : (required entries "initial" readText).Passes ↔
      (Field.required "initial" Value.IsText).Fits entries :=
    passes_required h fun x hx ↦ passes_readText (h.entry _ hx).2
  have hcontext : (optional entries "context" [] (readTable .ok)).Passes ↔
      (Field.named "context" (IsTableOf fun _ ↦ True)).Fits entries :=
    passes_optional h _ fun x hx ↦ passes_readAnything (h.entry _ hx).2
  have hevents : (optional entries "events" none (readOptional (readList readText))).Passes ↔
      (Field.named "events" (IsOptional (IsListOf Value.IsText))).Fits entries :=
    passes_optional h _ fun x hx ↦ passes_readOptional (passes_readList (h.entry _ hx).2 fun _ ↦ passes_readText)
  have hstates : (required entries "states" (readTable readState)).Passes ↔
      (Field.required "states" (IsTableOf (IsPart stateFields))).Fits entries := by
    refine passes_required h fun x hx ↦ passes_readTable (h.entry _ hx).2 fun states hstates e he ↦ ?_
    subst hstates
    exact passes_readState ((h.entry _ hx).2.entry e he).2 fun state hstate ↦
      hclear entries states e.1 state htable hx (hstate ▸ he)
  have hothers := passes_noOthers h ["initial", "context", "events", "states"] specFields (.refl _)
  refine Checked.passes_bind_of_passes ?_ fun _ ↦ Checked.passes_ok _
  simp only [Checked.passes_both, hinitial, hcontext, hevents, hstates, hothers, hasFields_iff, specFields,
    List.forall_mem_cons, List.not_mem_nil, false_imp_iff, implies_true, and_true, and_assoc]

/-- A document says its version once, and its states say nothing twice. -/
structure IsClear (v : Value) : Prop where
  version : ∀ entries, v = .table entries →
    ¬ ((∃ x, (.text "apiVersion", x) ∈ entries) ∧ ∃ x, (.text "api_version", x) ∈ entries)
  states : ∀ entries spec states k state, v = .table entries → (.text "spec", .table spec) ∈ entries →
    (.text "states", .table states) ∈ spec → (k, .table state) ∈ states → IsClearState state

/-- Of the two spellings of the version, the one that is read is the one that is there. -/
theorem eq_versionField_iff (h : (Value.table entries).IsPlain)
    (honce : ¬ ((∃ x, (.text "apiVersion", x) ∈ entries) ∧ ∃ x, (.text "api_version", x) ∈ entries)) :
    ∀ e ∈ entries, e.1 = .text (versionField entries) ↔ e.1 = .text "apiVersion" ∨ e.1 = .text "api_version" := by
  rintro ⟨key, x⟩ he
  unfold versionField
  cases hfound : Entries.get? entries "apiVersion" with
  | some y =>
    have hsecond : key ≠ .text "api_version" := by
      rintro rfl
      exact honce ⟨⟨y, (Entries.get?_eq_some h).mp hfound⟩, ⟨x, he⟩⟩
    simp [hsecond]
  | none =>
    have hfirst : key ≠ .text "apiVersion" := by
      rintro rfl
      rw [(Entries.get?_eq_some h).mpr he] at hfound
      cases hfound
    simp [hfirst]

/-- Reading accepts exactly the documents of the grammar. -/
theorem accepted_iff_grammatical {v : Value} (hv : v.IsPlain) (hclear : IsClear v) :
    (∃ m, read v = .ok m) ↔ IsDocument v := by
  refine passes_readPart hv fun entries htable h ↦ ?_
  have hname := eq_versionField_iff h (hclear.version entries htable)
  have hsame : HasFields [.named (versionField entries) Value.IsText, .required "kind" (· = .text documentKind),
      .named "metadata" (IsTableOf fun _ ↦ True), .required "spec" (IsPart specFields)] entries ↔
      HasFields documentFields entries := by
    have hrespelled : entries.map (fun e ↦ (id e.1, e.2)) = entries := List.map_id _
    refine (Iff.of_eq ?_).trans (hasFields_respell
      (f := ⟨[.text "apiVersion", .text "api_version"], Value.IsText, false⟩) [.text (versionField entries)] id ?_
      fun _ _ _ _ ↦ .rfl)
    · rw [hrespelled]
      rfl
    · simpa using fun k x hx ↦ hname (k, x) hx
  rw [← hsame]
  have hversion : (optional entries (versionField entries) "hexchart/v1" readText).Passes ↔
      (Field.named (versionField entries) Value.IsText).Fits entries :=
    passes_optional h "hexchart/v1" fun x hx ↦ passes_readText (h.entry _ hx).2
  have hkind : (required entries "kind" readKind).Passes ↔
      (Field.required "kind" (· = .text documentKind)).Fits entries :=
    passes_required h fun x hx ↦ passes_readKind (h.entry _ hx).2
  have hmetadata : (optional entries "metadata" [] (readTable .ok)).Passes ↔
      (Field.named "metadata" (IsTableOf fun _ ↦ True)).Fits entries :=
    passes_optional h _ fun x hx ↦ passes_readAnything (h.entry _ hx).2
  have hspec : (required entries "spec" readMachine).Passes ↔
      (Field.required "spec" (IsPart specFields)).Fits entries := by
    refine passes_required h fun x hx ↦ passes_readMachine (h.entry _ hx).2 ?_
    rintro spec states k state rfl hstates hstate
    exact hclear.states entries spec states k state htable hx hstates hstate
  have hothers := passes_noOthers h [versionField entries, "kind", "metadata", "spec"]
    [.named (versionField entries) Value.IsText, .required "kind" (· = .text documentKind),
      .named "metadata" (IsTableOf fun _ ↦ True), .required "spec" (IsPart specFields)] (.refl _)
  refine Checked.passes_bind_of_passes ?_ fun _ ↦ Checked.passes_ok _
  simp only [Checked.passes_both, hkind, hmetadata, hspec, hothers, hasFields_iff, List.forall_mem_cons,
    List.not_mem_nil, false_imp_iff, implies_true, and_true, and_assoc]
  exact and_congr_left' hversion

end

/-- A lamp: its transitions stand under the truth value true, one of them as the name of a state. -/
def lamp : Value :=
  .table [(.text "kind", .text documentKind), (.text "spec", .table [(.text "initial", .text "off"),
    (.text "states", .table [(.text "off", .table [(.bool true, .table [(.text "press", .text "lit")])]),
      (.text "lit", .table [(.text "entry", .list [.table [(.text "log", .text "lit by $event")]])])])])]

theorem lamp_isPlain : lamp.IsPlain := by
  have htable (entries : Entries) (hdistinct : Distinct (Entries.keys entries))
      (h : ∀ e ∈ entries, e.1.IsPlain ∧ e.2.IsPlain) : (Value.table entries).IsPlain :=
    .table hdistinct (fun e he ↦ (h e he).1) fun e he ↦ (h e he).2
  repeat' first
    | exact .text _
    | exact .bool _
    | refine .list (List.forall_mem_singleton.mpr ?_)
    | refine htable _ (by unfold Distinct; decide) ?_
    | refine List.forall_mem_singleton.mpr ⟨?_, ?_⟩
    | refine List.forall_mem_cons.mpr ⟨⟨?_, ?_⟩, ?_⟩

theorem lamp_isClear : IsClear lamp where
  version := by
    rintro _ ⟨⟩
    simp
  states := by
    rintro _ spec states k state ⟨⟩ hspec hstates hstate
    simp only [List.mem_cons, Prod.mk.injEq, Value.text.injEq, Value.table.injEq, String.reduceEq, false_and, true_and,
      List.not_mem_nil, or_false, false_or] at hspec
    subst hspec
    simp only [List.mem_cons, Prod.mk.injEq, Value.text.injEq, Value.table.injEq, String.reduceEq, false_and, true_and,
      List.not_mem_nil, or_false, false_or] at hstates
    subst hstates
    simp only [List.mem_cons, Prod.mk.injEq, Value.table.injEq, List.not_mem_nil, or_false] at hstate
    rcases hstate with ⟨-, rfl⟩ | ⟨-, rfl⟩
    · refine ⟨by simp, List.forall_mem_singleton.mpr fun _ ↦ ?_⟩
      rintro _ ⟨⟩
      exact List.forall_mem_singleton.mpr (.inl ⟨_, rfl⟩)
    · exact ⟨by simp, List.forall_mem_singleton.mpr (by simp)⟩

/-- The lamp is read, and so it is a document of the grammar. -/
theorem lamp_isDocument : lamp.IsPlain ∧ IsClear lamp ∧ IsDocument lamp :=
  ⟨lamp_isPlain, lamp_isClear, (accepted_iff_grammatical lamp_isPlain lamp_isClear).mp ⟨_, rfl⟩⟩

end Manifest

end Statechart
