import Statechart.Proofs.Placement

/-!
# Spellings of transitions

A transition is written as the text of its target, as null, or as a table of its parts (`Manifest.IsSpelling`). Reading
a document refuses every other value that stands for a transition and counts as true, and says where it stands. What
counts as false is let through, whatever it is, and becomes a transition without a target, a guard and actions
(`Manifest.spelled_unless_false`): a truth value, a number or an empty list leads back to the state where it stands.
-/

set_option autoImplicit false
set_option relaxedAutoImplicit false

namespace Statechart

variable {σ : Type}

namespace Manifest

/-- A value is a way to write a transition: the text of its target, null, or a table. -/
def IsSpelling (x : Value) : Prop := (∃ s, x.asText? = some s) ∨ x = .null ∨ ∃ fields, x.opened = .table fields

/-- What is said of a value that cannot be a transition. -/
def noTransition : String := "Input should be a valid dictionary or instance of TransitionSpec"

/-- The transition that a value becomes. -/
inductive Becomes (x : Value) : Transition σ → Prop
  | target {s} (h : x.asText? = some s) : Becomes x ⟨some (.text s), none, []⟩
  | nothing (htext : x.asText? = none) (h : x.isTruthy = false) : Becomes x ⟨none, none, []⟩
  | table {fields t} (h : x.opened = .table fields)
      (htarget : t.target = none ↔ Entries.get? fields "target" = none ∨ Entries.get? fields "target" = some .null) :
      Becomes x t

section

variable {scope : Scope σ} {x : Value} {t : TransitionSpec}

/-- What is no text and no table, and does not count as false, is no transition. -/
theorem reports_of_truthy (htext : x.asText? = none) (htable : ∀ fields, x.opened ≠ .table fields)
    (htruthy : x.isTruthy = true) : (readTransition (expandShorthand x)).Reports ⟨[], .modelType, noTransition⟩ := by
  have hexpanded : expandShorthand x = x := by
    unfold expandShorthand
    rw [htext]
    simp [htruthy]
  have hpart : readPart "TransitionSpec" x = Checked.problem .modelType noTransition := by
    unfold readPart
    split
    · next fields hopened => exact absurd hopened (htable fields)
    · rfl
  rw [hexpanded]
  unfold readTransition
  rw [hpart]
  exact (Checked.reports_problem _ _).bind _

theorem read_of_asText? {s : String} (h : x.asText? = some s) :
    readTransition (expandShorthand x) = .ok { target := some s } := by
  cases x <;> cases h <;> rfl

theorem read_of_false (htext : x.asText? = none) (h : x.isTruthy = false) :
    readTransition (expandShorthand x) = .ok {} := by
  unfold expandShorthand
  rw [htext]
  simp only [h]
  rfl

theorem target_of_read {fields : Entries} (h : readTransition (.table fields) = .ok t) :
    t.target = none ↔ Entries.get? fields "target" = none ∨ Entries.get? fields "target" = some .null := by
  rcases cases_of_optional (fields_of_readTransition h).1 with ⟨hnone, hfield⟩ | ⟨x, s, hfield, hgiven, -, hsome⟩
  · simp [hnone, hfield]
  · simp [hsome, hfield, hgiven]

/-- A value becomes what is built of what is read of it. -/
theorem becomes_of_built {built : Transition σ} (ht : readTransition (expandShorthand x) = .ok t)
    (hbuilt : t.build scope = .ok built) : Becomes x built := by
  cases htext : x.asText? with
  | some s =>
    rw [read_of_asText? htext] at ht
    cases ht
    cases hbuilt
    exact .target htext
  | none =>
    cases htruthy : x.isTruthy with
    | false =>
      rw [read_of_false htext htruthy] at ht
      cases ht
      cases hbuilt
      exact .nothing htext htruthy
    | true =>
      by_cases htable : ∃ fields, x.opened = .table fields
      · obtain ⟨fields, hfields⟩ := htable
        rw [readTransition_of_opened hfields] at ht
        refine .table hfields ?_
        rw [TransitionSpec.target_of_build hbuilt, Option.map_eq_none_iff]
        exact target_of_read ht
      · obtain ⟨problems, hproblems, -⟩ := reports_of_truthy htext (not_exists.mp htable) htruthy
        rw [hproblems] at ht
        cases ht

end

theorem loadValue_of_reports {scope : Scope σ} {source : String} {v : Value} {entries : Entries} {p : Problem}
    (hv : v.opened = .table entries) (h : (read v).Reports p) :
    ∃ problems, loadValue scope source v = .error (.badManifest source problems) ∧ p ∈ problems := by
  obtain ⟨problems, hproblems, hp⟩ := h
  refine ⟨problems, ?_, hp⟩
  unfold loadValue
  rw [hv]
  simp only [hproblems]

/-- What stands for a transition is a text, null or a table, unless it counts as false; every other value is reported
as a problem at its place. Assumes a document of any values, a table of transitions of one of its states (the last one,
if it has two) and a value in it. In the machine that is loaded, a text that is written for an event of a state is the
target of the transition, and what counts as false becomes a transition without parts. A table becomes a transition
without a target only if it gives none. -/
theorem spelled_unless_false (scope : Scope σ) (source : String) {v stateKey eventKey x : Value}
    (h : Stands v stateKey eventKey x) :
    (IsSpelling x ∨ x.isTruthy = false ∨ ∃ problems, loadValue scope source v = .error (.badManifest source problems) ∧
      ⟨place stateKey eventKey, .modelType, noTransition⟩ ∈ problems) ∧
    ∀ machine, loadValue scope source v = .ok machine → ∀ state event value kind, Says v state event x →
      value.asText? = some state → kind.asText? = some event → ∃ t, machine.Has value kind t ∧ Becomes x t := by
  refine ⟨?_, fun machine hload state event value kind hsays hvalue hkind ↦ ?_⟩
  · by_cases hspelling : IsSpelling x
    · exact .inl hspelling
    · cases htruthy : x.isTruthy with
      | false => exact .inr (.inl rfl)
      | true =>
        have htext : x.asText? = none := by
          rw [Option.eq_none_iff_forall_ne_some]
          exact fun s hs ↦ hspelling (.inl ⟨s, hs⟩)
        have htable (fields : Entries) : x.opened ≠ .table fields := fun hx ↦ hspelling (.inr (.inr ⟨fields, hx⟩))
        have hreports := h.reports (reports_of_truthy htext htable htruthy)
        obtain ⟨spec, states, state, on, ⟨document, hdocument, -⟩, -⟩ := h
        exact .inr (.inr (loadValue_of_reports hdocument hreports))
  · obtain ⟨t, built, ht, hbuilt, hhas⟩ := hsays.built hload hvalue hkind
    exact ⟨built, hhas, becomes_of_built ht hbuilt⟩

theorem not_isSpelling_bool (b : Bool) : ¬ IsSpelling (.bool b) := by
  rintro (⟨s, hs⟩ | hnull | ⟨fields, hfields⟩)
  · cases hs
  · cases hnull
  · cases hfields

/-- The truth value true is reported where it stands for a transition, and a text becomes its target. -/
theorem spelled_unless_false_of_switch :
    (Stands (switch (.bool true)) (.text "A") (.text "GO") (.bool true) ∧
      ∃ problems, loadValue ({} : Scope Unit) dataSource (switch (.bool true)) =
        .error (.badManifest dataSource problems) ∧
        ⟨place (.text "A") (.text "GO"), .modelType, noTransition⟩ ∈ problems) ∧
    Says (switch (.text "A")) "A" "GO" (.text "A") ∧
      ∃ machine t, loadValue ({} : Scope Unit) dataSource (switch (.text "A")) = .ok machine ∧
        machine.Has (.text "A") (.text "GO") t ∧ Becomes (.text "A") t := by
  refine ⟨⟨stands_switch _, ?_⟩, says_switch _, ?_⟩
  · have hyes := spelled_unless_false ({} : Scope Unit) dataSource (stands_switch (.bool true))
    rcases hyes.1 with hspelling | hfalse | hreported
    · exact absurd hspelling (not_isSpelling_bool true)
    · cases hfalse
    · exact hreported
  · have htext := spelled_unless_false ({} : Scope Unit) dataSource (stands_switch (.text "A"))
    obtain ⟨t, hhas, hbecomes⟩ := htext.2 _ rfl "A" "GO" (.text "A") (.text "GO") (says_switch _) rfl rfl
    exact ⟨_, t, rfl, hhas, hbecomes⟩

/-- The truth value false, as which an unquoted `OFF` may be read, is no way to write a transition. Where it stands for
one the document is loaded, and the machine has a transition that leads nowhere else. -/
theorem no_becomes_transition :
    Stands (switch (.bool false)) (.text "A") (.text "GO") (.bool false) ∧ ¬ IsSpelling (.bool false) ∧
      ∃ machine, loadValue ({} : Scope Unit) dataSource (switch (.bool false)) = .ok machine ∧
        machine.Has (.text "A") (.text "GO") ⟨none, none, []⟩ ∧
        machine.transition ⟨.text "A", .table [], [], false⟩ ⟨.text "GO", []⟩ = .ok ⟨.text "A", .table [], [], true⟩ :=
  ⟨stands_switch _, not_isSpelling_bool false, _, rfl, ⟨_, rfl, rfl⟩, rfl⟩

end Manifest

end Statechart
