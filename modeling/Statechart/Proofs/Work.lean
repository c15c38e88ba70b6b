import Statechart.Project.Basic

/-!
# Work on a project, step by step

What work does to a project is found step by step: `Work.on_bind` runs one step after the other and stops at the first
that fails, and the other lemmas run the single steps. `Work.ok_of_on_bind` takes apart work that succeeds. Work that
only takes notes is quiet (`Work.IsQuiet`): what it leaves is the project that it found, but for the journal.
-/

set_option autoImplicit false
set_option relaxedAutoImplicit false

namespace Statechart.Work

variable {α β : Type} (p : Project)

@[simp] theorem on_pure (a : α) : (pure a : Work α).on p = (.ok a, p) := rfl

@[simp] theorem on_throw (f : Failure) : (throw f : Work α).on p = (.error f, p) := rfl

@[simp] theorem on_ofOutcome (o : Outcome α) : (ofOutcome o).on p = (o, p) := rfl

@[simp] theorem on_get : (get : Work Project).on p = (.ok p, p) := rfl

@[simp] theorem on_set (q : Project) : (set q : Work PUnit).on p = (.ok ⟨⟩, q) := rfl

@[simp] theorem on_modify (f : Project → Project) : (modify f : Work PUnit).on p = (.ok ⟨⟩, f p) := rfl

@[simp] theorem on_get_bind (f : Project → Work α) : (get >>= f).on p = (f p).on p := rfl

@[simp] theorem on_set_bind (q : Project) (f : PUnit → Work α) : (set q >>= f).on p = (f ⟨⟩).on q := rfl

@[simp] theorem on_modify_bind (g : Project → Project) (f : PUnit → Work α) :
    (modify g >>= f).on p = (f ⟨⟩).on (g p) := rfl

theorem on_bind (x : Work α) (f : α → Work β) :
    (x >>= f).on p = match x.on p with
      | (.ok a, q) => (f a).on q
      | (.error e, q) => (.error e, q) := by
  unfold on ExceptT.run StateT.run
  simp only [bind, ExceptT.bind, ExceptT.mk, StateT.bind, ExceptT.bindCont]
  cases x p with
  | mk o q => cases o <;> rfl

theorem on_tryCatch (x : Work α) (handle : Failure → Work α) :
    (tryCatch x handle).on p = match x.on p with
      | (.ok a, q) => (.ok a, q)
      | (.error e, q) => (handle e).on q := by
  unfold on ExceptT.run StateT.run
  simp only [tryCatch, tryCatchThe, MonadExceptOf.tryCatch, ExceptT.tryCatch, ExceptT.mk, bind, StateT.bind]
  cases x p with
  | mk o q => cases o <;> rfl

variable {p} {q : Project}

/-- Work in two steps ends where the first fails, or with the second on what the first has left. -/
theorem cases_of_on_bind {x : Work α} {f : α → Work β} {o : Outcome β} (h : (x >>= f).on p = (o, q)) :
    (∃ e, x.on p = (.error e, q) ∧ o = .error e) ∨
      ∃ a between, x.on p = (.ok a, between) ∧ (f a).on between = (o, q) := by
  rw [on_bind] at h
  split at h
  · next a between hx => exact .inr ⟨a, between, hx, h⟩
  · next e between hx =>
    obtain ⟨rfl, rfl⟩ := Prod.mk.inj h
    exact .inl ⟨e, hx, rfl⟩

/-- Work that begins with an outcome. -/
theorem cases_of_on_ofOutcome {x : Outcome α} {f : α → Work β} {o : Outcome β}
    (h : (ofOutcome x >>= f).on p = (o, q)) :
    (∃ e, x = .error e ∧ o = .error e ∧ q = p) ∨ ∃ a, x = .ok a ∧ (f a).on p = (o, q) := by
  rcases cases_of_on_bind h with ⟨e, hx, ho⟩ | ⟨a, between, hx, h⟩
  · cases hx
    exact .inl ⟨e, rfl, ho, rfl⟩
  · cases hx
    exact .inr ⟨a, rfl, h⟩

/-- Work in two steps that succeeds. -/
theorem ok_of_on_bind {x : Work α} {f : α → Work β} {b : β} (h : (x >>= f).on p = (.ok b, q)) :
    ∃ a between, x.on p = (.ok a, between) ∧ (f a).on between = (.ok b, q) :=
  (cases_of_on_bind h).resolve_left fun ⟨_, _, hfails⟩ ↦ by cases hfails

/-- Work that succeeds and whose result is mapped. -/
theorem ok_of_on_map {x : Work α} {f : α → β} {b : β} (h : (f <$> x).on p = (.ok b, q)) :
    ∃ a, x.on p = (.ok a, q) ∧ b = f a := by
  rw [← bind_pure_comp] at h
  obtain ⟨a, between, hx, h⟩ := ok_of_on_bind h
  cases h
  exact ⟨a, hx, rfl⟩

/-! ### Work that only takes notes -/

/-- Nothing but the journal changes. -/
def IsQuiet (w : Work α) : Prop := ∀ p, ∃ journal, (w.on p).2 = { p with journal }

namespace IsQuiet

theorem after {w : Work α} {o : Outcome α} (h : IsQuiet w) (hw : w.on p = (o, q)) :
    ∃ journal, q = { p with journal } := by
  obtain ⟨journal, hq⟩ := h p
  rw [hw] at hq
  exact ⟨journal, hq⟩

theorem pure (a : α) : IsQuiet (pure a : Work α) := fun p ↦ ⟨p.journal, rfl⟩

theorem throw (f : Failure) : IsQuiet (throw f : Work α) := fun p ↦ ⟨p.journal, rfl⟩

theorem ofOutcome (x : Outcome α) : IsQuiet (ofOutcome x) := fun p ↦ ⟨p.journal, rfl⟩

theorem get : IsQuiet (get : Work Project) := fun p ↦ ⟨p.journal, rfl⟩

theorem note (e : Entry) : IsQuiet (note e) := fun p ↦ ⟨e :: p.journal, rfl⟩

theorem bind {x : Work α} {f : α → Work β} (hx : IsQuiet x) (hf : ∀ a, IsQuiet (f a)) : IsQuiet (x >>= f) := by
  intro p
  rw [on_bind]
  split
  · next a between h =>
    obtain ⟨journal, rfl⟩ := hx.after h
    exact hf a _
  · next e between h => exact hx.after h

theorem forM {xs : List α} {f : α → Work PUnit} (hf : ∀ a, IsQuiet (f a)) : IsQuiet (xs.forM f) := by
  induction xs with
  | nil => exact pure _
  | cons x xs ih => exact (hf x).bind fun _ ↦ ih

end IsQuiet

end Statechart.Work
