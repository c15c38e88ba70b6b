import Statechart.Proofs.Episode
import Statechart.Proofs.Transition

/-!
# Run to completion

Whatever effects and listeners do to the service that called them, and whatever they raise, the happenings of a
service come in episodes that do not overlap (`runs_to_completion`): the start comes first and once; between the
commit of an event and the end of its round no other event is taken or committed; the effects performed are those of
the committed state, in order, each once and with its context and event, and all of them before the round begins.
-/

set_option autoImplicit false
set_option relaxedAutoImplicit false

namespace Statechart

variable {σ : Type}

/-- Episodes one after the other: the start, then the handling of events. The last may be unfinished. -/
inductive Disciplined (m : Machine σ) : List (Happening σ) → Prop
  | untouched : Disciplined m []
  | starting {current rest} (h : Opening m (current ++ rest)) : Disciplined m current
  | serving {first current rest} {handlings : List (List (Happening σ))} (hfirst : Opening m first)
      (hhandlings : ∀ h ∈ handlings, Handling m h) (h : Handling m (current ++ rest)) :
      Disciplined m (first ++ handlings.flatten ++ current)

section

variable {id : Nat} {m : Machine σ} {s : State σ} {k : List (Frame σ)} {e : Exposure} {current : List (Happening σ)}

/-- A start under way has a rest. -/
theorem Starting.rest (h : Starting id m s k e current) : ∃ rest, Opening m (current ++ rest) := by
  cases h with
  | @effects k initial done left e hk h hs ha he =>
    refine ⟨performances initial.context Event.init left ++ [.completed], ?_⟩
    rw [← List.append_assoc, ← opening_append, ← ha]
    exact .completed h
  | opening hk h hs => exact ⟨_, .completed h⟩

/-- The handling of an event under way has a rest. -/
theorem Serving.rest (h : Serving id m s k e current) : ∃ rest, Handling m (current ++ rest) := by
  have hnone : Handling m ([] ++ [.taken s Event.init, .refused .missingKey]) := .refused
  cases h with
  | idle => exact ⟨_, hnone⟩
  | openingFailed hk => exact ⟨_, hnone⟩
  | drain hk he => exact ⟨_, hnone⟩
  | announceFailed hk => exact ⟨_, hnone⟩
  | moving hk => exact ⟨[.refused .missingKey], .refused⟩
  | @effects k source event next done left e hk h hs ha he =>
    refine ⟨performances next.context event left ++ [.announced event, .completed], ?_⟩
    have hhandling : Handling m (announced source event next [] ++ [.completed]) := .completed h
    rw [announced_nil, ha, handled_append] at hhandling
    simpa using hhandling
  | @announce k source event next hk h hs =>
    refine ⟨[.announced event, .completed], ?_⟩
    have hhandling : Handling m (announced source event next [] ++ [.completed]) := .completed h
    simpa using hhandling
  | round hk h hs => exact ⟨_, .completed h⟩

/-- The course of a service is disciplined. -/
theorem Course.disciplined {hs : List (Happening σ)} {s : Service σ} (h : Course id hs s k e) :
    Disciplined s.machine (episodic hs) := by
  cases h with
  | untouched _ _ _ _ _ hhs =>
    rw [hhs]
    exact .untouched
  | starting _ _ h =>
    obtain ⟨rest, hrest⟩ := h.rest
    exact .starting hrest
  | serving _ _ hopening hhandlings h hhs =>
    obtain ⟨rest, hrest⟩ := h.rest
    rw [hhs]
    exact .serving hopening hhandlings hrest

/-- A handling commits only what follows its state. -/
theorem Handling.follows (h : Handling m current) {source next : State σ} {event : Event}
    (hcommitted : .committed source event next ∈ current) : m.Follows source event next := by
  cases h with
  | refused => simp at hcommitted
  | effectFailed h ha =>
    simp [handled, performances] at hcommitted
    obtain ⟨rfl, rfl, rfl⟩ := hcommitted
    exact Machine.follows_of_transition h
  | listenerFailed h =>
    simp [announced, handled, performances, notices] at hcommitted
    obtain ⟨rfl, rfl, rfl⟩ := hcommitted
    exact Machine.follows_of_transition h
  | completed h =>
    simp [announced, handled, performances, notices] at hcommitted
    obtain ⟨rfl, rfl, rfl⟩ := hcommitted
    exact Machine.follows_of_transition h

theorem Opening.not_committed (h : Opening m current) (source next : State σ) (event : Event) :
    .committed source event next ∉ current := by
  cases h <;> simp [opening, performances]

theorem Handling.not_started (h : Handling m current) (initial : State σ) : .started initial ∉ current := by
  cases h <;> simp [announced, handled, performances, notices]

theorem Opening.started (h : Opening m current) {initial : State σ} (hstarted : .started initial ∈ current) :
    m.initialState = .ok initial := by
  cases h with
  | completed h =>
    simp [opening, performances] at hstarted
    rw [hstarted, h]
  | failed h ha =>
    simp [opening, performances] at hstarted
    rw [hstarted, h]

/-- Only the first state of a machine is started. -/
theorem Disciplined.started (h : Disciplined m current) {initial : State σ} (hstarted : .started initial ∈ current) :
    m.initialState = .ok initial := by
  cases h with
  | untouched => simp at hstarted
  | starting h => exact h.started (List.mem_append_left _ hstarted)
  | serving hfirst hhandlings h =>
    rcases List.mem_append.mp hstarted with hbefore | hcurrent
    · rcases List.mem_append.mp hbefore with hopening | hhandling
      · exact hfirst.started hopening
      · obtain ⟨handling, hmem, hstarted⟩ := List.mem_flatten.mp hhandling
        exact absurd hstarted ((hhandlings handling hmem).not_started initial)
    · exact absurd (List.mem_append_left _ hcurrent) (h.not_started initial)

/-- What is committed in episodes follows the state that it is committed from. -/
theorem Disciplined.follows (h : Disciplined m current) {source next : State σ} {event : Event}
    (hcommitted : .committed source event next ∈ current) : m.Follows source event next := by
  cases h with
  | untouched => simp at hcommitted
  | starting h => exact absurd (List.mem_append_left _ hcommitted) (h.not_committed source next event)
  | serving hfirst hhandlings h =>
    rcases List.mem_append.mp hcommitted with hbefore | hcurrent
    · rcases List.mem_append.mp hbefore with hopening | hhandling
      · exact absurd hopening (hfirst.not_committed source next event)
      · obtain ⟨handling, hmem, hcommitted⟩ := List.mem_flatten.mp hhandling
        exact (hhandlings handling hmem).follows hcommitted
    · exact h.follows (List.mem_append_left _ hcurrent)

end

/-- Where an effect is performed, its script is begun. -/
theorem Run.step_of_performed {r : Run σ} {id : Nat} {e : Effect σ} {context : Value} {event : Event}
    (h : r.happening id = some (.performed e context event)) :
    ∃ rest below, r.step = .script (r.world.mark id (.performed e.kind context event))
      (.effects id context event rest :: below) (e.exec.script context event) := by
  cases happens_of_happening h with
  | awaiting hbegun | attempting hbegun | caught hbegun => cases World.isRequest_begun _ id _ _ hbegun
  | performed => exact ⟨_, _, rfl⟩

/-- The happenings of a service are those of episodes that do not overlap. Assumes: a history of a world that began
without services, with any callbacks, which may call the service back and fail in any way. Then the start comes first
and once, and each event is handled in an episode of its own, of which only the last may be unfinished; the effects
of an episode are performed in order with the context and the event of the state they belong to, each at most once,
all of them unless one fails, and before the round begins. What is committed has the effects of exit, transition and
entry, the first state those of its entry, and an effect that is performed is called with what it is performed with. -/
theorem runs_to_completion {w : World σ} (hnew : w.services = []) {past : List (Run σ)} {r : Run σ}
    (hpast : History (.idle w) past r) {id : Nat} {s : Service σ} (hs : r.world.services[id]? = some s) :
    Disciplined s.machine (episodic (happenings id past)) ∧
      (∀ source event next, .committed source event next ∈ happenings id past →
        s.machine.Follows source event next) ∧
      (∀ initial, .started initial ∈ happenings id past →
        ∃ node, s.machine.node s.machine.initial = .ok node ∧ initial.actions = Action.effects node.entry) ∧
      ∀ p ∈ past, ∀ e context event, p.happening id = some (.performed e context event) →
        ∃ rest below, p.step = .script (p.world.mark id (.performed e.kind context event))
          (.effects id context event rest :: below) (e.exec.script context event) := by
  have hdisciplined := (hpast.course hnew hs).disciplined
  refine ⟨hdisciplined, ?_, ?_, fun p _ e context event hp ↦ p.step_of_performed hp⟩
  · intro source event next hcommitted
    exact hdisciplined.follows (List.mem_filter.mpr ⟨hcommitted, rfl⟩)
  · intro initial hstarted
    have hmem : .started initial ∈ episodic (happenings id past) := List.mem_filter.mpr ⟨hstarted, rfl⟩
    exact Machine.actions_initialState (hdisciplined.started hmem)

/-- A lamp on its way through the round of the event that lit it. -/
theorem runs_to_completion_of_lamp :
    ∃ s, ((pressed shines).after 16).world.services[0]? = some s ∧
      Disciplined s.machine
        (episodic (happenings 0 (.idle (World.ofLamp shines) :: (pressed shines).trail 16))) :=
  ⟨_, rfl, (runs_to_completion rfl (History.ofLamp shines 16) rfl).1⟩

end Statechart
