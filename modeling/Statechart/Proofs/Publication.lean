import Statechart.Proofs.Ledger

/-!
# What listeners are told

A service calls its listeners in two places: in the round of an event, and when a listener subscribes. In both it
passes the state that it holds at this moment (`History.told_current`), and the call is what the next step begins
(`Run.step_of_tells`). A service stores a state in four ways (`Stored`), of which all but the first clear the pending
effects. So no listener sees pending effects once the service has been started; a listener that subscribes before
sees those of the first state (`told_without_pending`).
-/

set_option autoImplicit false
set_option relaxedAutoImplicit false

namespace Statechart

variable {σ : Type}

/-! ### The states of a service -/

/-- A state is stored. -/
def Happening.isStoring : Happening σ → Bool
  | .started _ | .committed _ _ _ => true
  | _ => false

/-- How one step leaves the state of a service. -/
inductive Stored : Option (Service σ) → Option (Happening σ) → Service σ → Prop
  | created {s'} (hinitial : s'.machine.initialState = .ok s'.state) : Stored none none s'
  | hosted {initial s'} (hinitial : s'.machine.initialState = .ok initial) (hstate : s'.state = initial.settled) :
      Stored none (some (.started initial)) s'
  | started {s s'} (hmachine : s'.machine = s.machine) (hstate : s'.state = s.state.settled) :
      Stored (some s) (some (.started s.state)) s'
  | committed {s s' event next} (hmachine : s'.machine = s.machine)
      (hnext : s.machine.transition s.state event = .ok next) (hstate : s'.state = next.settled) :
      Stored (some s) (some (.committed s.state event next)) s'
  | kept {s s' o} (hmachine : s'.machine = s.machine) (hstate : s'.state = s.state)
      (ho : ∀ h ∈ o, h.isStoring = false) : Stored (some s) o s'

theorem Turn.stored {id : Nat} {hs : List (Happening σ)} {v v' : View σ} {o : Option (Happening σ)}
    (hturn : Turn id v o v') (hcourse : v.Course id hs) {s' : Service σ} (hs' : v'.service = some s') :
    Stored v.service o s' := by
  cases hturn with
  | created hinitial =>
    cases hs'
    exact .created hinitial
  | hosted hinitial =>
    cases hs'
    exact .hosted hinitial rfl
  | started hstatus =>
    cases hs'
    exact .started rfl rfl
  | committed hnext =>
    cases hs'
    have hsource := Course.source_eq hcourse
    subst hsource
    exact .committed rfl hnext rfl
  | openingAbandoned hf =>
    obtain ⟨s, rfl, rfl⟩ := Option.map_eq_some_iff.mp hs'
    exact .kept rfl rfl (by simp [Happening.isStoring])
  | drainAbandoned =>
    obtain ⟨s, rfl, rfl⟩ := Option.map_eq_some_iff.mp hs'
    exact .kept rfl rfl (by simp [Happening.isStoring])
  | stopped | queued | sent | subscribed | unsubscribed | taken | drained | announced | notified =>
    cases hs'
    exact .kept rfl rfl (by simp [Happening.isStoring])
  | orphaned => cases hs'
  | _ =>
    dsimp only at hs'
    subst hs'
    exact .kept rfl rfl (by simp [Happening.isStoring])

/-- What holds of a state that is stored and survives every happening holds of the states of a service at the end of
every history that began without services. -/
theorem History.states {w : World σ} {past : List (Run σ)} {r : Run σ} (h : History (.idle w) past r)
    (hnew : w.services = []) {id : Nat} {P : List (Happening σ) → Service σ → Prop}
    (hstored : ∀ {hs before o s'}, Stored before o s' → (before = none → hs = []) → (∀ s ∈ before, P hs s) →
      P (hs ++ o.toList) s') {s : Service σ} (hs : r.world.services[id]? = some s) : P (happenings id past) s := by
  have hall := h.turns id (P := fun hs v ↦ v.Course id hs ∧ ∀ s, v.service = some s → P hs s)
    ⟨by simp [View.Course, Run.idle, Run.view, hnew], by simp [Run.idle, Run.view, hnew]⟩
    fun {hs v o v'} h hturn ↦ ⟨Course.turn h.1 hturn, fun s' hs' ↦ by
      refine hstored (hturn.stored h.1 hs') (fun hnone ↦ ?_) h.2
      have hcourse := h.1
      rw [View.Course, hnone] at hcourse
      exact hcourse.1⟩
  exact hall.2 s hs

/-! ### The calls of listeners -/

/-- The next step of a run begins a call of a listener by a service, which passes it a state. -/
def Run.Tells (id : Nat) (l : Listener) (snapshot : Snapshot) (r : Run σ) : Prop :=
  r.happening id = some (.notified l snapshot) ∨ r.happening id = some (.replayed l snapshot)

section

variable {id : Nat} {l : Listener} {snapshot : Snapshot} {w : World σ}

/-- Only a request to subscribe has a replay. -/
theorem World.subscribe_of_replayed {q : Request σ} (h : w.requested id q = some (.replayed l snapshot)) :
    ∃ name listener subscription s, q = .subscribe name listener subscription ∧ l = .named listener ∧
      lookup? w.names name = some (.service id) ∧ w.services[id]? = some s ∧ snapshot = s.state.snapshot := by
  simp only [World.requested, Option.bind_eq_some_iff] at h
  obtain ⟨s, hs, h⟩ := h
  cases q with
  | subscribe name listener subscription =>
    simp only [Option.ite_none_right_eq_some] at h
    obtain ⟨hown, h⟩ := h
    cases h
    refine ⟨name, listener, subscription, s, rfl, rfl, ?_, hs, rfl⟩
    unfold World.own? at hown
    split at hown
    · next i hname =>
      cases hown
      exact hname
    · cases hown
  | _ =>
    simp only at h
    repeat' split at h
    all_goals cases h

/-- A script whose first request is a replay calls the listener. -/
theorem World.call_of_begun {stack : List (Frame σ)} {s : Script σ}
    (h : w.begun id s = some (.replayed l snapshot)) :
    ∃ w' below, Run.proceed w stack s = .call w' below l (.state snapshot) := by
  have hperform {q : Request σ} (stack : List (Frame σ)) (h : w.requested id q = some (.replayed l snapshot)) :
      ∃ w' below, Run.perform w stack q = .call w' below l (.state snapshot) := by
    obtain ⟨name, listener, subscription, s, rfl, rfl, hname, hs, rfl⟩ := World.subscribe_of_replayed h
    simp only [Run.perform, Run.withOwnService, Run.withService, World.serviceOf, hname, hs, Run.subscribe]
    exact ⟨_, _, rfl⟩
  cases s with
  | done => cases h
  | fail f => cases h
  | call q next => exact hperform _ h
  | attempt q next => exact hperform _ h

/-- Where a listener is told of a state, the next step calls it with the state. -/
theorem Run.step_of_tells {r : Run σ} (h : r.Tells id l snapshot) :
    ∃ w' below, r.step = .call w' below l (.state snapshot) := by
  rcases h with hnotified | hreplayed
  · cases happens_of_happening hnotified with
    | awaiting hbegun | attempting hbegun | caught hbegun => cases World.isRequest_begun _ id _ _ hbegun
    | notified hticket =>
      simp only [step, resume, hticket, if_true]
      exact ⟨_, _, rfl⟩
  · cases happens_of_happening hreplayed with
    | awaiting hbegun | attempting hbegun | caught hbegun => exact World.call_of_begun hbegun
    | kept hhost hid hs =>
      simp only [step, resume, hhost, hid, hs, subscribe]
      exact ⟨_, _, rfl⟩

/-- A turn tells listeners of the state of the service. -/
theorem Turn.told_current {hs : List (Happening σ)} {v v' : View σ} {h : Happening σ} (hturn : Turn id v (some h) v')
    (hcourse : v.Course id hs) (htold : h = .notified l snapshot ∨ h = .replayed l snapshot) :
    ∃ s, v.service = some s ∧ snapshot = s.state.snapshot := by
  cases hturn with
  | @subscribed k s l' e =>
    rcases htold with h | h <;> cases h
    exact ⟨s, rfl, rfl⟩
  | @notified k s passed ticket l' rest e hticket =>
    rcases htold with h | h <;> cases h
    obtain ⟨current, -, hserving⟩ := Course.handles hcourse (by nofun)
    cases hserving with
    | round hk hnext hstate => exact ⟨s, rfl, by rw [hstate]⟩
  | _ => rcases htold with h | h <;> cases h

/-- A round is under way where a listener is notified. -/
theorem Turn.frames_of_notified {v v' : View σ} (hturn : Turn id v (some (.notified l snapshot)) v') :
    v.frames ≠ [] := by
  cases hturn with
  | notified hticket => exact List.cons_ne_nil _ _

/-- Listeners are told of the state that the service holds when their call begins. -/
theorem History.told_current {past : List (Run σ)} {r : Run σ} (hpast : History (.idle w) past r)
    (hnew : w.services = []) (htold : r.Tells id l snapshot) :
    ∃ s, r.world.services[id]? = some s ∧ snapshot = s.state.snapshot := by
  have hturn := r.step_turn id
  have hcourse := hpast.view_course hnew id
  rcases htold with h | h
  · rw [h] at hturn
    exact hturn.told_current hcourse (.inl rfl)
  · rw [h] at hturn
    exact hturn.told_current hcourse (.inr rfl)

/-- A state without pending effects is held by every service that was started. -/
theorem History.settled {past : List (Run σ)} {r : Run σ} (hpast : History (.idle w) past r) (hnew : w.services = [])
    {s : Service σ} (hs : r.world.services[id]? = some s) {initial : State σ}
    (hstarted : .started initial ∈ happenings id past) : s.state.actions = [] := by
  have hall : s.state.actions = [] ∨ ∀ initial, .started initial ∉ happenings id past := by
    refine hpast.states hnew (P := fun hs s ↦ s.state.actions = [] ∨ ∀ initial, .started initial ∉ hs) ?_ hs
    intro hs before o s' hstored hempty hbefore
    cases hstored with
    | created hinitial =>
      rw [hempty rfl]
      exact .inr (by simp)
    | hosted hinitial hstate | started hmachine hstate | committed hmachine hnext hstate =>
      exact .inl (by rw [hstate]; rfl)
    | kept hmachine hstate ho =>
      rw [hstate]
      refine (hbefore _ rfl).imp_right fun hnever initial hmem ↦ ?_
      rcases List.mem_append.mp hmem with hmem | hmem
      · exact hnever initial hmem
      · cases ho _ (Option.mem_toList.mp hmem)
  exact hall.resolve_right fun hnever ↦ hnever initial hstarted

end

theorem Opening.mem_started {m : Machine σ} {current : List (Happening σ)} (h : Opening m current) :
    ∃ initial, .started initial ∈ current := by
  cases h with
  | @completed initial h => exact ⟨initial, by simp [opening]⟩
  | @failed initial done e rest f h ha => exact ⟨initial, by simp [opening]⟩

/-- A service that was never started holds its first state and has nothing under way. -/
theorem Course.first {id : Nat} {hs : List (Happening σ)} {s : Service σ} {k : List (Frame σ)} {e : Exposure}
    (h : Course id hs s k e) (hnever : ∀ initial, .started initial ∉ hs) :
    s.machine.initialState = .ok s.state ∧ k = [] := by
  have hepisodic (initial : State σ) : .started initial ∉ episodic hs :=
    fun hmem ↦ hnever initial (List.mem_filter.mp hmem).1
  cases h with
  | untouched _ hinitial _ _ hk _ => exact ⟨hinitial, hk⟩
  | starting _ _ h =>
    generalize episodic hs = current at h hepisodic
    cases h with
    | @effects k initial => exact absurd (by simp [opening]) (hepisodic initial)
    | @opening k initial => exact absurd (by simp [opening]) (hepisodic initial)
  | serving _ _ hopening _ _ hhs =>
    obtain ⟨initial, hmem⟩ := hopening.mem_started
    exact absurd (by simp [hhs, hmem]) (hepisodic initial)

/-! ### Pending effects -/

/-- A world in which lamps are on from the beginning. -/
def World.ofLit (shine : Value → Event → Outcome Value) : World Unit :=
  { World.ofLamp shine with machine := some { lamp shine with initial := .text "on" } }

/-- A lamp that is watched before it is started, and again once it was. -/
def watched : Run Unit :=
  .script (World.ofLit shines) [] (.call (.create "lamp") fun _ ↦ .call (.subscribe "lamp" "eye" "eye") fun _ ↦
    .call (.start "lamp") fun _ ↦ .request (.subscribe "lamp" "eye" "eye"))

theorem History.ofWatched (n : Nat) :
    History (.idle (World.ofLit shines)) (.idle (World.ofLit shines) :: watched.trail n) (watched.after n) :=
  .trans (.call .begin rfl _) (.steps watched n)

/-- Once a service has been started, no listener sees pending effects. Assumes: a history of a world that began
without services, with any callbacks, whose next step calls a listener with a state, in a round or as a replay. The
state has no pending effects if the service was started before. If it was not, the call is the replay to a new
subscriber, and the pending effects are those of the entry of the first state. -/
theorem told_without_pending {w : World σ} (hnew : w.services = []) {past : List (Run σ)} {r : Run σ}
    (hpast : History (.idle w) past r) {id : Nat} {l : Listener} {snapshot : Snapshot}
    (htold : r.Tells id l snapshot) :
    (∃ w' below, r.step = .call w' below l (.state snapshot)) ∧
      ((∃ initial, .started initial ∈ happenings id past) → snapshot.actions = []) ∧
      ((∀ initial, .started initial ∉ happenings id past) → r.happening id = some (.replayed l snapshot) ∧
        ∃ s node, r.world.services[id]? = some s ∧ s.machine.node s.machine.initial = .ok node ∧
          snapshot.actions = (Action.effects node.entry).map (·.kind)) := by
  obtain ⟨s, hs, rfl⟩ := hpast.told_current hnew htold
  refine ⟨r.step_of_tells htold, fun ⟨initial, hstarted⟩ ↦ ?_, fun hnever ↦ ?_⟩
  · simp [State.snapshot, hpast.settled hnew hs hstarted]
  · obtain ⟨hinitial, hidle⟩ := (hpast.course hnew hs).first hnever
    obtain ⟨node, hnode, hactions⟩ := Machine.actions_initialState hinitial
    refine ⟨htold.resolve_left fun hnotified ↦ ?_, s, node, hs, hnode, by simp [State.snapshot, hactions]⟩
    have hturn := r.step_turn id
    rw [hnotified] at hturn
    exact hturn.frames_of_notified hidle

/-- The second time that the lamp is watched, its effect has been performed. -/
theorem told_without_pending_of_watched :
    ∃ snapshot, (watched.after 13).Tells 0 (.named "eye") snapshot ∧ snapshot.value = .text "on" ∧
      snapshot.actions = [] := by
  have hstarted : ∃ initial, .started initial ∈ happenings 0 (.idle (World.ofLit shines) :: watched.trail 13) :=
    ⟨_, List.mem_of_getElem? (i := 1) rfl⟩
  exact ⟨_, .inr rfl, rfl, (told_without_pending rfl (History.ofWatched 13) (.inr rfl)).2.1 hstarted⟩

/-- Before the start, whoever watches the lamp sees the effect that its first state still has to perform. -/
theorem pending_effects_replayed :
    ¬ ∀ past r, History (.idle (World.ofLit shines)) past r → ∀ l snapshot, r.Tells 0 l snapshot →
      snapshot.actions = [] := by
  intro h
  have hsettled := h _ _ (History.ofWatched 3) (.named "eye") ⟨.text "on", .null, ["shine"], false⟩ (.inr rfl)
  cases hsettled

end Statechart
