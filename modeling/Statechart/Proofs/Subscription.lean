import Statechart.Proofs.Publication

/-!
# Subscriptions

The registry of a service holds a listener once, under a ticket that no other registration ever gets
(`Registry.Sound`). A round of notifications goes over the registrations of its beginning; what has become of them
since is told by their tickets (`Registry.Remembers`). So only subscribed listeners are notified
(`History.subscribed_of_notified`), and a subscription begins with the replay of the state that the service holds at
this moment (`History.since`).
-/

set_option autoImplicit false
set_option relaxedAutoImplicit false

namespace Statechart

variable {σ : Type}

/-! ### Registries -/

namespace Registry

/-- Registrations that have a listener or a ticket in common are the same, and the next ticket is new. -/
structure Sound (r : Registry) : Prop where
  unique : ∀ e ∈ r.entries, ∀ e' ∈ r.entries, e.1 = e'.1 ∨ e.2 = e'.2 → e = e'
  fresh : ∀ e ∈ r.entries, e.1 < r.next

/-- A registration of some time ago: nobody else has its ticket, or will get it. -/
structure Remembers (r : Registry) (e : Nat × Listener) : Prop where
  given : e.1 < r.next
  unique : ∀ e' ∈ r.entries, e'.1 = e.1 → e' = e

variable {r : Registry} {e : Nat × Listener} {l l' : Listener} {ticket : Nat}

theorem contains_iff : r.contains l = true ↔ ∃ e ∈ r.entries, e.2 = l := by
  simp [contains]

theorem hasTicket_iff : r.hasTicket ticket = true ↔ ∃ e ∈ r.entries, e.1 = ticket := by
  simp [hasTicket]

/-- A listener that is present keeps its registration; any other gets a new one behind the others. -/
theorem add_cases (r : Registry) (l : Listener) :
    (r.contains l = true ∧ (r.add l).1 = r) ∨
      (r.contains l = false ∧ (r.add l).1 = ⟨r.entries ++ [(r.next, l)], r.next + 1⟩) := by
  unfold add
  cases hfound : r.entries.find? fun e ↦ e.2 == l with
  | some e =>
    have hmem := List.mem_of_find?_eq_some hfound
    have hsame := List.find?_some hfound
    exact .inl ⟨contains_iff.mpr ⟨e, hmem, by simpa using hsame⟩, rfl⟩
  | none =>
    refine .inr ⟨?_, rfl⟩
    simpa [contains] using hfound

theorem mem_add (h : e ∈ r.entries) : e ∈ (r.add l).1.entries := by
  rcases r.add_cases l with ⟨-, hadd⟩ | ⟨-, hadd⟩ <;> simp [hadd, h]

theorem mem_of_mem_add (h : e ∈ (r.add l).1.entries) : e ∈ r.entries ∨ e = (r.next, l) ∧ r.contains l = false := by
  rcases r.add_cases l with ⟨-, hadd⟩ | ⟨hnew, hadd⟩
  · exact .inl (hadd ▸ h)
  · simpa [hadd, hnew] using h

theorem next_le_add (r : Registry) (l : Listener) : r.next ≤ (r.add l).1.next := by
  rcases r.add_cases l with ⟨-, hadd⟩ | ⟨-, hadd⟩ <;> simp [hadd]

theorem mem_remove : e ∈ (r.remove ticket).1.entries ↔ e ∈ r.entries ∧ e.1 ≠ ticket := by
  simp [remove]

theorem Sound.empty : Sound {} := ⟨by simp, by simp⟩

theorem Sound.add (h : r.Sound) (l : Listener) : (r.add l).1.Sound := by
  rcases r.add_cases l with ⟨-, hadd⟩ | ⟨hnew, hadd⟩
  · rwa [hadd]
  · have hother : ∀ e ∈ r.entries, e.2 ≠ l := fun e he hsame ↦ by
      rw [contains_iff.mpr ⟨e, he, hsame⟩] at hnew
      cases hnew
    rw [hadd]
    refine ⟨fun e he e' he' hsame ↦ ?_, fun e he ↦ ?_⟩
    · simp only [List.mem_append, List.mem_singleton] at he he'
      rcases he with he | rfl <;> rcases he' with he' | rfl
      · exact h.unique e he e' he' hsame
      · exact absurd hsame (not_or.mpr ⟨Nat.ne_of_lt (h.fresh e he), hother e he⟩)
      · exact absurd hsame (not_or.mpr ⟨Nat.ne_of_gt (h.fresh e' he'), Ne.symm (hother e' he')⟩)
      · rfl
    · simp only [List.mem_append, List.mem_singleton] at he
      rcases he with he | rfl
      · exact Nat.lt_succ_of_lt (h.fresh e he)
      · exact Nat.lt_succ_self _

/-- Registrations that end leave a registry sound. -/
theorem Sound.subset (h : r.Sound) {r' : Registry} (hsub : r'.entries ⊆ r.entries) (hnext : r'.next = r.next) :
    r'.Sound where
  unique e he e' he' := h.unique e (hsub he) e' (hsub he')
  fresh e he := hnext ▸ h.fresh e (hsub he)

theorem remove_subset (r : Registry) (ticket : Nat) : (r.remove ticket).1.entries ⊆ r.entries :=
  fun _ he ↦ (mem_remove.mp he).1

/-- Whoever is registered is remembered. -/
theorem Sound.remembers (h : r.Sound) (he : e ∈ r.entries) : r.Remembers e :=
  ⟨h.fresh e he, fun e' he' hsame ↦ h.unique e' he' e he (.inl hsame)⟩

theorem Remembers.add (h : r.Remembers e) (l : Listener) : (r.add l).1.Remembers e where
  given := Nat.lt_of_lt_of_le h.given (r.next_le_add l)
  unique e' he' hsame := by
    rcases mem_of_mem_add he' with he' | ⟨rfl, -⟩
    · exact h.unique e' he' hsame
    · exact absurd hsame (Nat.ne_of_gt h.given)

theorem Remembers.subset (h : r.Remembers e) {r' : Registry} (hsub : r'.entries ⊆ r.entries)
    (hnext : r'.next = r.next) : r'.Remembers e where
  given := hnext ▸ h.given
  unique e' he' := h.unique e' (hsub he')

end Registry

/-! ### Rounds -/

/-- The registry of a service is sound, and a round that is under way remembers what it still has to go over. -/
def View.Recorded (id : Nat) (v : View σ) : Prop :=
  ∀ s, v.service = some s → s.listeners.Sound ∧
    ∀ what rest k, v.frames = .round (some id) what rest :: k → ∀ e ∈ rest, s.listeners.Remembers e

section

variable {id : Nat} {hs : List (Happening σ)} {o : Option (Happening σ)} {v v' : View σ}

/-- Below a frame of a service stands no round of it. -/
theorem View.no_round_below {o : Option (Service σ)} {frame : Frame σ} {k : List (Frame σ)} {e : Exposure}
    (h : View.Course id hs ⟨o, frame :: k, e⟩) (what : Published) (rest : List (Nat × Listener))
    (k' : List (Frame σ)) : handling id k ≠ .round (some id) what rest :: k' := by
  by_cases hnothing : frame = .drain id ∨ frame = .opening id
  · rw [View.nothing_below h hnothing]
    nofun
  · rw [not_or] at hnothing
    by_cases heffects : ∃ context event pending, frame = .effects id context event pending
    · obtain ⟨context, event, pending, rfl⟩ := heffects
      rcases View.below_effects h with ⟨below, initial, done, rfl, -⟩ | ⟨below, rfl⟩ <;> simp
    · simp only [not_exists] at heffects
      obtain ⟨below, rfl⟩ := View.drain_below h hnothing.1 hnothing.2 heffects
      simp

/-- Every turn keeps the registry of a service sound and its round remembered. -/
theorem View.Recorded.turn (hcourse : v.Course id hs) (h : v.Recorded id) (hturn : Turn id v o v') :
    v'.Recorded id := by
  intro s' hs'
  cases hturn with
  | quiet => exact h s' hs'
  | created hinitial =>
    cases hs'
    exact ⟨.empty, fun what rest k hk ↦ by rw [hcourse.2] at hk; cases hk⟩
  | hosted hinitial =>
    cases hs'
    exact ⟨.empty, by nofun⟩
  | @stopped k s e =>
    cases hs'
    obtain ⟨hsound, hround⟩ := h s rfl
    have hnone : s.listeners.clear.entries ⊆ s.listeners.entries := List.nil_subset _
    exact ⟨hsound.subset hnone rfl, fun what rest k hk e he ↦ (hround what rest k hk e he).subset hnone rfl⟩
  | @queued k s event e hr hp =>
    cases hs'
    exact h s rfl
  | @subscribed k s l e =>
    cases hs'
    obtain ⟨hsound, hround⟩ := h _ rfl
    exact ⟨hsound.add l, fun what rest k hk e he ↦ (hround what rest k hk e he).add l⟩
  | @unsubscribed k s ticket e =>
    cases hs'
    obtain ⟨hsound, hround⟩ := h _ rfl
    have hfewer := s.listeners.remove_subset ticket
    exact ⟨hsound.subset hfewer rfl, fun what rest k hk e he ↦ (hround what rest k hk e he).subset hfewer rfl⟩
  | started | sent | taken | committed =>
    cases hs'
    exact ⟨(h _ rfl).1, by nofun⟩
  | performed | opened => exact ⟨(h s' hs').1, by nofun⟩
  | drained =>
    cases hs'
    exact ⟨(h _ rfl).1, fun what rest k hk ↦ absurd hk (View.no_round_below hcourse what rest k)⟩
  | announced =>
    cases hs'
    obtain ⟨hsound, -⟩ := h _ rfl
    refine ⟨hsound, fun what rest k hk e he ↦ ?_⟩
    cases hk
    exact hsound.remembers he
  | notified hticket =>
    cases hs'
    obtain ⟨hsound, hround⟩ := h _ rfl
    refine ⟨hsound, fun what rest k hk e he ↦ ?_⟩
    cases hk
    exact hround _ _ _ rfl e (List.mem_cons_of_mem _ he)
  | passedOver hticket =>
    obtain ⟨hsound, hround⟩ := h s' hs'
    refine ⟨hsound, fun what rest k hk e he ↦ ?_⟩
    cases hk
    exact hround _ _ _ rfl e (List.mem_cons_of_mem _ he)
  | openingAbandoned | drainAbandoned =>
    obtain ⟨s, hs, rfl⟩ := Option.map_eq_some_iff.mp hs'
    exact ⟨(h s hs).1, fun what rest k hk ↦ absurd hk (View.no_round_below hcourse what rest k)⟩
  | orphaned => cases hs'
  | allPerformed | refused | completed | effectFailed | listenerFailed | announceAbandoned | openingInterrupted =>
    exact ⟨(h s' hs').1, fun what rest k hk ↦ absurd hk (View.no_round_below hcourse what rest k)⟩

/-- Only listeners that are registered are notified. -/
theorem Turn.registered_of_notified {l : Listener} {snapshot : Snapshot} (hrecorded : v.Recorded id)
    (hturn : Turn id v (some (.notified l snapshot)) v') :
    ∃ s, v.service = some s ∧ s.listeners.contains l = true := by
  cases hturn with
  | notified hticket =>
    obtain ⟨-, hround⟩ := hrecorded _ rfl
    obtain ⟨e, he, hsame⟩ := Registry.hasTicket_iff.mp hticket
    have hunique := (hround _ _ _ rfl _ List.mem_cons_self).unique e he hsame
    exact ⟨_, rfl, Registry.contains_iff.mpr ⟨e, he, by rw [hunique]⟩⟩

/-- A listener gets registered only where the state that the service holds is replayed to it. -/
theorem Turn.replayed_of_registered {l : Listener} (hturn : Turn id v o v') {s' : Service σ}
    (hs' : v'.service = some s') (hl' : s'.listeners.contains l = true)
    (hl : ∀ s, v.service = some s → s.listeners.contains l = false) :
    ∃ s, v.service = some s ∧ o = some (.replayed l s.state.snapshot) := by
  have habsurd {s : Service σ} (hs : v.service = some s) (hstill : s.listeners.contains l = true) : False := by
    rw [hl s hs] at hstill
    cases hstill
  cases hturn with
  | created | hosted | stopped =>
    cases hs'
    cases hl'
  | @subscribed k s l' e =>
    cases hs'
    obtain ⟨e, he, rfl⟩ := Registry.contains_iff.mp hl'
    rcases Registry.mem_of_mem_add he with he | ⟨rfl, -⟩
    · exact (habsurd rfl (Registry.contains_iff.mpr ⟨e, he, rfl⟩)).elim
    · exact ⟨s, rfl, rfl⟩
  | @unsubscribed k s ticket e =>
    cases hs'
    obtain ⟨e, he, rfl⟩ := Registry.contains_iff.mp hl'
    exact (habsurd rfl (Registry.contains_iff.mpr ⟨e, (Registry.mem_remove.mp he).1, rfl⟩)).elim
  | started | queued | sent | taken | drained | committed | announced | notified =>
    cases hs'
    exact (habsurd rfl hl').elim
  | openingAbandoned | drainAbandoned =>
    obtain ⟨s, hs, rfl⟩ := Option.map_eq_some_iff.mp hs'
    exact (habsurd hs hl').elim
  | orphaned => cases hs'
  | _ => exact (habsurd hs' hl').elim

end

/-! ### Over a history -/

/-- A listener is registered with a service. -/
def Run.Subscribed (id : Nat) (l : Listener) (r : Run σ) : Prop :=
  ∃ s, r.world.services[id]? = some s ∧ s.listeners.contains l = true

/-- A listener has been registered since a step in which the state that the service held was replayed to it. -/
def SubscribedSince (id : Nat) (l : Listener) (past : List (Run σ)) : Prop :=
  ∃ before p during s, past = before ++ p :: during ∧ ¬ p.Subscribed id l ∧ (∀ x ∈ during, x.Subscribed id l) ∧
    p.world.services[id]? = some s ∧ p.happening id = some (.replayed l s.state.snapshot)

theorem SubscribedSince.concat {id : Nat} {l : Listener} {past : List (Run σ)} {r : Run σ}
    (h : SubscribedSince id l past) (hr : r.Subscribed id l) : SubscribedSince id l (past ++ [r]) := by
  obtain ⟨before, p, during, s, rfl, hp, hduring, hs, hreplayed⟩ := h
  refine ⟨before, p, during ++ [r], s, by simp, hp, fun x hx ↦ ?_, hs, hreplayed⟩
  rcases List.mem_append.mp hx with hx | hx
  · exact hduring x hx
  · exact List.mem_singleton.mp hx ▸ hr

namespace History

variable {w : World σ} {past : List (Run σ)} {r : Run σ} {id : Nat} {l : Listener}

theorem recorded (hpast : History (.idle w) past r) (hnew : w.services = []) (id : Nat) :
    (r.view id).Recorded id := by
  have hboth := hpast.turns id (P := fun hs v ↦ v.Course id hs ∧ v.Recorded id)
    ⟨by simp [View.Course, Run.idle, Run.view, hnew], by simp [View.Recorded, Run.idle, Run.view, hnew]⟩
    fun h hturn ↦ ⟨Course.turn h.1 hturn, h.2.turn h.1 hturn⟩
  exact hboth.2

/-- A listener that is notified is subscribed when its call begins. -/
theorem subscribed_of_notified (hpast : History (.idle w) past r) (hnew : w.services = []) {snapshot : Snapshot}
    (hnotified : r.happening id = some (.notified l snapshot)) : r.Subscribed id l := by
  have hturn := r.step_turn id
  rw [hnotified] at hturn
  exact hturn.registered_of_notified (hpast.recorded hnew id)

/-- A listener that is subscribed has been so since the state that the service then held was replayed to it. -/
theorem since (hpast : History (.idle w) past r) (hnew : w.services = []) (hl : r.Subscribed id l) :
    SubscribedSince id l past := by
  induction hpast with
  | begin =>
    obtain ⟨s, hs, -⟩ := hl
    simp [Run.idle, hnew] at hs
  | @step past r hpast ih =>
    by_cases hr : r.Subscribed id l
    · exact (ih hr).concat hr
    · obtain ⟨s', hs', hl'⟩ := hl
      have hnot : ∀ s, (r.view id).service = some s → s.listeners.contains l = false :=
        fun s hs ↦ Bool.eq_false_iff.mpr fun hcontains ↦ hr ⟨s, hs, hcontains⟩
      obtain ⟨s, hs, hreplayed⟩ := (r.step_turn id).replayed_of_registered hs' hl' hnot
      exact ⟨past, r, [], s, rfl, hr, by simp, hs, hreplayed⟩
  | @call past r hpast hidle script ih =>
    have hr : r.Subscribed id l := hl
    exact (ih hr).concat hr

end History

end Statechart
