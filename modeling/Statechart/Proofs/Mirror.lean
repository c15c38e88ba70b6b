import Mathlib.Tactic.IntervalCases
import Statechart.Proofs.Chronicle
import Statechart.Proofs.Keepers

/-!
# Hosts mirror their services

A host shows the state that its keeper was called with last. Of what a service has published its keeper has heard
everything, or everything but the state that is held, which it is still owed (`Abreast`); every turn of the service
keeps it so until the service is stopped, as long as nothing is owed to the keeper at that moment
(`View.Mirrored.turn`). So with nothing under way the host shows the state of its service (`host_mirrors_service`).
-/

set_option autoImplicit false
set_option relaxedAutoImplicit false

namespace Statechart

variable {σ : Type}

/-! ### What a listener has heard -/

/-- The state that a happening passes to a listener. -/
def Happening.heard? (l : Listener) : Happening σ → Option Snapshot
  | .notified l' s | .replayed l' s => if l' = l then some s else none
  | _ => none

/-- The states that a listener was called with, in order. -/
def heard (l : Listener) (hs : List (Happening σ)) : List Snapshot := hs.filterMap (Happening.heard? l)

/-- The states that were committed, in order, as a service shows them from then on. -/
def published (hs : List (Happening σ)) : List Snapshot := (committedStates hs).map fun next ↦ next.settled.snapshot

section

variable {id : Nat} {l : Listener} {hs hs' : List (Happening σ)} {v v' : View σ} {o : Option (Happening σ)}
  {s s' : Service σ} {k : List (Frame σ)} {seen states : List Snapshot}

@[simp] theorem heard_append : heard l (hs ++ hs') = heard l hs ++ heard l hs' := List.filterMap_append

@[simp] theorem published_append : published (hs ++ hs') = published hs ++ published hs' := by
  simp [published]

theorem heard_toList_of_none (h : ∀ snapshot, o ≠ some (.notified l snapshot))
    (h' : ∀ snapshot, o ≠ some (.replayed l snapshot)) : heard l o.toList = [] := by
  cases o with
  | none => rfl
  | some happened =>
    refine List.filterMap_eq_nil_iff.mpr fun x hx ↦ ?_
    obtain rfl := List.mem_singleton.mp hx
    cases x with
    | notified l' s => exact if_neg fun hl ↦ h s (by rw [hl])
    | replayed l' s => exact if_neg fun hl ↦ h' s (by rw [hl])
    | _ => rfl

theorem published_toList_of_none (h : ∀ source event next, o ≠ some (.committed source event next)) :
    published o.toList = [] := by
  cases o with
  | none => rfl
  | some happened =>
    cases happened with
    | committed source event next => exact absurd rfl (h source event next)
    | _ => rfl

theorem told?_eq_none_of_heard (h : ∀ snapshot, o ≠ some (.notified l snapshot))
    (h' : ∀ snapshot, o ≠ some (.replayed l snapshot)) : ∀ happened ∈ o, ∀ c, happened.told? l c = none := by
  rintro happened rfl c
  cases happened with
  | notified l' s => exact if_neg fun hl ↦ h s (by rw [hl])
  | replayed l' s => exact if_neg fun hl ↦ h' s (by rw [hl])
  | _ => rfl

/-! ### Rounds go on in order -/

/-- What a round still has to go over are different registrations. -/
def View.Ranked (id : Nat) (v : View σ) : Prop :=
  ∀ what rest k, v.frames = .round (some id) what rest :: k → rest.Nodup

theorem View.Ranked.turn (hcourse : v.Course id hs) (htidy : ∀ s, v.service = some s → s.listeners.Tidy)
    (h : v.Ranked id) (hturn : Turn id v o v') : v'.Ranked id := by
  intro what rest k' hk'
  cases hturn with
  | quiet | created | stopped | queued | subscribed | unsubscribed => exact h what rest k' hk'
  | hosted | started | sent | performed | opened | taken | committed => cases hk'
  | announced =>
    cases hk'
    exact (htidy _ rfl).ordered.imp fun hlt heq ↦ absurd hlt.1 (by rw [heq]; exact Nat.lt_irrefl _)
  | notified | passedOver =>
    cases hk'
    exact (h _ _ _ rfl).of_cons
  | _ => exact absurd hk' (View.no_round_below hcourse what rest k')

/-! ### A listener that is abreast -/

/-- A turn that neither calls a listener, nor stores a state, nor fails, leaves nothing owed that was not. -/
theorem Turn.owed_before (hturn : Turn id v o v') (hcourse : v.Course id hs) (hfault : ∀ h ∈ o, h.isFault = false)
    (hcommitted : ∀ source event next, o ≠ some (.committed source event next)) (hservice : v.service = some s)
    (hservice' : v'.service = some s') (hstatus : s.status ≠ .notStarted) (hl : s.listeners.contains l = true)
    (howed : Owed l s' v'.frames) : Owed l s v.frames := by
  cases hturn with
  | created | hosted | orphaned => cases hservice
  | started h =>
    cases hservice
    exact absurd h hstatus
  | quiet | passedOver =>
    obtain rfl := Option.some.inj (hservice.symm.trans hservice')
    first
      | exact howed
      | obtain ⟨e, he, hentry⟩ := howed
        exact ⟨e, List.mem_cons_of_mem _ he, hentry⟩
  | stopped =>
    cases hservice
    cases hservice'
    exact howed.keep fun e he ↦ absurd he List.not_mem_nil
  | queued =>
    cases hservice
    cases hservice'
    exact howed.keep fun e he _ ↦ he
  | subscribed =>
    cases hservice
    cases hservice'
    -- a registration of the listener is no new one
    refine howed.keep fun e he hsame ↦ ?_
    rcases Registry.mem_of_mem_add he with he | ⟨rfl, hnew⟩
    · exact he
    · obtain rfl : _ = l := hsame
      cases hl.symm.trans hnew
  | unsubscribed =>
    cases hservice
    cases hservice'
    exact howed.keep fun e he _ ↦ (Registry.mem_remove.mp he).1
  | performed | allPerformed =>
    rcases View.below_effects hcourse with ⟨below, initial, done, rfl, -⟩ | ⟨below, rfl⟩
    · first
        | exact howed.elim
        | rw [handling_cons_self (by simp)] at howed
          exact howed.elim
    · trivial
  | sent | opened | taken => exact howed.elim
  | committed => exact absurd rfl (hcommitted _ _ _)
  | drained =>
    rw [View.nothing_below hcourse (.inl rfl)] at howed
    exact howed.elim
  | announced => trivial
  | notified =>
    cases hservice
    cases hservice'
    obtain ⟨e, he, hentry⟩ := howed
    exact ⟨e, List.mem_cons_of_mem _ he, hentry⟩
  | completed =>
    obtain ⟨below, rfl⟩ := View.drain_below hcourse (by simp) (by simp) (by simp)
    rw [handling_cons_self (by simp)] at howed
    exact howed.elim
  | refused | effectFailed | listenerFailed | announceAbandoned | openingAbandoned | openingInterrupted
  | drainAbandoned => exact absurd (hfault _ rfl) (by simp [Happening.isFault])

/-- How far a listener has got with the states of a service. -/
inductive Abreast (id : Nat) (l : Listener) (seen states : List Snapshot) (s : Service σ) (k : List (Frame σ)) : Prop
  /-- It has heard all of them, and nothing is owed to it. -/
  | even (hl : s.listeners.contains l = true) (howed : ¬ Owed l s k) (hstates : states = seen)
  /-- The state that is held is owed to it, and it has heard all before. -/
  | behind (hl : s.listeners.contains l = true) (howed : Owed l s k) (hstates : states = seen ++ [s.state.snapshot])
  /-- It has heard all of them, and there will be no more. -/
  | finished (hl : s.listeners.contains l = false) (hstatus : s.status = .stopped) (hstill : ¬ Moving id k)
      (hstates : states = seen)

/-- A service whose states a listener has kept abreast of, up to the one that is held. -/
def View.Mirrored (id : Nat) (l : Listener) (seen states : List Snapshot) (v : View σ) : Prop :=
  ∃ s, v.service = some s ∧ s.status ≠ .notStarted ∧ states.getLast? = some s.state.snapshot ∧
    Abreast id l seen states s v.frames

/-- A service that was started has no other start before it. -/
theorem Turn.status_ne_notStarted (hturn : Turn id v o v') (hservice : v.service = some s)
    (hservice' : v'.service = some s') (hstatus : s.status ≠ .notStarted) : s'.status ≠ .notStarted := by
  obtain ⟨after, hafter, hmoves⟩ := hturn.moves hservice
  cases hafter.symm.trans hservice'
  rcases hmoves with hsame | hmoves
  · rwa [hsame]
  · intro hnot
    rw [hnot] at hmoves
    generalize s.status = before at hmoves
    cases hmoves

/-- What is stored in a service that was started is what an event leads to. -/
theorem Turn.state_eq (hturn : Turn id v o v') (hcourse : v.Course id hs)
    (hcommitted : ∀ source event next, o ≠ some (.committed source event next)) (hservice : v.service = some s)
    (hservice' : v'.service = some s') (hstatus : s.status ≠ .notStarted) : s'.state = s.state := by
  have hstored := hturn.stored hcourse hservice'
  rw [hservice] at hstored
  cases hstored with
  | kept hmachine hstate ho => exact hstate
  | committed => exact absurd rfl (hcommitted _ _ _)
  | started =>
    generalize s.state = initial at hturn
    cases hturn with
    | hosted => cases hservice
    | started h =>
      cases hservice
      exact absurd h hstatus

/-- The listener whose turn it is in a round is called only once. -/
theorem View.not_owed_of_notified {k : List (Frame σ)} {snapshot : Snapshot} {ticket : Nat}
    {rest : List (Nat × Listener)} {e : Exposure} (hsound : s.listeners.Sound)
    (hranked : View.Ranked id ⟨some s, .round (some id) (.state snapshot) ((ticket, l) :: rest) :: k, e⟩)
    (hentry : (ticket, l) ∈ s.listeners.entries) : ¬ Owed l s (.round (some id) (.state snapshot) rest :: k) := by
  rintro ⟨e', he', hl, hentry'⟩
  have hsame := hsound.unique _ hentry' _ hentry (.inr hl)
  have hnodup := hranked _ _ _ rfl
  rw [List.nodup_cons] at hnodup
  exact hnodup.1 (hsame ▸ he')

/-- A listener that is notified has then heard all that was published. -/
theorem Abreast.notified {snapshot : Snapshot} (hturn : Turn id v (some (.notified l snapshot)) v')
    (hcourse : v.Course id hs) (hrecorded : v.Recorded id) (hranked : v.Ranked id) (hservice : v.service = some s)
    (hservice' : v'.service = some s') (h : Abreast id l seen states s v.frames) :
    s' = s ∧ Abreast id l (seen ++ [snapshot]) states s' v'.frames := by
  obtain ⟨current, hcurrent, rfl⟩ := hturn.told_current hcourse (.inl rfl)
  cases hcurrent.symm.trans hservice
  cases hturn with
  | @notified k s snapshot ticket l rest e hticket =>
    cases hservice
    cases hservice'
    obtain ⟨hsound, hround⟩ := hrecorded _ rfl
    obtain ⟨e', he', hsame⟩ := Registry.hasTicket_iff.mp hticket
    have hentry : (ticket, l) ∈ s.listeners.entries := by
      rw [← (hround _ _ _ rfl _ List.mem_cons_self).unique e' he' hsame]
      exact he'
    refine ⟨rfl, ?_⟩
    cases h with
    | even hl howed hstates => exact absurd ⟨_, List.mem_cons_self, rfl, hentry⟩ howed
    | behind hl howed hstates => exact .even hl (View.not_owed_of_notified hsound hranked hentry) hstates
    | finished hl hstatus hstill hstates =>
      rw [Registry.contains_iff.mpr ⟨_, hentry, rfl⟩] at hl
      cases hl

/-- The state that is stored is owed to a listener that is abreast. -/
theorem Abreast.committed {source next : State σ} {event : Event}
    (hturn : Turn id v (some (.committed source event next)) v') (hservice : v.service = some s)
    (h : Abreast id l seen states s v.frames) : ∃ s', v'.service = some s' ∧ s'.status = s.status ∧
      s'.state = next.settled ∧ Abreast id l seen (states ++ [next.settled.snapshot]) s' v'.frames := by
  cases hturn with
  | committed hnext =>
    cases hservice
    refine ⟨_, rfl, rfl, rfl, ?_⟩
    cases h with
    | even hl howed hstates => exact .behind hl trivial (by rw [hstates])
    | behind hl howed hstates => exact howed.elim
    | finished hl hstatus hstill hstates => exact absurd ⟨_, _, _, rfl⟩ hstill

/-- What neither stores a state nor calls a listener leaves it abreast, while it stays registered or the service is
stopped with nothing owed to it. -/
theorem Abreast.aside (hturn : Turn id v o v') (hcourse : v.Course id hs) (hrecorded : v.Recorded id)
    (hfault : ∀ h ∈ o, h.isFault = false) (hcall : ∀ h ∈ o, ∀ c, h.told? l c = none)
    (hcommitted : ∀ source event next, o ≠ some (.committed source event next)) (hservice : v.service = some s)
    (hservice' : v'.service = some s') (hstatus : s.status ≠ .notStarted)
    (hstop : o = some .stopped → ¬ Owed l s v.frames ∧ ¬ Moving id v.frames)
    (hkeeps : s.listeners.contains l = true → s'.listeners.contains l = true ∨ o = some .stopped)
    (hnew : s.listeners.contains l = false → s'.listeners.contains l = false)
    (h : Abreast id l seen states s v.frames) : Abreast id l seen states s' v'.frames := by
  have hstopped (ho : o = some .stopped) : s'.listeners.contains l = false ∧ s'.status = .stopped ∧
      v'.frames = v.frames := by
    subst ho
    cases hturn with
    | stopped =>
      cases hservice'
      exact ⟨rfl, rfl, rfl⟩
  cases h with
  | even hl howed hstates =>
    rcases hkeeps hl with hl' | ho
    · exact .even hl' (fun howed' ↦ howed (hturn.owed_before hcourse hfault hcommitted hservice hservice' hstatus hl
        howed')) hstates
    · obtain ⟨hgone, hover, hframes⟩ := hstopped ho
      exact .finished hgone hover (hframes ▸ (hstop ho).2) hstates
  | behind hl howed hstates =>
    rcases hkeeps hl with hl' | ho
    · have hstate := hturn.state_eq hcourse hcommitted hservice hservice' hstatus
      exact .behind hl' (hturn.owed hcourse hrecorded hfault hcall hservice hservice' hl hl' howed) (hstate ▸ hstates)
    · exact absurd howed (hstop ho).1
  | finished hl hover hstill hstates =>
    obtain ⟨after, hafter, hmoves⟩ := hturn.moves hservice
    cases hafter.symm.trans hservice'
    refine .finished (hnew hl) ?_ (fun hmoving ↦ ?_) hstates
    · rcases hmoves with hsame | hmoves
      · rw [hsame, hover]
      · rw [hover] at hmoves
        cases hmoves
    · rcases hturn.moving hcourse hmoving with ⟨source, event, rfl⟩ | ⟨hframes, -⟩
      · -- a service that is stopped takes no event
        cases hturn with
        | taken hrunning =>
          cases hservice
          cases hover.symm.trans hrunning
      · exact hstill (hframes ▸ hmoving)

/-- A listener stays abreast of a service with every turn that is neither a fault nor a replay to it, if the service is
stopped only where nothing is owed to it, and it stays registered until then. -/
theorem View.Mirrored.turn (hturn : Turn id v o v') (hcourse : v.Course id hs) (hrecorded : v.Recorded id)
    (hranked : v.Ranked id) (hfault : ∀ h ∈ o, h.isFault = false)
    (hreplayed : ∀ snapshot, o ≠ some (.replayed l snapshot))
    (hstop : o = some .stopped → ∀ s, v.service = some s → ¬ Owed l s v.frames ∧ ¬ Moving id v.frames)
    (hkeeps : ∀ s s', v.service = some s → v'.service = some s' → s.listeners.contains l = true →
      s'.listeners.contains l = true ∨ o = some .stopped)
    (hnew : ∀ s s', v.service = some s → v'.service = some s' → s.listeners.contains l = false →
      s'.listeners.contains l = false)
    (h : v.Mirrored id l seen states) : v'.Mirrored id l (seen ++ heard l o.toList) (states ++ published o.toList) := by
  obtain ⟨s, hservice, hstatus, hlast, habreast⟩ := h
  by_cases hcommitted : ∃ source event next, o = some (.committed source event next)
  · obtain ⟨source, event, next, rfl⟩ := hcommitted
    obtain ⟨s', hservice', hsame, hstate, habreast⟩ := habreast.committed hturn hservice
    refine ⟨s', hservice', hsame ▸ hstatus, ?_, ?_⟩
    · simp [published, committedStates, hstate]
    · rw [heard_toList_of_none (by simp) (by simp), List.append_nil]
      simpa [published, committedStates] using habreast
  · simp only [not_exists] at hcommitted
    obtain ⟨s', hservice', -⟩ := hturn.moves hservice
    have hstatus' := hturn.status_ne_notStarted hservice hservice' hstatus
    have hstate := hturn.state_eq hcourse hcommitted hservice hservice' hstatus
    rw [published_toList_of_none hcommitted, List.append_nil]
    refine ⟨s', hservice', hstatus', hstate ▸ hlast, ?_⟩
    by_cases hnotified : ∃ snapshot, o = some (.notified l snapshot)
    · obtain ⟨snapshot, rfl⟩ := hnotified
      have hheard : heard l (some (.notified l snapshot) : Option (Happening σ)).toList = [snapshot] := by
        simp [heard, Happening.heard?]
      rw [hheard]
      exact (habreast.notified hturn hcourse hrecorded hranked hservice hservice').2
    · simp only [not_exists] at hnotified
      rw [heard_toList_of_none hnotified hreplayed, List.append_nil]
      have hcall := told?_eq_none_of_heard hnotified hreplayed
      exact habreast.aside hturn hcourse hrecorded hfault hcall hcommitted hservice hservice' hstatus
        (fun ho ↦ hstop ho s hservice) (hkeeps s s' hservice hservice') (hnew s s' hservice hservice')

end

/-! ### The start of a service -/

/-- The first states that a service was started in. -/
def startedStates (hs : List (Happening σ)) : List (State σ) :=
  hs.filterMap fun h ↦
    match h with
    | .started initial => some initial
    | _ => none

section

variable {w : World σ} {past : List (Run σ)} {r : Run σ}

theorem startedStates_append (hs hs' : List (Happening σ)) :
    startedStates (hs ++ hs') = startedStates hs ++ startedStates hs' := List.filterMap_append

theorem startedStates_of_replays {hs : List (Happening σ)} (h : ∀ happened ∈ hs, happened.isReplay = true) :
    startedStates hs = [] := by
  refine List.filterMap_eq_nil_iff.mpr fun happened hhappened ↦ ?_
  have hreplay := h happened hhappened
  cases happened <;> first | rfl | cases hreplay

/-- A service is started once at most. -/
theorem History.length_startedStates (hpast : History (.idle w) past r) (hnew : w.services = []) (id : Nat) :
    (startedStates (happenings id past)).length ≤ 1 := by
  induction hpast with
  | begin => simp [startedStates]
  | @step past r hpast ih =>
    rw [happenings_append, happenings_singleton, startedStates_append]
    by_cases hstarted : ∃ initial, r.happening id = some (.started initial)
    · obtain ⟨initial, hstarted⟩ := hstarted
      rw [startedStates_of_replays (hpast.begins hnew hstarted).first, hstarted]
      exact Nat.le_refl 1
    · have hnone : startedStates (r.happening id).toList = [] := by
        cases hh : r.happening id with
        | none => rfl
        | some happened =>
          cases happened with
          | started initial => exact absurd ⟨initial, hh⟩ hstarted
          | _ => rfl
      rw [hnone, List.append_nil]
      exact ih
  | @call past r hpast hidle script ih =>
    rw [happenings_append, happenings_singleton, Run.happening_of_empty id hidle]
    simpa using ih

/-- The service of a host has been started. -/
theorem History.started_of_host (hpast : History (.idle w) past r) (hnobody : w.hosts = []) {h : Nat} {host : Host}
    (hhost : r.world.hosts[h]? = some host) : ∃ initial, .started initial ∈ happenings host.service past := by
  induction hpast generalizing host with
  | begin => simp [Run.idle, hnobody] at hhost
  | @step past r hpast ih =>
    rw [happenings_append, happenings_singleton]
    cases hbefore : r.world.hosts[h]? with
    | some host' =>
      obtain ⟨host'', hhost'', hsame, -⟩ := Run.host_stays hbefore
      cases hhost.symm.trans hhost''
      obtain ⟨initial, hmem⟩ := ih hbefore
      exact ⟨initial, List.mem_append_left _ (hsame ▸ hmem)⟩
    | none =>
      have hchange := (r.step_housing h 0).host
      rw [hbefore, hhost] at hchange
      cases hchange with
      | @made name onChange stack initial hstack hmade hstarted =>
        exact ⟨initial, List.mem_append_right _ (Option.mem_toList.mpr hstarted)⟩
  | @call past r hpast hidle script ih =>
    obtain ⟨initial, hmem⟩ := ih hhost
    exact ⟨initial, by rw [happenings_append]; exact List.mem_append_left _ hmem⟩

theorem History.started_once (hpast : History (.idle w) past r) (hnew : w.services = []) (hnobody : w.hosts = [])
    {h : Nat} {host : Host} (hhost : r.world.hosts[h]? = some host) :
    ∃ initial, startedStates (happenings host.service past) = [initial] := by
  obtain ⟨initial, hmem⟩ := hpast.started_of_host hnobody hhost
  have hstarted : initial ∈ startedStates (happenings host.service past) := List.mem_filterMap.mpr ⟨_, hmem, rfl⟩
  have hlength := hpast.length_startedStates hnew host.service
  match hall : startedStates (happenings host.service past), hlength with
  | [only], _ => exact ⟨only, rfl⟩
  | [], _ => simp [hall] at hstarted

end

/-! ### A host from its construction on -/

/-- The next step finishes the construction of a host: it subscribes the keeper to the service, which was started. -/
structure Run.Finishes (h : Nat) (host : Host) (s : Service σ) (p : Run σ) : Prop where
  frame : ∃ name below, p.stack = .hostStarted h name :: below
  calm : p.Calm
  present : p.world.hosts[h]? = some host
  service : p.world.services[host.service]? = some s

/-- The service of a host is stopped with nothing of it under way, or in a round that has been past the host. -/
def Run.StopsInTime (h id : Nat) (x : Run σ) : Prop :=
  x.happening id = some .stopped → x.Idle id ∨
    ∃ what rest below, handling id x.stack = .round (some id) what rest :: below ∧ ∀ e ∈ rest, e.2 ≠ .keeper h

/-- What a host does with a state once it has kept it: it calls back who wants to know. -/
def Run.passOn (w : World σ) (stack : List (Frame σ)) (onChange : Option String) (s : Snapshot) : Run σ :=
  match onChange with
  | none => .answer w stack .null
  | some name => .script w stack (w.behaviour (.named name) (.state s))

section

variable {w : World σ} {p r : Run σ} {before later : List (Run σ)} {h id : Nat} {host : Host} {s : Service σ}
  {snapshot : Snapshot}

/-- The registry of a service is tidy, and its rounds go on in order. -/
theorem History.ranked (hpast : History (.idle w) before r) (hnew : w.services = []) (id : Nat) :
    (r.view id).Ranked id := by
  have hall := hpast.turns id
    (P := fun hs v ↦ v.Course id hs ∧ ((v.service.map Service.listeners).getD {}).Tidy ∧ v.Ranked id)
    ⟨by simp [View.Course, Run.idle, Run.view, hnew], by simp [Run.idle, Run.view, hnew, Registry.Tidy.empty],
      by simp [View.Ranked, Run.idle, Run.view]⟩
    fun {hs v o v'} hv hturn ↦ ⟨Course.turn hv.1 hturn, hturn.registry.tidy hv.2.1,
      hv.2.2.turn hv.1 (fun s hs ↦ by simpa [hs] using hv.2.1) hturn⟩
  exact hall.2.2

/-- Once its keeper is to be subscribed, a host is there for good and not made again. -/
theorem Run.Finishes.stays (hfinish : p.Finishes h host s) (hhoused : p.Housed) (hlater : History p.step later r) :
    (∃ host', r.world.hosts[h]? = some host' ∧ host'.service = host.service ∧ host'.onChange = host.onChange) ∧
      ∀ below, ¬ Starts h below r.stack := by
  -- no frame makes a host that is there
  have hnever {x : Run σ} {host' : Host} (hhost' : x.world.hosts[h]? = some host')
      (htail : ∀ below, ¬ Starts h below x.stack.tail) (below : List (Frame σ)) : ¬ Starts h below x.step.stack := by
    intro hstarts
    rcases hstarts.step with hbefore | ⟨rfl, -⟩
    · exact htail below hbefore
    · simp at hhost'
  induction hlater with
  | begin =>
    obtain ⟨name, below, hstack⟩ := hfinish.frame
    obtain ⟨host', hhost', hservice, honChange, -⟩ := host_stays hfinish.present
    refine ⟨⟨host', hhost', hservice, honChange⟩, hnever hfinish.present fun below' hstarts ↦ ?_⟩
    rw [hstack] at hstarts
    exact (hhoused.making h below ⟨name, hstack ▸ List.suffix_refl _⟩).2.1 below' hstarts
  | @step later r hlater ih =>
    obtain ⟨⟨host', hhost', hservice, honChange⟩, hmade⟩ := ih
    obtain ⟨host'', hhost'', hservice', honChange', -⟩ := host_stays hhost'
    exact ⟨⟨host'', hhost'', hservice'.trans hservice, honChange'.trans honChange⟩,
      hnever hhost' fun below hstarts ↦ hmade below (hstarts.of_suffix (List.tail_suffix _))⟩
  | @call later r hlater hidle script ih =>
    exact ⟨ih.1, fun below ⟨name, hname⟩ ↦ not_suffix_script rfl hname⟩

/-- A keeper is told of states by the service of its host, and by no other. -/
theorem Run.service_of_tells (hpast : History (.idle w) before r) (hnew : w.services = []) (hnobody : w.hosts = [])
    (hhost : r.world.hosts[h]? = some host) (htells : r.Tells id (.keeper h) snapshot) : id = host.service := by
  rcases htells with hnotified | hreplayed
  · obtain ⟨host', hhost', hservice⟩ :=
      (hpast.housed hnew hnobody).keeper h id (hpast.subscribed_of_notified hnew hnotified)
    cases hhost.symm.trans hhost'
    exact hservice.symm
  · obtain ⟨-, -, host', -, hhost', hservice⟩ := starts_of_replayed hreplayed
    cases hhost.symm.trans hhost'
    exact hservice.symm

/-- A host that is told of a state keeps it and passes it on. -/
theorem Run.step_of_told (hhost : r.world.hosts[h]? = some host) (htells : r.Tells id (.keeper h) snapshot) :
    ∃ w' below, r.step = passOn w' below host.onChange snapshot ∧
      ∃ host', w'.hosts[h]? = some host' ∧ host'.current = snapshot := by
  obtain ⟨w', below, hstep⟩ := step_of_tells htells
  obtain ⟨after, hafter, -, honChange, -⟩ := host_stays hhost
  rw [hstep] at hafter
  rw [hstep]
  cases hcalled : w'.hosts[h]? with
  | none =>
    simp only [call, hcalled] at hafter
    cases hcalled.symm.trans hafter
  | some called =>
    have hcall : call w' below (.keeper h) (.state snapshot) =
        passOn (w'.updateHost h fun h ↦ { h with current := snapshot }) below called.onChange snapshot := by
      simp only [call, hcalled]
      rfl
    have hkept : (w'.updateHost h fun h ↦ { h with current := snapshot }).hosts[h]? =
        some { called with current := snapshot } := by
      rw [getElem?_updateHost, if_pos rfl, hcalled]
      rfl
    have hsame : called.onChange = host.onChange := by
      rw [hcall] at hafter
      have hworld : (passOn (w'.updateHost h fun h ↦ { h with current := snapshot }) below called.onChange
          snapshot).world = w'.updateHost h fun h ↦ { h with current := snapshot } := by
        unfold passOn
        cases called.onChange <;> rfl
      rw [hworld, hkept] at hafter
      cases hafter
      exact honChange
    exact ⟨_, below, hsame ▸ hcall, _, hkept, rfl⟩

/-- A replay subscribes the listener, and nothing else. -/
theorem Turn.subscribed_of_replayed {l : Listener} {v v' : View σ} (hturn : Turn id v (some (.replayed l snapshot)) v')
    (hservice : v.service = some s) :
    v'.service = some { s with listeners := (s.listeners.add l).1 } ∧ v'.frames = v.frames := by
  cases hturn with
  | subscribed =>
    cases hservice
    exact ⟨rfl, rfl⟩

/-- A stop in time comes when nothing is owed to the keeper of the host, and no event is under way. -/
theorem Run.StopsInTime.not_owed (hintime : r.StopsInTime h id) (hstopped : r.happening id = some .stopped)
    (s : Service σ) :
    ¬ Owed (.keeper h) s (r.view id).frames ∧ ¬ Moving id (r.view id).frames := by
  change ¬ Owed (.keeper h) s (handling id r.stack) ∧ ¬ Moving id (handling id r.stack)
  rcases hintime hstopped with hidle | ⟨what, rest, below, hround, hpast⟩
  · rw [hidle]
    exact ⟨fun howed ↦ howed.elim, by rintro ⟨_, _, _, hframes⟩; cases hframes⟩
  · rw [hround]
    exact ⟨by rintro ⟨e, he, hl, _⟩; exact hpast e he hl, by rintro ⟨_, _, _, hframes⟩; cases hframes⟩

/-- The keeper of a host has heard the state of its service when the construction of the host comes to its end. -/
theorem Run.Finishes.mirrored (hfinish : p.Finishes h host s) (hpast : History (.idle w) before p)
    (hnew : w.services = []) (hnobody : w.hosts = []) :
    p.happening host.service = some (.replayed (.keeper h) s.state.snapshot) ∧
      (p.step.view host.service).Mirrored host.service (.keeper h) [s.state.snapshot] [s.state.snapshot] := by
  obtain ⟨name, below, hstack⟩ := hfinish.frame
  obtain ⟨initial, hstarted⟩ := hpast.started_of_host hnobody hfinish.present
  have hstatus : s.status ≠ .notStarted := fun hnot ↦ by
    cases hpast.fresh hnew host.service s hfinish.service hnot _ hstarted
  have hhandling : handling host.service p.stack = [] := by
    obtain ⟨⟨host', hhost', hhandling⟩, -⟩ :=
      (hpast.housed hnew hnobody).making h below ⟨name, hstack ▸ List.suffix_refl _⟩
    cases hfinish.present.symm.trans hhost'
    rw [hstack, handling_cons]
    exact hhandling
  have hreplayed : p.happening host.service = some (.replayed (.keeper h) s.state.snapshot) := by
    obtain ⟨a, hsignal⟩ := hfinish.calm
    rw [happening, hstack, hsignal]
    simp [World.resumed, hfinish.present, hfinish.service]
  refine ⟨hreplayed, ?_⟩
  have hturn := p.step_turn host.service
  rw [hreplayed] at hturn
  obtain ⟨hservice, hframes⟩ := hturn.subscribed_of_replayed hfinish.service
  refine ⟨_, hservice, hstatus, rfl, ?_⟩
  rw [hframes.trans hhandling]
  have hl := Registry.contains_iff.mpr ⟨_, s.listeners.mem_add_self (.keeper h), rfl⟩
  exact .even hl (fun howed ↦ howed.elim) rfl

/-- From the end of its construction on, a host keeps abreast of its service. -/
theorem Run.Finishes.later_mirrored (hfinish : p.Finishes h host s) (hpast : History (.idle w) before p)
    (hnew : w.services = []) (hnobody : w.hosts = []) (hfree : w.registry = {}) (hheld : w.subscriptions = [])
    (hlater : History p.step later r) (hcalm : ∀ x ∈ later ++ [r], x.Calm)
    (hstops : ∀ x ∈ later, x.StopsInTime h host.service) :
    (r.view host.service).Mirrored host.service (.keeper h) (heard (.keeper h) (happenings host.service (p :: later)))
      (s.state.snapshot :: published (happenings host.service later)) := by
  obtain ⟨hreplayed, hmirrored⟩ := hfinish.mirrored hpast hnew hnobody
  have hcons (later : List (Run σ)) : heard (.keeper h) (happenings host.service (p :: later)) =
      s.state.snapshot :: heard (.keeper h) (happenings host.service later) := by
    rw [happenings, List.filterMap_cons_some hreplayed]
    exact List.filterMap_cons_some (if_pos rfl)
  rw [hcons]
  induction hlater with
  | begin => exact hmirrored
  | @step later r hlater ih =>
    have hbefore := ih (fun x hx ↦ hcalm x (List.mem_append_left _ hx)) fun x hx ↦
      hstops x (List.mem_append_left _ hx)
    have hfull : History (.idle w) (before ++ ([p] ++ later)) r := hpast.trans (.trans (.step .begin) hlater)
    obtain ⟨-, hmade⟩ := hfinish.stays (hpast.housed hnew hnobody) hlater
    have hnext := hbefore.turn (r.step_turn host.service) (hfull.view_course hnew _) (hfull.recorded hnew _)
      (hfull.ranked hnew _) ((hcalm r (by simp)).happening (hcalm r.step (by simp)) _) ?_ ?_ ?_ ?_
    · rwa [happenings_append, happenings_singleton, heard_append, published_append, ← List.cons_append,
        ← List.cons_append]
    · intro snapshot hreplayed
      obtain ⟨name, below, -, hstack, -⟩ := starts_of_replayed hreplayed
      exact hmade below ⟨name, hstack ▸ List.suffix_refl _⟩
    · exact fun hstopped s _ ↦ (hstops r (by simp)).not_owed hstopped s
    · intro s s' hs hs' hl
      refine (hfull.keeps hnew hfree hheld ⟨s, hs, hl⟩).imp_left fun hkept ↦ ?_
      obtain ⟨s'', hs'', hl'⟩ := hkept
      cases hs''.symm.trans hs'
      exact hl'
    · intro s s' hs hs' hl
      have hnot : ¬ r.Subscribed host.service (.keeper h) := by
        rintro ⟨s'', hs'', hl''⟩
        cases hs''.symm.trans hs
        cases hl''.symm.trans hl
      exact Bool.eq_false_iff.mpr fun hl' ↦ not_subscribed_step hnot hmade ⟨s', hs', hl'⟩
  | @call later r hlater hidle script ih =>
    have hbefore := ih (fun x hx ↦ hcalm x (List.mem_append_left _ hx)) fun x hx ↦
      hstops x (List.mem_append_left _ hx)
    rw [happenings_append, happenings_singleton, happening_of_empty _ hidle, view_call_of_empty _ hidle]
    simpa using hbefore

/-- A host shows the state that it is told of. -/
theorem Run.shows_told (hhost : r.world.hosts[h]? = some host) (htells : r.Tells id (.keeper h) snapshot) :
    ∃ host', r.step.world.hosts[h]? = some host' ∧ host'.current = snapshot := by
  obtain ⟨w', below, hstep, host', hhost', hcurrent⟩ := step_of_told hhost htells
  have hworld : r.step.world = w' := by
    rw [hstep]
    unfold passOn
    cases host.onChange <;> rfl
  exact ⟨host', hworld ▸ hhost', hcurrent⟩

/-- A host that is told of nothing shows what it showed. -/
theorem Run.shows_same (hhost : r.world.hosts[h]? = some host) (htells : ∀ i snapshot, ¬ r.Tells i (.keeper h) snapshot)
    (hstray : ∀ s rest below, ¬ .round none (.state s) rest :: below <:+ r.stack) :
    ∃ host', r.step.world.hosts[h]? = some host' ∧ host'.current = host.current := by
  have hchange := (r.step_housing h 0).host
  rw [hhost] at hchange
  generalize r.step.world.hosts[h]? = o at hchange
  cases hchange with
  | kept => exact ⟨_, rfl, rfl⟩
  | told htold => exact absurd htold (htells _ _)
  | stray hstack => exact absurd ⟨[], hstack.symm⟩ (hstray _ _ _)
  | closed => exact ⟨_, rfl, rfl⟩

/-- A host shows the state that its keeper was told of last. -/
theorem Run.Finishes.shows (hfinish : p.Finishes h host s) (hpast : History (.idle w) before p)
    (hnew : w.services = []) (hnobody : w.hosts = []) (hlater : History p.step later r) :
    ∃ host', r.world.hosts[h]? = some host' ∧
      (heard (.keeper h) (happenings host.service (p :: later))).getLast? = some host'.current := by
  obtain ⟨hreplayed, -⟩ := hfinish.mirrored hpast hnew hnobody
  induction hlater with
  | begin =>
    obtain ⟨host', hhost', hcurrent⟩ := shows_told hfinish.present (.inr hreplayed)
    refine ⟨host', hhost', ?_⟩
    rw [hcurrent, happenings_singleton, hreplayed]
    simp [heard, Happening.heard?]
  | @step later r hlater ih =>
    obtain ⟨host', hhost', hlast⟩ := ih
    have hfull : History (.idle w) (before ++ ([p] ++ later)) r := hpast.trans (.trans (.step .begin) hlater)
    obtain ⟨⟨host'', hhost'', hservice, -⟩, -⟩ := hfinish.stays (hpast.housed hnew hnobody) hlater
    cases hhost'.symm.trans hhost''
    rw [← List.cons_append, happenings_append, happenings_singleton, heard_append]
    by_cases htold : ∃ i snapshot, r.Tells i (.keeper h) snapshot
    · obtain ⟨i, snapshot, htells⟩ := htold
      obtain rfl := (service_of_tells hfull hnew hnobody hhost' htells).trans hservice
      obtain ⟨shown, hshown, hcurrent⟩ := shows_told hhost' htells
      refine ⟨shown, hshown, ?_⟩
      have hheard : heard (.keeper h) (r.happening host.service).toList = [snapshot] := by
        rcases htells with hh | hh <;> simp [hh, heard, Happening.heard?]
      rw [hheard, List.getLast?_concat, hcurrent]
    · simp only [not_exists] at htold
      obtain ⟨shown, hshown, hcurrent⟩ := shows_same hhost' htold hfull.no_stray
      refine ⟨shown, hshown, ?_⟩
      rw [heard_toList_of_none (fun snapshot hh ↦ htold _ snapshot (.inl hh)) fun snapshot hh ↦
        htold _ snapshot (.inr hh), List.append_nil, hcurrent]
      exact hlast
  | @call later r hlater hidle script ih =>
    obtain ⟨host', hhost', hlast⟩ := ih
    refine ⟨host', hhost', ?_⟩
    rw [← List.cons_append, happenings_append, happenings_singleton, happening_of_empty _ hidle]
    simpa using hlast

/-! ### The end of a host -/

/-- The step that is asked to close a host answers with nothing. -/
theorem Run.AskedToClose.step (hasked : r.AskedToClose h) :
    ∃ below, r.step = answer (Run.close r.world h) below .null := by
  cases hasked with
  | leave hrequest hname | close hrequest hname =>
    rw [step_of_request hrequest]
    simp only [perform, hname]
    exact ⟨_, rfl⟩

/-- To close a host that is closed changes nothing. -/
theorem Run.AskedToClose.step_of_closed (hasked : r.AskedToClose h) (hhost : r.world.hosts[h]? = some host)
    (hclosed : host.closed = true) : ∃ below, r.step = answer r.world below .null := by
  obtain ⟨below, hstep⟩ := hasked.step
  have hsame : Run.close r.world h = r.world := by simp [Run.close, hhost, hclosed]
  exact ⟨below, hsame ▸ hstep⟩

/-- A host that is closed stops its service. -/
theorem Run.Closes.stops (hcloses : r.Closes h) (hhost : r.world.hosts[h]? = some host)
    (hservice : r.world.services[host.service]? = some s) : r.happening host.service = some .stopped ∧
      ∃ host', r.step.world.hosts[h]? = some host' ∧ host'.closed = true := by
  obtain ⟨hasked, host', hhost', hopen⟩ := hcloses
  cases hhost.symm.trans hhost'
  refine ⟨?_, ?_⟩
  · cases hasked with
    | leave hrequest hname | close hrequest hname =>
      rw [happening_of_request hrequest]
      simp [World.requested, hservice, World.own?, World.closing?, hname, World.hosted?, hhost, hopen]
  · obtain ⟨below, hstep⟩ := hasked.step
    rw [hstep]
    refine ⟨{ host with closed := true }, ?_, rfl⟩
    exact (host_close r.world h h).trans (by rw [if_pos rfl, hhost]; rfl)

/-- A service that is stopped has no listeners left. -/
theorem Turn.contains_of_stopped {l : Listener} {v v' : View σ} (hturn : Turn id v (some .stopped) v')
    (hservice : v'.service = some s) : s.listeners.contains l = false := by
  cases hturn with
  | stopped =>
    cases hservice
    rfl

/-- Once a host is closed, it stays closed, and its keeper is subscribed no more. -/
theorem Run.Closes.lasts (hcloses : p.Closes h) (hhost : p.world.hosts[h]? = some host)
    (hservice : p.world.services[host.service]? = some s) (hlater : History p.step later r)
    (hmade : ∀ x ∈ later, ∀ below, ¬ Starts h below x.stack) :
    (∃ host', r.world.hosts[h]? = some host' ∧ host'.closed = true) ∧ ¬ r.Subscribed host.service (.keeper h) := by
  obtain ⟨hstopped, hclosed⟩ := hcloses.stops hhost hservice
  induction hlater with
  | begin =>
    refine ⟨hclosed, ?_⟩
    have hturn := p.step_turn host.service
    rw [hstopped] at hturn
    rintro ⟨s', hs', hl⟩
    cases hl.symm.trans (hturn.contains_of_stopped hs')
  | @step later r hlater ih =>
    obtain ⟨⟨host', hhost', hclosed'⟩, hnot⟩ := ih fun x hx ↦ hmade x (List.mem_append_left _ hx)
    obtain ⟨host'', hhost'', -, -, hstays⟩ := host_stays hhost'
    exact ⟨⟨host'', hhost'', hstays hclosed'⟩, not_subscribed_step hnot (hmade r (by simp))⟩
  | @call later r hlater hidle script ih => exact ih fun x hx ↦ hmade x (List.mem_append_left _ hx)

/-- An event that is sent to a host whose service is stopped is dropped. -/
theorem Run.step_of_late_send {name : String} {v : Value} {event : Event} {below : List (Frame σ)}
    (hrequest : r.request? = some (.send name v, below)) (hname : World.lookup? r.world.names name = some (.host h))
    (hhost : r.world.hosts[h]? = some host) (hservice : r.world.services[host.service]? = some s)
    (hstopped : s.status = .stopped) (hevent : Event.ofValue v = .ok event) :
    r.step = answer (r.world.mark host.service (.dropped event .stopped)) below (.state s.state.snapshot) := by
  rw [step_of_request hrequest]
  simp [perform, withService, World.serviceOf, hname, hhost, hservice, send, hevent, hstopped]

/-- From then on, nothing tells a host of a state that was closed. -/
theorem Run.Finishes.closed (hfinish : p.Finishes h host s) (hpast : History (.idle w) before p)
    (hnew : w.services = []) (hnobody : w.hosts = []) (hlater : History p.step later r) {c : Run σ} (hc : c ∈ later)
    (hcloses : c.Closes h) : (∃ now, r.world.hosts[h]? = some now ∧ now.closed = true) ∧
      ¬ r.Subscribed host.service (.keeper h) ∧ ∀ i snapshot, ¬ r.Tells i (.keeper h) snapshot := by
  have hhoused := hpast.housed hnew hnobody
  have hmade (x : Run σ) (hx : x ∈ later) : ∀ below, ¬ Starts h below x.stack := by
    obtain ⟨earlier, -, -, hx, -⟩ := hlater.split hx
    exact (hfinish.stays hhoused hx).2
  obtain ⟨earlier, rest, rfl, hearlier, hrest⟩ := hlater.split hc
  have hbusy : c.stack ≠ [] := by
    rintro hempty
    obtain ⟨hrequest, -⟩ | ⟨hrequest, -⟩ := hcloses.1
    all_goals
      rw [request?, hempty] at hrequest
      cases hrequest
  obtain ⟨-, hrest⟩ : _ ∧ History c.step rest r := by
    obtain ⟨hnone, -⟩ | ⟨more, hmore, hrest⟩ := hrest.after_step hbusy
    · cases hnone
    · cases hmore
      exact ⟨trivial, hrest⟩
  have hcfull : History (.idle w) (before ++ ([p] ++ earlier)) c := hpast.trans (.trans (.step .begin) hearlier)
  obtain ⟨⟨host', hhost', hsame, -⟩, -⟩ := hfinish.stays hhoused hearlier
  obtain ⟨s', hs'⟩ := (hcfull.housed hnew hnobody).service h host' hhost'
  obtain ⟨⟨now, hnow, hclosed⟩, hnot⟩ := hcloses.lasts hhost' hs' hrest fun x hx ↦ hmade x (by simp [hx])
  rw [hsame] at hnot
  obtain ⟨⟨now', hnow', hservice, -⟩, hunmade⟩ := hfinish.stays hhoused hlater
  cases hnow.symm.trans hnow'
  have hfull : History (.idle w) (before ++ ([p] ++ (earlier ++ c :: rest))) r :=
    hpast.trans (.trans (.step .begin) hlater)
  refine ⟨⟨now, hnow, hclosed⟩, hnot, fun i snapshot htells ↦ ?_⟩
  obtain rfl := (service_of_tells hfull hnew hnobody hnow htells).trans hservice
  rcases htells with hnotified | hreplayed
  · exact hnot (hfull.subscribed_of_notified hnew hnotified)
  · obtain ⟨name, below, -, hstack, -⟩ := starts_of_replayed hreplayed
    exact hunmade below ⟨name, hstack ▸ List.suffix_refl _⟩

/-! ### The mirror -/

/-- How a host stands to its service, from the end of its construction at `p` on to `r`. -/
structure Mirrors (h : Nat) (host : Host) (s : Service σ) (p : Run σ) (later : List (Run σ)) (r : Run σ) (now : Host)
    (service : Service σ) : Prop where
  present : r.world.hosts[h]? = some now ∧ now.service = host.service ∧ r.world.services[host.service]? = some service
  /-- With nothing of the service under way, the host shows the state of the service. -/
  current : r.Idle host.service → now.current = service.state.snapshot
  /-- The host was told of the state that was current when it was made, then of what every event led to, each once and
  in order; only the latest may be still to come, in the round of its event. -/
  complete : heard (.keeper h) (happenings host.service (p :: later)) =
      s.state.snapshot :: published (happenings host.service later) ∨
    ¬ r.Idle host.service ∧ heard (.keeper h) (happenings host.service (p :: later)) ++ [service.state.snapshot] =
      s.state.snapshot :: published (happenings host.service later)
  /-- Nobody else tells the host of a state, and what it is told of it keeps before it passes it on. -/
  passed : ∀ i snapshot, r.Tells i (.keeper h) snapshot → i = host.service ∧ ∃ w' below,
    r.step = .passOn w' below host.onChange snapshot ∧ ∃ shown, w'.hosts[h]? = some shown ∧ shown.current = snapshot
  /-- Once it was closed, the host is told of nothing, is not closed again, and drops every event. -/
  closed : (∃ c ∈ later, c.Closes h) → now.closed = true ∧ now.current = service.state.snapshot ∧
    (∀ i snapshot, ¬ r.Tells i (.keeper h) snapshot) ∧
    (r.AskedToClose h → ∃ below, r.step = .answer r.world below .null) ∧
    ∀ name v event below, r.request? = some (.send name v, below) →
      World.lookup? r.world.names name = some (.host h) → Event.ofValue v = .ok event →
        ∃ w', r.step = .answer w' below (.state now.current) ∧ w'.services = r.world.services ∧
          w'.hosts = r.world.hosts

/-- A host mirrors its service. Assumes: a history of a world without services, hosts, registrations and handles, with
any callbacks, that leads to the end of the construction of a host at `p`, and on from there to `r`; since then nothing
fails, and the service is stopped only with nothing of it under way or in a round that has been past the host, as when
the host is closed from outside or out of its own callback. The service was started once. With nothing of it under way
the host shows its state. The states that the host was told of are the one that was current at `p` and those that
events led to since, without gaps or repeats; the host passes each on as soon as it has kept it. Once it was closed, it
is told of nothing any more, cannot be closed again, and answers every event with the last state, which stays. -/
theorem host_mirrors_service (hpast : History (.idle w) before p) (hnew : w.services = []) (hnobody : w.hosts = [])
    (hfree : w.registry = {}) (hheld : w.subscriptions = []) (hfinish : p.Finishes h host s)
    (hlater : History p.step later r) (hcalm : ∀ x ∈ later ++ [r], x.Calm)
    (hstops : ∀ x ∈ later, x.StopsInTime h host.service) :
    (∃ initial, startedStates (happenings host.service (before ++ p :: later)) = [initial]) ∧
      ∃ now service, Mirrors h host s p later r now service := by
  have hfull : History (.idle w) (before ++ ([p] ++ later)) r := hpast.trans (.trans (.step .begin) hlater)
  obtain ⟨⟨now, hnow, hsame, honChange⟩, -⟩ := hfinish.stays (hpast.housed hnew hnobody) hlater
  obtain ⟨service, hservice, -, hlast, habreast⟩ :=
    hfinish.later_mirrored hpast hnew hnobody hfree hheld hlater hcalm hstops
  obtain ⟨now', hnow', hshown⟩ := hfinish.shows hpast hnew hnobody hlater
  cases hnow.symm.trans hnow'
  have hidle (hstates : s.state.snapshot :: published (happenings host.service later) =
      heard (.keeper h) (happenings host.service (p :: later))) : now.current = service.state.snapshot := by
    rw [hstates, hshown] at hlast
    exact Option.some.inj hlast
  obtain ⟨initial, hstarted⟩ := hfull.started_once hnew hnobody hnow
  refine ⟨⟨initial, hsame ▸ hstarted⟩, now, service, ⟨hnow, hsame, hservice⟩, fun hquiet ↦ ?_, ?_,
    fun i snapshot htells ↦ ⟨(Run.service_of_tells hfull hnew hnobody hnow htells).trans hsame, ?_⟩, ?_⟩
  · cases habreast with
    | even hl howed hstates | finished hl hstatus hstill hstates => exact hidle hstates
    | behind hl howed hstates =>
      change Owed _ service (handling host.service r.stack) at howed
      rw [hquiet] at howed
      exact howed.elim
  · cases habreast with
    | even hl howed hstates | finished hl hstatus hstill hstates => exact .inl hstates.symm
    | behind hl howed hstates =>
      refine .inr ⟨fun hquiet ↦ ?_, hstates.symm⟩
      change Owed _ service (handling host.service r.stack) at howed
      rw [hquiet] at howed
      exact howed.elim
  · exact honChange ▸ Run.step_of_told hnow htells
  · rintro ⟨c, hc, hcloses⟩
    obtain ⟨⟨now', hnow', hclosed⟩, hnot, htold⟩ := hfinish.closed hpast hnew hnobody hlater hc hcloses
    cases hnow.symm.trans hnow'
    have hgone (hl : service.listeners.contains (.keeper h) = true) : False := hnot ⟨service, hservice, hl⟩
    cases habreast with
    | even hl | behind hl => exact (hgone hl).elim
    | finished hl hstatus hstill hstates =>
      refine ⟨hclosed, hidle hstates, htold, fun hasked ↦ hasked.step_of_closed hnow hclosed,
        fun name v event below hrequest hname hevent ↦
          ⟨r.world.mark host.service (.dropped event .stopped), ?_, World.services_mark _ _ _, ?_⟩⟩
      · rw [Run.step_of_late_send hrequest hname hnow (hsame ▸ hservice) hstatus hevent, hidle hstates, hsame]
      · exact congrArg Housing.hosts (Run.housing_mark _ _ _)

end

/-- A world in which a lamp is closed by its host as soon as it is on, and an eye presses it as soon as it sees it. -/
def World.ofShade : World Unit :=
  { World.ofLamp shines with
    behaviour := fun l what ↦
      match l, what with
      | .named "render", .state s => if s.value.same (.text "on") then .request (.close "lamp") else .done
      | .named "eye", .state s => if s.value.same (.text "off") then .request (.send "inner" (.text "press")) else .done
      | _, _ => .done
    names := [("inner", .service 0)] }

/-- A host is made for a lamp, the lamp is watched, and pressed once more. -/
def shaded : Run Unit :=
  .script World.ofShade [] (.call (.createHost "lamp" (some "render")) fun _ ↦
    .call (.subscribe "inner" "eye" "eye") fun _ ↦ .request (.send "lamp" (.text "press")))

theorem History.ofShaded (n : Nat) :
    History (.idle World.ofShade) (.idle World.ofShade :: shaded.trail n) (shaded.after n) :=
  .trans (.call .begin rfl _) (.steps shaded n)

/-- Out of the round of the first event the host closes the lamp, which shows what it was told of last; the second
event is dropped. -/
theorem host_mirrors_service_of_shaded :
    heard (.keeper 0) (happenings 0 (shaded.after 7 :: (shaded.after 8).trail 20)) =
        [⟨.text "off", .null, [], false⟩, ⟨.text "on", .null, [], true⟩] ∧
      ∃ w', ((shaded.after 8).after 20).step =
        .answer w' [.awaiting fun _ ↦ .done] (.state ⟨.text "on", .null, [], true⟩) ∧
        w'.services = ((shaded.after 8).after 20).world.services := by
  have hfinish : (shaded.after 7).Finishes 0 ⟨0, some "render", ⟨.text "off", .null, [], false⟩, false⟩ _ :=
    ⟨⟨_, _, rfl⟩, ⟨_, rfl⟩, rfl, rfl⟩
  have hcloses : (shaded.after 20).Closes 0 := ⟨.close rfl rfl, _, rfl, rfl⟩
  have hstops : ∀ x ∈ (shaded.after 8).trail 20, x.StopsInTime 0 0 := by
    intro x hx
    obtain ⟨n, hn, rfl⟩ := Run.mem_trail.mp hx
    by_cases hclose : n = 12
    · subst hclose
      exact fun _ ↦ .inr ⟨_, _, _, rfl, by decide⟩
    · intro hstopped
      interval_cases n <;> first | exact absurd rfl hclose | cases hstopped
  obtain ⟨-, now, service, hmirrors⟩ := host_mirrors_service (History.ofShaded 7) rfl rfl rfl rfl hfinish
    (.steps (shaded.after 8) 20) (by decide) hstops
  have hc : shaded.after 20 ∈ (shaded.after 8).trail 20 := Run.mem_trail.mpr ⟨12, by decide, rfl⟩
  obtain ⟨hhost, -, hservice⟩ := hmirrors.present
  obtain ⟨-, -, -, -, hdrops⟩ := hmirrors.closed ⟨_, hc, hcloses⟩
  obtain ⟨w', hstep, hservices, -⟩ := hdrops _ _ _ _ rfl rfl rfl
  cases hhost
  refine ⟨?_, w', hstep, hservices⟩
  rcases hmirrors.complete with hcomplete | ⟨hbusy, -⟩
  · exact hcomplete
  · exact absurd rfl hbusy

end Statechart
