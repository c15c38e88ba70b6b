import Statechart.Proofs.Interruption
import Statechart.Proofs.Subscription

/-!
# One history for all listeners

The states of a service have numbers: the first state has the number 0, what the n-th event committed the number n. A
call of a listener passes the state of one number: a replay that of the state held, a notification that of the state
held when its round was announced (`told`). These numbers never decrease, since a round is over before the next event
is taken (`Course.counted`). Between its commit and the end of its round a state is owed to every subscribed
listener (`Owed`), so none is passed over (`View.Informed.turn`). All listeners therefore see parts of one history
(`listeners_see_one_history`).
-/

set_option autoImplicit false
set_option relaxedAutoImplicit false

namespace Statechart

variable {σ : Type}

/-! ### Numbers of states -/

/-- The states that were committed, in order. -/
def committedStates (hs : List (Happening σ)) : List (State σ) :=
  hs.filterMap fun h ↦
    match h with
    | .committed _ _ next => some next
    | _ => none

/-- The states of a service by their numbers: the first state, then what its events committed. -/
def chronicle (initial : State σ) (hs : List (Happening σ)) : List (State σ) := initial :: committedStates hs

/-- How far a service has got. -/
structure Count where
  /-- The number of the state that is held. -/
  held : Nat := 0
  /-- The number of the state that was held when the latest round was announced. -/
  announced : Nat := 0

/-- The count after one more happening. -/
def Happening.count (c : Count) : Happening σ → Count
  | .committed _ _ _ => { c with held := c.held + 1 }
  | .announced _ => { c with announced := c.held }
  | _ => c

/-- The count after some happenings. -/
def countFrom (c : Count) (hs : List (Happening σ)) : Count := hs.foldl Happening.count c

/-- The call of a listener that a happening begins: the number of the state that is passed, and what is passed. -/
def Happening.told? (l : Listener) (c : Count) : Happening σ → Option (Nat × Snapshot)
  | .replayed l' snapshot => if l' = l then some (c.held, snapshot) else none
  | .notified l' snapshot => if l' = l then some (c.announced, snapshot) else none
  | _ => none

/-- The calls of a listener, in order. -/
def told (l : Listener) : Count → List (Happening σ) → List (Nat × Snapshot)
  | _, [] => []
  | c, h :: hs => (h.told? l c).toList ++ told l (h.count c) hs

section

variable (c : Count) (l : Listener) (hs hs' : List (Happening σ)) (h : Happening σ)

@[simp] theorem committedStates_append : committedStates (hs ++ hs') = committedStates hs ++ committedStates hs' :=
  List.filterMap_append

theorem chronicle_append (initial : State σ) :
    chronicle initial (hs ++ hs') = chronicle initial hs ++ committedStates hs' := by
  simp [chronicle]

@[simp] theorem countFrom_append : countFrom c (hs ++ hs') = countFrom (countFrom c hs) hs' :=
  List.foldl_append

@[simp] theorem countFrom_singleton : countFrom c [h] = h.count c := rfl

theorem told_append : told l c (hs ++ hs') = told l c hs ++ told l (countFrom c hs) hs' := by
  induction hs generalizing c with
  | nil => rfl
  | cons h hs ih =>
    rw [List.cons_append, told, ih, told, List.append_assoc]
    rfl

theorem told_concat : told l c (hs ++ [h]) = told l c hs ++ (h.told? l (countFrom c hs)).toList := by
  rw [told_append, told, told, List.append_nil]

/-- The number of the state that is held is that of the latest commit. -/
theorem held_countFrom : (countFrom c hs).held = c.held + (committedStates hs).length := by
  induction hs generalizing c with
  | nil => rfl
  | cons h hs ih =>
    change (countFrom (h.count c) hs).held = _
    rw [ih]
    cases h with
    | committed source event next =>
      change c.held + 1 + (committedStates hs).length = c.held + ((committedStates hs).length + 1)
      omega
    | _ => rfl

theorem countFrom_notices (s : Snapshot) (listeners : List Listener) :
    countFrom c (notices (σ := σ) s listeners) = c := by
  induction listeners with
  | nil => rfl
  | cons l listeners ih => exact ih

/-- Whether a happening calls a listener does not depend on the count, and a call does not change it. -/
theorem told?_eq_none {l : Listener} {h : Happening σ} {c : Count} (hnone : h.told? l c = none) (c' : Count) :
    h.told? l c' = none := by
  cases h <;> simp_all [Happening.told?]

theorem count_of_told? {l : Listener} {h : Happening σ} {c : Count} {call : Nat × Snapshot}
    (hcall : h.told? l c = some call) (c' : Count) : h.count c' = c' := by
  cases h <;> first | rfl | cases hcall

/-- What belongs to no episode does not count. -/
theorem countFrom_episodic : countFrom c (episodic hs) = countFrom c hs := by
  unfold countFrom episodic
  rw [List.foldl_filter]
  congr 1
  funext c h
  cases h <;> rfl

end

section

variable {id : Nat} {l : Listener} {hs : List (Happening σ)} {v v' : View σ} {o : Option (Happening σ)}

/-- While a round is under way, the state that it was announced with is held. -/
theorem Course.counted {s : Service σ} {k : List (Frame σ)} {e : Exposure} {what : Published}
    {rest : List (Nat × Listener)} (h : Course id hs s (.round (some id) what rest :: k) e) :
    (countFrom {} hs).announced = (countFrom {} hs).held := by
  obtain ⟨current, hunder, hserving⟩ := h.handles (by nofun)
  obtain ⟨first, handlings, -, -, hhs⟩ := hunder.finished
  cases hserving with
  | @round k source event next told rest e hk hnext hstate =>
    rw [← countFrom_episodic, hhs, countFrom_append, Statechart.announced, countFrom_append]
    change (countFrom _ (notices _ _)).announced = (countFrom _ (notices _ _)).held
    rw [countFrom_notices]
    rfl

/-- A call of a listener passes the state that is held. -/
theorem Turn.number_eq {h : Happening σ} (hturn : Turn id v (some h) v') (hcourse : v.Course id hs)
    {call : Nat × Snapshot} (hcall : h.told? l (countFrom {} hs) = some call) : call.1 = (countFrom {} hs).held := by
  cases h with
  | replayed l' snapshot =>
    simp only [Happening.told?, Option.ite_none_right_eq_some] at hcall
    obtain ⟨-, hcall⟩ := hcall
    cases hcall
    rfl
  | notified l' snapshot =>
    simp only [Happening.told?, Option.ite_none_right_eq_some] at hcall
    obtain ⟨-, hcall⟩ := hcall
    cases hcall
    cases hturn with
    | notified hticket => exact Course.counted hcourse
  | _ => cases hcall

end

/-! ### States that are owed -/

/-- The round that follows the latest commit is still to come to a listener. -/
def Owed (l : Listener) (s : Service σ) : List (Frame σ) → Prop
  | .effects _ _ _ _ :: .announce _ _ :: _ | .announce _ _ :: _ => True
  | .round _ _ rest :: _ => ∃ e ∈ rest, e.2 = l ∧ e ∈ s.listeners.entries
  | _ => False

/-- Every subscribed listener was last told of the state that is held, or it was told of the one before and is owed
the one that is held. -/
def View.Informed (hs : List (Happening σ)) (v : View σ) : Prop :=
  ∀ s, v.service = some s → ∀ l, s.listeners.contains l = true → ∃ call, (told l {} hs).getLast? = some call ∧
    (call.1 = (countFrom {} hs).held ∨ call.1 + 1 = (countFrom {} hs).held ∧ Owed l s v.frames)

section

variable {id : Nat} {l : Listener} {hs : List (Happening σ)} {v v' : View σ} {o : Option (Happening σ)}
  {s s' : Service σ} {k : List (Frame σ)}

/-- What is owed to a listener is still owed while its registration stays. -/
theorem Owed.keep (h : Owed l s k)
    (hkeep : ∀ e ∈ s.listeners.entries, e.2 = l → e ∈ s'.listeners.entries) : Owed l s' k := by
  unfold Owed at h ⊢
  split at h
  · trivial
  · trivial
  · obtain ⟨e, he, hl, hentry⟩ := h
    exact ⟨e, he, hl, hkeep e hentry hl⟩
  · exact h.elim

/-- What is owed to a listener in a round is still owed after the turn of another registration. -/
theorem Owed.next {what : Published} {ticket : Nat} {l' : Listener} {rest : List (Nat × Listener)}
    (h : Owed l s (.round (some id) what ((ticket, l') :: rest) :: k))
    (hother : l' = l → (ticket, l') ∉ s.listeners.entries) : Owed l s (.round (some id) what rest :: k) := by
  obtain ⟨e, he, hsame, hentry⟩ := h
  rcases List.mem_cons.mp he with rfl | he
  · exact absurd hentry (hother hsame)
  · exact ⟨e, he, hsame, hentry⟩

/-- What is owed to a listener stays so when another registration ends. -/
theorem Owed.unsubscribe {ticket : Nat} (h : Owed l s k) (hsound : s.listeners.Sound)
    (hstays : (s.listeners.remove ticket).1.contains l = true) :
    Owed l { s with listeners := (s.listeners.remove ticket).1 } k := by
  -- the registration that is left is the one that there was
  obtain ⟨e', he', hsame'⟩ := Registry.contains_iff.mp hstays
  refine h.keep fun e he hsame ↦ ?_
  rw [hsound.unique e he e' (Registry.mem_remove.mp he').1 (.inr (hsame.trans hsame'.symm))]
  exact he'

/-- A turn that neither calls the listener nor fails leaves owed what was owed. -/
theorem Turn.owed (hturn : Turn id v o v') (hcourse : v.Course id hs) (hrecorded : v.Recorded id)
    (hfault : ∀ h ∈ o, h.isFault = false) (hcall : ∀ h ∈ o, ∀ c, h.told? l c = none)
    (hservice : v.service = some s) (hservice' : v'.service = some s') (hl : s.listeners.contains l = true)
    (hl' : s'.listeners.contains l = true) (howed : Owed l s v.frames) : Owed l s' v'.frames := by
  cases hturn with
  | quiet =>
    obtain rfl := Option.some.inj (hservice.symm.trans hservice')
    exact howed
  | @started k before hstatus =>
    by_cases hk : handling id k = []
    · rw [hk] at howed
      exact howed.elim
    · exact absurd hstatus (Course.status_ne_notStarted hcourse hk)
  | sent hr hp =>
    rw [Course.frames_eq_nil hcourse hp] at howed
    exact howed.elim
  | stopped =>
    cases hservice'
    cases hl'
  | queued hr hp =>
    cases hservice
    cases hservice'
    exact howed.keep fun e he _ ↦ he
  | subscribed =>
    cases hservice
    cases hservice'
    exact howed.keep fun e he _ ↦ Registry.mem_add he
  | unsubscribed =>
    cases hservice
    cases hservice'
    exact howed.unsubscribe (hrecorded _ rfl).1 hl'
  | performed =>
    rcases View.below_effects hcourse with ⟨below, initial, done, rfl, -⟩ | ⟨below, rfl⟩
    · exact howed.elim
    · trivial
  | allPerformed =>
    rcases View.below_effects hcourse with ⟨below, initial, done, rfl, -⟩ | ⟨below, rfl⟩
    · exact howed.elim
    · rw [handling_cons_self (by simp)]
      trivial
  | opened | taken | drained | committed => exact howed.elim
  | announced =>
    cases hservice
    cases hservice'
    obtain ⟨e, he, hsame⟩ := Registry.contains_iff.mp hl
    exact ⟨e, he, hsame, he⟩
  | @notified k s snapshot ticket l' =>
    cases hservice
    cases hservice'
    -- another listener is called
    have hother : l' ≠ l := by simpa [Happening.told?] using hcall _ rfl {}
    exact howed.next fun hsame ↦ absurd hsame hother
  | passedOver hticket =>
    obtain rfl := Option.some.inj (hservice.symm.trans hservice')
    cases hservice
    refine howed.next fun _ hentry ↦ ?_
    -- a registration that is there is not passed over
    obtain ⟨current, -, hserving⟩ := Course.handles hcourse (by nofun)
    cases hserving with
    | round hk hnext hstate =>
      have hgone := hticket _ _ rfl rfl
      rw [Registry.hasTicket_iff.mpr ⟨_, hentry, rfl⟩] at hgone
      cases hgone
  | completed =>
    obtain ⟨e, he, -⟩ := howed
    cases he
  | refused | effectFailed | listenerFailed | announceAbandoned | openingAbandoned | openingInterrupted
  | drainAbandoned => exact absurd (hfault _ rfl) (by simp [Happening.isFault])
  | created | hosted | orphaned => cases hservice

/-- Nothing is owed when the next event is committed, and then the state that it leads to is. -/
theorem Turn.owed_of_committed {source next : State σ} {event : Event}
    (hturn : Turn id v (some (.committed source event next)) v') :
    ¬ Owed l s v.frames ∧ Owed l s' v'.frames := by
  cases hturn with
  | committed hnext => exact ⟨fun h ↦ h.elim, trivial⟩

/-- Every turn that is no fault keeps the subscribed listeners informed. -/
theorem View.Informed.turn (hcourse : v.Course id hs) (hrecorded : v.Recorded id) (h : v.Informed hs)
    (hfault : ∀ h ∈ o, h.isFault = false) (hturn : Turn id v o v') : v'.Informed (hs ++ o.toList) := by
  intro s' hservice' l hl'
  by_cases hcall : ∃ h ∈ o, ∃ call, h.told? l (countFrom {} hs) = some call
  · -- the listener is told of the state that is held
    obtain ⟨h, ho, call, hcall⟩ := hcall
    obtain rfl : o = some h := ho
    refine ⟨call, by simp [told_concat, hcall], .inl ?_⟩
    rw [Option.toList_some, countFrom_append, countFrom_singleton, count_of_told? hcall]
    exact hturn.number_eq hcourse hcall
  have hnone : ∀ h ∈ o, ∀ c, h.told? l c = none := fun h ho ↦ told?_eq_none
    (Option.eq_none_iff_forall_ne_some.mpr fun call hsome ↦ hcall ⟨h, ho, call, hsome⟩)
  have htold : told l {} (hs ++ o.toList) = told l {} hs := by
    cases o with
    | none => simp
    | some h => simp [told_concat, hnone h rfl]
  obtain ⟨s, hservice, hl⟩ : ∃ s, v.service = some s ∧ s.listeners.contains l = true := by
    by_cases hbefore : ∃ s, v.service = some s ∧ s.listeners.contains l = true
    · exact hbefore
    · obtain ⟨s, -, rfl⟩ := hturn.replayed_of_registered hservice' hl' fun s hs ↦
        Bool.eq_false_iff.mpr fun hl ↦ hbefore ⟨s, hs, hl⟩
      exact absurd (hnone _ rfl {}) (by simp [Happening.told?])
  obtain ⟨call, hlast, hnumber⟩ := h s hservice l hl
  refine ⟨call, htold ▸ hlast, ?_⟩
  by_cases hcommitted : ∃ source event next, o = some (.committed source event next)
  · -- what was held is now one behind, and what follows is owed
    obtain ⟨source, event, next, rfl⟩ := hcommitted
    obtain ⟨hnot, howed⟩ := hturn.owed_of_committed (l := l) (s := s)
    have hheld := hnumber.resolve_right fun h ↦ hnot h.2
    exact .inr ⟨by simp [Happening.count, hheld], howed⟩
  · have hheld : (countFrom {} (hs ++ o.toList)).held = (countFrom {} hs).held := by
      cases o with
      | none => simp
      | some h =>
        rw [Option.toList_some, countFrom_append, countFrom_singleton]
        cases h with
        | committed source event next => exact absurd ⟨source, event, next, rfl⟩ hcommitted
        | _ => rfl
    rw [hheld]
    exact hnumber.imp_right fun ⟨hbehind, howed⟩ ↦
      ⟨hbehind, hturn.owed hcourse hrecorded hfault hnone hservice hservice' hl hl' howed⟩

end

/-! ### Over a history -/

section

variable {w : World σ} {past : List (Run σ)} {r : Run σ} {id : Nat} {s : Service σ}

theorem History.informed (hpast : History (.idle w) past r) (hnew : w.services = [])
    (hcalm : ∀ x ∈ past ++ [r], x.Calm) (id : Nat) : (r.view id).Informed (happenings id past) := by
  have hall := hpast.turns id (P := fun hs v ↦ v.Course id hs ∧ v.Recorded id ∧
      ((∀ h ∈ hs, h.isFault = false) → v.Informed hs))
    ⟨by simp [View.Course, Run.idle, Run.view, hnew], by simp [View.Recorded, Run.idle, Run.view, hnew],
      fun _ ↦ by simp [View.Informed, Run.idle, Run.view, hnew]⟩
    fun h hturn ↦ ⟨Course.turn h.1 hturn, h.2.1.turn h.1 hturn, fun hcalm ↦
      View.Informed.turn h.1 h.2.1 (h.2.2 fun h hh ↦ hcalm h (List.mem_append_left _ hh))
        (fun h hh ↦ hcalm h (List.mem_append_right _ (Option.mem_toList.mpr hh))) hturn⟩
  exact hall.2.2 (hpast.faultless hcalm id)

/-- The numbers of the states that a listener is called with never decrease. -/
theorem History.told_sorted (hpast : History (.idle w) past r) (hnew : w.services = []) (id : Nat) (l : Listener) :
    (told l {} (happenings id past)).Pairwise fun call call' ↦ call.1 ≤ call'.1 := by
  have hall := hpast.turns id (P := fun hs v ↦ v.Course id hs ∧
      (told l {} hs).Pairwise (fun call call' ↦ call.1 ≤ call'.1) ∧
      ∀ call ∈ told l {} hs, call.1 ≤ (countFrom {} hs).held)
    ⟨by simp [View.Course, Run.idle, Run.view, hnew], .nil, by simp [told]⟩ ?_
  · exact hall.2.1
  rintro hs v o v' ⟨hcourse, hsorted, hbelow⟩ hturn
  refine ⟨Course.turn hcourse hturn, ?_⟩
  cases o with
  | none =>
    rw [Option.toList_none, List.append_nil]
    exact ⟨hsorted, hbelow⟩
  | some h =>
    have hgrows : (countFrom {} hs).held ≤ (countFrom {} (hs ++ [h])).held := by
      simp only [held_countFrom, committedStates_append, List.length_append]
      omega
    have hcalled : ∀ call ∈ (h.told? l (countFrom {} hs)).toList, call.1 = (countFrom {} hs).held :=
      fun call hcall ↦ hturn.number_eq hcourse (Option.mem_toList.mp hcall)
    rw [Option.toList_some, told_concat]
    refine ⟨List.pairwise_append.mpr ⟨hsorted, ?_, fun call hcall call' hcall' ↦ ?_⟩, fun call hcall ↦ ?_⟩
    · cases h.told? l (countFrom {} hs) <;> simp
    · rw [hcalled call' hcall']
      exact hbelow call hcall
    · rcases List.mem_append.mp hcall with hcall | hcall
      · exact Nat.le_trans (hbelow call hcall) hgrows
      · rw [hcalled call hcall]
        exact hgrows

/-- The state that a service holds is the last of its chronicle. -/
theorem History.held (hpast : History (.idle w) past r) (hnew : w.services = [])
    (hs : r.world.services[id]? = some s) :
    ∃ initial state, s.machine.initialState = .ok initial ∧
      (chronicle initial (happenings id past)).getLast? = some state ∧
      (s.state = state ∨ s.state = state.settled) := by
  refine hpast.states hnew (P := fun hs s ↦ ∃ initial state, s.machine.initialState = .ok initial ∧
    (chronicle initial hs).getLast? = some state ∧ (s.state = state ∨ s.state = state.settled)) ?_ hs
  intro hs before o s' hstored hempty hbefore
  cases hstored with
  | created hinitial =>
    rw [hempty rfl]
    exact ⟨_, _, hinitial, rfl, .inl rfl⟩
  | hosted hinitial hstate =>
    rw [hempty rfl]
    exact ⟨_, _, hinitial, rfl, .inr hstate⟩
  | started hmachine hstate =>
    obtain ⟨initial, state, hinitial, hlast, hsame⟩ := hbefore _ rfl
    refine ⟨initial, state, hmachine ▸ hinitial, by simpa [chronicle, committedStates] using hlast, .inr ?_⟩
    rcases hsame with hsame | hsame
    · rw [hstate, hsame]
    · rw [hstate, hsame]
      -- what is settled once is settled
      rfl
  | committed hmachine hnext hstate =>
    obtain ⟨initial, state, hinitial, -, -⟩ := hbefore _ rfl
    refine ⟨initial, _, hmachine ▸ hinitial, ?_, .inr hstate⟩
    rw [chronicle_append]
    exact List.getLast?_concat
  | kept hmachine hstate ho =>
    obtain ⟨initial, state, hinitial, hlast, hsame⟩ := hbefore _ rfl
    have hnone : committedStates o.toList = [] := by
      cases o with
      | none => rfl
      | some h => cases h <;> first | rfl | cases ho _ rfl
    refine ⟨initial, state, hmachine ▸ hinitial, ?_, hstate ▸ hsame⟩
    rw [chronicle_append, hnone, List.append_nil]
    exact hlast

/-- Where a listener is called, a run of the past begins the call. -/
theorem told_split {l : Listener} {c : Count} {earlier later : List (Nat × Snapshot)} {call : Nat × Snapshot}
    (h : told l c (happenings id past) = earlier ++ call :: later) :
    ∃ before q after happened, past = before ++ q :: after ∧ told l c (happenings id before) = earlier ∧
      q.happening id = some happened ∧ happened.told? l (countFrom c (happenings id before)) = some call := by
  induction past generalizing c earlier with
  | nil => simp [told] at h
  | cons q past ih =>
    cases hq : q.happening id with
    | none =>
      have hskip (past : List (Run σ)) : happenings id (q :: past) = happenings id past :=
        List.filterMap_cons_none hq
      rw [hskip] at h
      obtain ⟨before, p, after, happened, rfl, hearlier, hp, hcall⟩ := ih h
      exact ⟨q :: before, p, after, happened, rfl, by rw [hskip, hearlier], hp, by rw [hskip, hcall]⟩
    | some first =>
      have hcons (past : List (Run σ)) : happenings id (q :: past) = first :: happenings id past :=
        List.filterMap_cons_some hq
      rw [hcons, told] at h
      -- the first call is that of this run, or all calls are later
      have hlater {earlier' : List (Nat × Snapshot)}
          (h : told l (first.count c) (happenings id past) = earlier' ++ call :: later)
          (hearlier : earlier = (first.told? l c).toList ++ earlier') :
          ∃ before p after happened, q :: past = before ++ p :: after ∧ told l c (happenings id before) = earlier ∧
            p.happening id = some happened ∧
            happened.told? l (countFrom c (happenings id before)) = some call := by
        obtain ⟨before, p, after, happened, rfl, htold, hp, hcall⟩ := ih h
        refine ⟨q :: before, p, after, happened, rfl, ?_, hp, ?_⟩
        · rw [hcons, told, htold, hearlier]
        · rw [hcons]
          exact hcall
      cases hfirst : first.told? l c with
      | none =>
        rw [hfirst] at h
        exact hlater h (by rw [hfirst]; rfl)
      | some own =>
        rw [hfirst] at h
        cases earlier with
        | nil =>
          obtain rfl : own = call := (List.cons.inj h).1
          exact ⟨[], q, past, first, rfl, rfl, hq, hfirst⟩
        | cons own' earlier' =>
          obtain ⟨rfl, hrest⟩ := List.cons.inj h
          exact hlater hrest (by rw [hfirst]; rfl)

/-- A run of the past has a history of its own, and leads on to the latest. -/
theorem History.cut {first q : Run σ} {before after : List (Run σ)} (h : History first (before ++ q :: after) r) :
    History first before q ∧ History q (q :: after) r := by
  -- the last run of the past is the one that is cut at, or it comes later
  have hcut {past after : List (Run σ)} {r r' : Run σ} (hpast : before ++ q :: after = past ++ [r])
      (h : History first past r)
      (hnext : ∀ {x : Run σ} {later}, History x later r → History x (later ++ [r]) r')
      (ih : ∀ {after}, before ++ q :: after = past → History first before q ∧ History q (q :: after) r) :
      History first before q ∧ History q (q :: after) r' := by
    rcases List.eq_nil_or_concat after with rfl | ⟨after, x, rfl⟩
    · obtain ⟨rfl, hlast⟩ := List.append_inj' hpast rfl
      cases hlast
      exact ⟨h, hnext .begin⟩
    · have hconcat : (before ++ q :: after) ++ [x] = past ++ [r] := by simpa using hpast
      obtain ⟨hbefore, hlast⟩ := List.append_inj' hconcat rfl
      cases hlast
      obtain ⟨hfirst, hlater⟩ := ih hbefore
      exact ⟨hfirst, by simpa using hnext hlater⟩
  generalize hpast : before ++ q :: after = past at h
  induction h generalizing after with
  | begin => simp at hpast
  | step h ih => exact hcut hpast h .step ih
  | call h hidle script ih => exact hcut hpast h (fun h ↦ .call h hidle script) ih

/-- A listener that is called is told of the state that is held, under its number. -/
theorem History.tells (hpast : History (.idle w) past r) (hnew : w.services = []) {h : Happening σ}
    (hr : r.happening id = some h) {l : Listener} {call : Nat × Snapshot}
    (hcall : h.told? l (countFrom {} (happenings id past)) = some call) :
    call.1 = (countFrom {} (happenings id past)).held ∧ r.Tells id l call.2 := by
  have hturn := r.step_turn id
  rw [hr] at hturn
  refine ⟨hturn.number_eq (hpast.view_course hnew id) hcall, ?_⟩
  cases h with
  | replayed l' snapshot | notified l' snapshot =>
    simp only [Happening.told?, Option.ite_none_right_eq_some] at hcall
    obtain ⟨rfl, hcall⟩ := hcall
    cases hcall
    first | exact .inl hr | exact .inr hr
  | _ => cases hcall

/-- What a listener is told of stands in the chronicle. -/
theorem History.passed (hpast : History (.idle w) past r) (hnew : w.services = [])
    (hs : r.world.services[id]? = some s) {initial : State σ} (hinitial : s.machine.initialState = .ok initial)
    {l : Listener} {call : Nat × Snapshot} (hcall : call ∈ told l {} (happenings id past)) :
    ∃ state, (chronicle initial (happenings id past))[call.1]? = some state ∧
      (call.2 = state.snapshot ∨ call.2 = state.settled.snapshot) := by
  obtain ⟨earlier, later, hsplit⟩ := List.append_of_mem hcall
  obtain ⟨before, q, after, h, rfl, -, hq, hcall⟩ := told_split hsplit
  obtain ⟨hbefore, hafter⟩ := hpast.cut
  obtain ⟨hnumber, htells⟩ := hbefore.tells hnew hq hcall
  obtain ⟨current, hcurrent, hsnapshot⟩ := hbefore.told_current hnew htells
  obtain ⟨first, state, hfirst, hlast, hsame⟩ := hbefore.held hnew hcurrent
  -- the service has had its machine all along
  obtain ⟨s', hs', hmachine⟩ := hafter.machine hcurrent
  obtain rfl : s = s' := Option.some.inj (hs.symm.trans hs')
  rw [← hmachine, hinitial, Except.ok.injEq] at hfirst
  subst hfirst
  have hpassed : call.2 = state.snapshot ∨ call.2 = state.settled.snapshot := by
    rw [hsnapshot]
    exact hsame.imp (congrArg State.snapshot) (congrArg State.snapshot)
  have hindex : (chronicle initial (happenings id before))[call.1]? = some state := by
    rw [hnumber, held_countFrom, ← hlast, List.getLast?_eq_getElem?, chronicle, List.length_cons]
    simp
  refine ⟨state, ?_, hpassed⟩
  rw [happenings_append, chronicle_append,
    List.getElem?_append_left (List.getElem?_eq_some_iff.mp hindex).1, hindex]

/-- While a listener stays subscribed, no state is missing between two calls of it. -/
theorem History.gapless {p : Run σ} {before during after : List (Run σ)}
    (hpast : History (.idle w) (before ++ p :: (during ++ after)) r) (hnew : w.services = [])
    (hcalm : ∀ x ∈ before ++ p :: (during ++ after) ++ [r], x.Calm) {l : Listener}
    (hsubscribed : ∀ x ∈ during, x.Subscribed id l) {earlier later : List (Nat × Snapshot)}
    {call call' : Nat × Snapshot}
    (hcalls : told l (countFrom {} (happenings id before)) (happenings id (p :: during)) =
      earlier ++ call :: call' :: later) : call'.1 ≤ call.1 + 1 := by
  have hsplit : earlier ++ call :: call' :: later = (earlier ++ [call]) ++ call' :: later := by simp
  obtain ⟨stretch, q, rest, h, hstretch, hearlier, hq, hcall⟩ := told_split (hcalls.trans hsplit)
  cases stretch with
  | nil => simp [told] at hearlier
  | cons x stretch =>
    obtain ⟨rfl, rfl⟩ : p = x ∧ during = stretch ++ q :: rest := List.cons.inj hstretch
    have hpast' : before ++ p :: ((stretch ++ q :: rest) ++ after) =
        (before ++ p :: stretch) ++ q :: (rest ++ after) := by simp
    rw [hpast'] at hpast hcalm
    have hbefore := hpast.cut.1
    have hcalm' : ∀ x ∈ (before ++ p :: stretch) ++ [q], x.Calm := fun x hx ↦ by
      refine hcalm x (List.mem_append_left _ ?_)
      rw [List.append_cons]
      exact List.mem_append_left _ hx
    -- the listener is subscribed when the second call begins, and was told last by the first
    obtain ⟨s', hs', hl⟩ := hsubscribed q (by simp)
    obtain ⟨last, hlast, hnumber⟩ := hbefore.informed hnew hcalm' id s' hs' l hl
    rw [happenings_append, told_append, hearlier, ← List.append_assoc, List.getLast?_concat, Option.some.injEq] at hlast
    subst hlast
    rw [← countFrom_append, ← happenings_append] at hcall
    have hheld := (hbefore.tells hnew hq hcall).1
    omega

end

/-! ### One history -/

/-- What the listeners of a service are called with is part of one history. -/
structure OneHistory (id : Nat) (past : List (Run σ)) (r : Run σ) (initial : State σ) : Prop where
  /-- The number of a call is that of the state that is passed. -/
  passed : ∀ l, ∀ call ∈ told l {} (happenings id past), ∃ state,
    (chronicle initial (happenings id past))[call.1]? = some state ∧
      (call.2 = state.snapshot ∨ call.2 = state.settled.snapshot)
  /-- No listener goes back. -/
  sorted : ∀ l, (told l {} (happenings id past)).Pairwise fun call call' ↦ call.1 ≤ call'.1
  /-- While it stays subscribed, no listener misses a state between two of its calls. -/
  gapless : ∀ l before p during after, past = before ++ p :: (during ++ after) →
    (∀ x ∈ during, x.Subscribed id l) → ∀ earlier call call' later,
      told l (countFrom {} (happenings id before)) (happenings id (p :: during)) =
        earlier ++ call :: call' :: later → call'.1 ≤ call.1 + 1
  /-- Only subscribed listeners are notified, and a subscription begins with a replay of the state then held. -/
  begins : ∀ before q after, past = before ++ q :: after → ∀ l snapshot,
    q.happening id = some (.notified l snapshot) → q.Subscribed id l ∧ SubscribedSince id l before
  /-- With nothing under way, every subscribed listener was last called with the latest state. -/
  latest : r.Idle id → ∀ l, r.Subscribed id l → ∃ call, (told l {} (happenings id past)).getLast? = some call ∧
    call.1 = (committedStates (happenings id past)).length
  /-- Two listeners see the states that they share in the same order. -/
  agreed : ∀ l l' i j, i ≠ j → [i, j].Sublist ((told l {} (happenings id past)).map (·.1)) →
    ¬ [j, i].Sublist ((told l' {} (happenings id past)).map (·.1))

/-- Listeners observe one history. Assumes: a history of a world that began without services, with any callbacks, which
may send, subscribe, unsubscribe and stop at any time, in which nothing fails. Every call of a listener passes the
state of one number, the first state having the number 0 and what the n-th event committed the number n. The numbers
of a listener never decrease; while it stays subscribed they grow by one at most; its subscription begins with a
replay of the state then held, and with nothing under way it was last called with the latest state. So two listeners
see the states that they share in the same order. -/
theorem listeners_see_one_history {w : World σ} (hnew : w.services = []) {past : List (Run σ)} {r : Run σ}
    (hpast : History (.idle w) past r) (hcalm : ∀ x ∈ past ++ [r], x.Calm) {id : Nat} {s : Service σ}
    (hs : r.world.services[id]? = some s) :
    ∃ initial, s.machine.initialState = .ok initial ∧ OneHistory id past r initial := by
  obtain ⟨initial, -, hinitial, -⟩ := hpast.held hnew hs
  refine ⟨initial, hinitial, fun l call ↦ hpast.passed hnew hs hinitial, hpast.told_sorted hnew id, ?_, ?_, ?_, ?_⟩
  · rintro l before p during after rfl hsubscribed earlier call call' later hcalls
    exact hpast.gapless hnew hcalm hsubscribed hcalls
  · rintro before q after rfl l snapshot hnotified
    have hq := hpast.cut.1
    have hsubscribed := hq.subscribed_of_notified hnew hnotified
    exact ⟨hsubscribed, hq.since hnew hsubscribed⟩
  · rintro hidle l ⟨s', hs', hl⟩
    obtain ⟨call, hlast, hnumber⟩ := hpast.informed hnew hcalm id s' hs' l hl
    have hnot : ¬ Owed l s' (r.view id).frames := by
      change ¬ Owed l s' (handling id r.stack)
      rw [hidle]
      exact fun howed ↦ howed.elim
    refine ⟨call, hlast, ?_⟩
    rw [hnumber.resolve_right fun h ↦ hnot h.2, held_countFrom, Nat.zero_add]
  · intro l l' i j hne hl hl'
    have hsorted (l : Listener) : ((told l {} (happenings id past)).map (·.1)).Pairwise (· ≤ ·) :=
      List.pairwise_map.mpr (hpast.told_sorted hnew id l)
    have hle : i ≤ j := by simpa using (hsorted l).sublist hl
    have hge : j ≤ i := by simpa using (hsorted l').sublist hl'
    omega

/-- A lamp that is started, watched and pressed. -/
def seen : Run Unit :=
  .script (World.ofLamp shines) [] (.call (.create "lamp") fun _ ↦ .call (.start "lamp") fun _ ↦
    .call (.subscribe "lamp" "eye" "eye") fun _ ↦ .request (.send "lamp" (.text "press")))

/-- Who watches the lamp sees the first state, then the next. -/
theorem listeners_see_one_history_of_lamp :
    told (.named "eye") {} (happenings 0 (.idle (World.ofLamp shines) :: seen.trail 25)) =
        [(0, ⟨.text "off", .null, [], false⟩), (1, ⟨.text "on", .null, [], true⟩)] ∧
      ∃ initial, (lamp shines).initialState = .ok initial ∧
        OneHistory 0 (.idle (World.ofLamp shines) :: seen.trail 25) (seen.after 25) initial := by
  have hpast : History (.idle (World.ofLamp shines)) (.idle (World.ofLamp shines) :: seen.trail 25) (seen.after 25) :=
    .trans (.call .begin rfl _) (.steps seen 25)
  have hs : (seen.after 25).world.services[0]? = some _ := rfl
  exact ⟨rfl, listeners_see_one_history rfl hpast (by decide) hs⟩

end Statechart
