import Statechart.Proofs.Lifecycle
import Statechart.Proofs.Subscription

/-!
# Listeners of a service that was stopped

A stop drops every listener, but what is under way goes on: effects that are left are performed, and the round of
notifications behind them begins. Listeners that have subscribed in between are called in it. So a service that was
stopped still has one round at most, and only if the round was due at the stop (`AwaitsRound`); whoever is called in
it has subscribed since the stop, before the round began, and is called once (`Hushed`). All other calls are replays
to new subscribers. `hushed_after_stop` puts this together.
-/

set_option autoImplicit false
set_option relaxedAutoImplicit false

namespace Statechart

variable {σ : Type}

/-! ### Rounds to come -/

/-- What is under way ends in a round that has not begun yet. -/
def AwaitsRound : List (Frame σ) → Prop
  | .moving _ _ _ :: _ | .announce _ _ :: _ | .effects _ _ _ _ :: .announce _ _ :: _ => True
  | _ => False

section

variable {id : Nat} {hs : List (Happening σ)} {o : Option (Service σ)} {frame : Frame σ} {k : List (Frame σ)}
  {e : Exposure}

theorem awaitsRound_effects {i : Nat} {context : Value} {event : Event} {rest rest' : List (Effect σ)}
    (h : AwaitsRound (.effects i context event rest :: k)) : AwaitsRound (.effects i context event rest' :: k) := by
  cases k with
  | nil => exact h
  | cons below k => cases below <;> exact h

/-- When a frame comes to its end, no other round is to come than before. -/
theorem View.awaitsRound_below (h : View.Course id hs ⟨o, frame :: k, e⟩) (hround : AwaitsRound (handling id k)) :
    AwaitsRound (frame :: k) := by
  by_cases hnothing : frame = .drain id ∨ frame = .opening id
  · rw [View.nothing_below h hnothing] at hround
    exact hround.elim
  · rw [not_or] at hnothing
    by_cases heffects : ∃ context event pending, frame = .effects id context event pending
    · obtain ⟨context, event, pending, rfl⟩ := heffects
      rcases View.below_effects h with ⟨below, initial, done, rfl, -⟩ | ⟨below, rfl⟩
      · simp [AwaitsRound] at hround
      · trivial
    · simp only [not_exists] at heffects
      obtain ⟨below, rfl⟩ := View.drain_below h hnothing.1 hnothing.2 heffects
      simp [AwaitsRound] at hround

/-- A round becomes due only where an event is taken. -/
theorem Turn.awaitsRound {v v' : View σ} {o : Option (Happening σ)} (hturn : Turn id v o v') (hcourse : v.Course id hs)
    (hround : AwaitsRound v'.frames) : AwaitsRound v.frames ∨ ∃ source event, o = some (.taken source event) := by
  cases hturn with
  | taken => exact .inr ⟨_, _, rfl⟩
  | quiet | created | stopped | queued | subscribed | unsubscribed => exact .inl hround
  | hosted | started | sent | opened | announced | notified | passedOver => exact hround.elim
  | performed => exact .inl (awaitsRound_effects hround)
  | committed => exact .inl trivial
  | _ => exact .inl (View.awaitsRound_below hcourse hround)

end

/-! ### The happenings after a stop -/

def Happening.isAnnouncement : Happening σ → Bool
  | .announced _ => true
  | _ => false

/-- Neither a round begins nor a listener is called in one, and no event is taken. -/
def Happening.isAside : Happening σ → Bool
  | .announced _ | .notified _ _ | .taken _ _ => false
  | _ => true

/-- The listener that is called in a round. -/
def Happening.noticed? : Happening σ → Option Listener
  | .notified l _ => some l
  | _ => none

/-- The beginnings of rounds. -/
def announcements (hs : List (Happening σ)) : List (Happening σ) := hs.filter Happening.isAnnouncement

/-- The listeners called in rounds, in order. -/
def noticed (hs : List (Happening σ)) : List Listener := hs.filterMap Happening.noticed?

/-- A listener has subscribed, and a round has begun afterwards. -/
def Invited (hs : List (Happening σ)) (l : Listener) : Prop :=
  ∃ snapshot event, List.Sublist [.replayed l snapshot, .announced event] hs

/-- What happens to a service after it was stopped: no round that was not due, one round at most, and in it calls of
listeners that have subscribed before it began, each of them once. -/
structure Hushed (due : Prop) (hs : List (Happening σ)) : Prop where
  undue : ¬ due → announcements hs = []
  single : (announcements hs).length ≤ 1
  silent : announcements hs = [] → noticed hs = []
  once : (noticed hs).Nodup
  invited : ∀ before l snapshot, before ++ [.notified l snapshot] <+: hs → Invited before l

section

variable {due : Prop} {hs : List (Happening σ)} {l : Listener} {snapshot : Snapshot} {event : Event}

@[simp] theorem announcements_append (hs hs' : List (Happening σ)) :
    announcements (hs ++ hs') = announcements hs ++ announcements hs' :=
  List.filter_append ..

@[simp] theorem noticed_append (hs hs' : List (Happening σ)) : noticed (hs ++ hs') = noticed hs ++ noticed hs' :=
  List.filterMap_append

theorem announcements_aside (hs : List (Happening σ)) {o : Option (Happening σ)} (ho : ∀ h ∈ o, h.isAside = true) :
    announcements (hs ++ o.toList) = announcements hs := by
  cases o with
  | none => simp
  | some x =>
    have hx : x.isAnnouncement = false := by cases x <;> first | rfl | cases ho _ rfl
    simp [announcements, hx]

theorem noticed_aside (hs : List (Happening σ)) {o : Option (Happening σ)} (ho : ∀ h ∈ o, h.isAside = true) :
    noticed (hs ++ o.toList) = noticed hs := by
  cases o with
  | none => simp
  | some x =>
    have hx : x.noticed? = none := by cases x <;> first | rfl | cases ho _ rfl
    simp [noticed, hx]

theorem Invited.mono {hs' : List (Happening σ)} (h : Invited hs l) (hsub : hs.Sublist hs') : Invited hs' l := by
  obtain ⟨snapshot, event, h⟩ := h
  exact ⟨snapshot, event, h.trans hsub⟩

/-- Whoever has subscribed is invited to a round that begins. -/
theorem Invited.of_replayed (h : .replayed l snapshot ∈ hs) : Invited (hs ++ [.announced event]) l :=
  ⟨snapshot, event, (List.singleton_sublist.mpr h).append (List.Sublist.refl [Happening.announced event])⟩

theorem Invited.announcements_ne_nil (h : Invited hs l) : announcements hs ≠ [] := by
  obtain ⟨snapshot, event, h⟩ := h
  have hmem : .announced event ∈ announcements hs := List.mem_filter.mpr ⟨h.subset (by simp), rfl⟩
  exact List.ne_nil_of_mem hmem

namespace Hushed

theorem nil : Hushed due ([] : List (Happening σ)) where
  undue _ := rfl
  single := Nat.zero_le 1
  silent _ := rfl
  once := .nil
  invited before l snapshot h := by simp at h

/-- What happens next calls only listeners that are invited. -/
theorem invited_concat (h : Hushed due hs) {x : Happening σ}
    (hx : ∀ l snapshot, x = .notified l snapshot → Invited hs l) :
    ∀ before l snapshot, before ++ [.notified l snapshot] <+: hs ++ [x] → Invited before l := by
  intro before l snapshot hprefix
  rcases List.prefix_concat_iff.mp hprefix with heq | hbefore
  · obtain ⟨rfl, hlast⟩ := List.append_inj' heq rfl
    exact hx l snapshot (List.singleton_inj.mp hlast).symm
  · exact h.invited before l snapshot hbefore

/-- What is neither the beginning of a round nor a call in it. -/
theorem aside (h : Hushed due hs) {o : Option (Happening σ)} (ho : ∀ h ∈ o, h.isAside = true) :
    Hushed due (hs ++ o.toList) := by
  cases o with
  | none => simpa using h
  | some x =>
    have hannouncements := announcements_aside hs ho
    have hnoticed := noticed_aside hs ho
    refine ⟨hannouncements ▸ h.undue, hannouncements ▸ h.single, hannouncements ▸ hnoticed ▸ h.silent,
      hnoticed ▸ h.once, h.invited_concat ?_⟩
    rintro l snapshot rfl
    cases ho _ rfl

/-- The round that was due begins. -/
theorem announce (h : Hushed due hs) (hdue : due) (hnone : announcements hs = []) (event : Event) :
    Hushed due (hs ++ [.announced event]) := by
  have hannounced : announcements (hs ++ [.announced event]) = [.announced event] := by
    rw [announcements_append, hnone]
    rfl
  have hsame : noticed (hs ++ [.announced event]) = noticed hs := by simp [noticed, Happening.noticed?]
  exact ⟨fun hundue ↦ absurd hdue hundue, by simp [hannounced], by simp [hannounced], hsame ▸ h.once,
    h.invited_concat nofun⟩

/-- A listener is called in the round. -/
theorem notify (h : Hushed due hs) (hnew : l ∉ noticed hs) (hinvited : Invited hs l) (snapshot : Snapshot) :
    Hushed due (hs ++ [.notified l snapshot]) := by
  have hsame : announcements (hs ++ [.notified l snapshot]) = announcements hs := by
    simp [announcements, Happening.isAnnouncement]
  have hnoticed : noticed (hs ++ [.notified l snapshot]) = noticed hs ++ [l] := by simp [noticed, Happening.noticed?]
  refine ⟨hsame ▸ h.undue, hsame ▸ h.single, fun hnone ↦ absurd (hsame ▸ hnone) hinvited.announcements_ne_nil, ?_,
    h.invited_concat ?_⟩
  · rw [hnoticed]
    refine List.nodup_append.mpr ⟨h.once, by simp, fun l' hl' l'' hl'' heq ↦ ?_⟩
    rw [heq, List.mem_singleton.mp hl''] at hl'
    exact hnew hl'
  · rintro l' snapshot' ⟨⟩
    exact hinvited

end Hushed

end

/-! ### Registrations after a stop -/

namespace Registry

variable {r r' : Registry} {l : Listener} {rest : List (Nat × Listener)}

/-- The listeners of a round that are registered still. -/
def waiting (r : Registry) (rest : List (Nat × Listener)) : List Listener :=
  (rest.filter fun e ↦ r.hasTicket e.1).map Prod.snd

/-- Listeners that wait are listed. -/
theorem mem_waiting : l ∈ r.waiting rest ↔ ∃ e ∈ rest, r.hasTicket e.1 = true ∧ e.2 = l := by
  simp [waiting, and_assoc]

theorem waiting_clear (r : Registry) (rest : List (Nat × Listener)) : r.clear.waiting rest = [] :=
  List.map_eq_nil_iff.mpr (List.filter_eq_nil_iff.mpr fun _ _ ↦ Bool.false_ne_true)

/-- When registrations end, fewer listeners wait. -/
theorem waiting_of_subset (h : r'.entries ⊆ r.entries) : (r'.waiting rest).Sublist (r.waiting rest) := by
  have hticket : ∀ e ∈ rest, r'.hasTicket e.1 = (r'.hasTicket e.1 && r.hasTicket e.1) := by
    intro e _
    cases hfound : r'.hasTicket e.1 with
    | false => rfl
    | true =>
      obtain ⟨e', he', hsame⟩ := hasTicket_iff.mp hfound
      exact (hasTicket_iff.mpr ⟨e', h he', hsame⟩).symm
  unfold waiting
  rw [List.filter_congr hticket, ← List.filter_filter]
  exact List.filter_sublist.map _

theorem waiting_tail (r : Registry) (e : Nat × Listener) : (r.waiting rest).Sublist (r.waiting (e :: rest)) :=
  ((List.sublist_cons_self e rest).filter _).map _

/-- A new registration makes nobody of an old round wait. -/
theorem waiting_add (h : ∀ e ∈ rest, r.Remembers e) (l : Listener) : (r.add l).1.waiting rest = r.waiting rest := by
  rcases r.add_cases l with ⟨-, hadd⟩ | ⟨-, hadd⟩
  · rw [hadd]
  · unfold waiting
    rw [List.filter_congr fun e he ↦ ?_]
    have hnew : (r.next == e.1) = false := beq_false_of_ne (Nat.ne_of_gt (h e he).given)
    simp [hadd, hasTicket, hnew]

/-- The registrations are of different listeners, each of which has subscribed. -/
structure Listed (hs : List (Happening σ)) (r : Registry) : Prop where
  distinct : (r.entries.map Prod.snd).Nodup
  replayed : ∀ e ∈ r.entries, ∃ snapshot, .replayed e.2 snapshot ∈ hs

namespace Listed

variable {hs : List (Happening σ)}

theorem clear (hs : List (Happening σ)) (r : Registry) : Listed hs r.clear := ⟨.nil, by simp [Registry.clear]⟩

theorem concat (h : Listed hs r) (o : Option (Happening σ)) : Listed (hs ++ o.toList) r where
  distinct := h.distinct
  replayed e he := by
    obtain ⟨snapshot, hmem⟩ := h.replayed e he
    exact ⟨snapshot, List.mem_append_left _ hmem⟩

theorem remove (h : Listed hs r) (ticket : Nat) : Listed hs (r.remove ticket).1 where
  distinct := h.distinct.sublist (List.filter_sublist.map _)
  replayed e he := h.replayed e (r.remove_subset ticket he)

theorem add (h : Listed hs r) (l : Listener) (snapshot : Snapshot) :
    Listed (hs ++ [.replayed l snapshot]) (r.add l).1 where
  distinct := by
    rcases r.add_cases l with ⟨-, hadd⟩ | ⟨hnew, hadd⟩
    · rw [hadd]
      exact h.distinct
    · rw [hadd, List.map_append]
      refine List.nodup_append.mpr ⟨h.distinct, by simp, fun l' hl' l'' hl'' heq ↦ ?_⟩
      obtain ⟨e, he, rfl⟩ := List.mem_map.mp hl'
      rw [contains_iff.mpr ⟨e, he, heq.trans (List.mem_singleton.mp hl'')⟩] at hnew
      cases hnew
  replayed e he := by
    rcases mem_of_mem_add he with he | ⟨rfl, -⟩
    · exact (h.concat (some _)).replayed e he
    · exact ⟨snapshot, by simp⟩

/-- A round that begins is for the listeners that are registered. -/
theorem waiting_entries (h : Listed hs r) : (r.waiting r.entries).Nodup :=
  h.distinct.sublist (List.filter_sublist.map _)

end Listed

end Registry

/-! ### A stopped service -/

/-- A service that was stopped, what has happened to it since, and whether a round was due at the stop. -/
structure Still (due : Prop) (id : Nat) (hs : List (Happening σ)) (v : View σ) : Prop where
  service : ∃ s, v.service = some s ∧ s.status = .stopped ∧ s.listeners.Listed hs
  hushed : Hushed due hs
  awaits : AwaitsRound v.frames → due ∧ announcements hs = []
  round : ∀ s what rest k, v.service = some s → v.frames = .round (some id) what rest :: k →
    (noticed hs ++ s.listeners.waiting rest).Nodup ∧ ∀ l ∈ s.listeners.waiting rest, Invited hs l

namespace Still

variable {due : Prop} {id : Nat} {hs hs' : List (Happening σ)} {v v' : View σ} {o : Option (Happening σ)}

/-- A turn that neither begins a round nor calls a listener in one. -/
theorem next (h : Still due id hs v) (hcourse : v.Course id hs') (hturn : Turn id v o v')
    (hservice : ∃ s, v'.service = some s ∧ s.status = .stopped ∧ s.listeners.Listed (hs ++ o.toList))
    (ho : ∀ h ∈ o, h.isAside = true)
    (hround : ∀ s' what rest k, v'.service = some s' → v'.frames = .round (some id) what rest :: k →
      ∃ s rest', v.service = some s ∧ v.frames = .round (some id) what rest' :: k ∧
        (s'.listeners.waiting rest).Sublist (s.listeners.waiting rest')) :
    Still due id (hs ++ o.toList) v' where
  service := hservice
  hushed := h.hushed.aside ho
  awaits := by
    intro hawaits
    rw [announcements_aside hs ho]
    rcases hturn.awaitsRound hcourse hawaits with hbefore | ⟨source, event, rfl⟩
    · exact h.awaits hbefore
    · cases ho _ rfl
  round := by
    intro s' what rest k hs' hframes
    obtain ⟨s, rest', hs, hframes, hsub⟩ := hround s' what rest k hs' hframes
    obtain ⟨hnodup, hinvited⟩ := h.round s what rest' k hs hframes
    rw [noticed_aside _ ho]
    refine ⟨hnodup.sublist (hsub.append_left _), fun l hl ↦ ?_⟩
    exact (hinvited l (hsub.subset hl)).mono (List.sublist_append_left ..)

/-- The round that was due begins, for listeners that have subscribed since. -/
theorem announced {s : Service σ} {event : Event} {k : List (Frame σ)}
    (h : Still due id hs ⟨some s, .announce id event :: k, .resuming⟩) :
    Still due id (hs ++ [.announced event])
      ⟨some s, .round (some id) (.state s.state.snapshot) s.listeners.entries :: k, .resuming⟩ := by
  obtain ⟨s', hservice, hstopped, hlisted⟩ := h.service
  cases hservice
  obtain ⟨hdue, hfirst⟩ := h.awaits trivial
  have hhushed := h.hushed.announce hdue hfirst event
  refine ⟨⟨_, rfl, hstopped, hlisted.concat (some _)⟩, hhushed, False.elim, ?_⟩
  rintro s' what rest k' ⟨⟩ ⟨⟩
  have hsilent : noticed (hs ++ [.announced event]) = [] := by
    rw [noticed_append, h.hushed.silent hfirst]
    rfl
  refine ⟨by simpa [hsilent] using hlisted.waiting_entries, fun l hl ↦ ?_⟩
  obtain ⟨e, he, -, rfl⟩ := Registry.mem_waiting.mp hl
  obtain ⟨snapshot, hmem⟩ := hlisted.replayed e he
  exact .of_replayed hmem

/-- A round calls a listener that it has not called before. -/
theorem notified {s : Service σ} {snapshot : Snapshot} {ticket : Nat} {l : Listener} {rest : List (Nat × Listener)}
    {k : List (Frame σ)} {e : Exposure}
    (h : Still due id hs ⟨some s, .round (some id) (.state snapshot) ((ticket, l) :: rest) :: k, .resuming⟩)
    (hticket : s.listeners.hasTicket ticket = true) :
    Still due id (hs ++ [.notified l snapshot]) ⟨some s, .round (some id) (.state snapshot) rest :: k, e⟩ := by
  obtain ⟨s', hservice, hstopped, hlisted⟩ := h.service
  cases hservice
  obtain ⟨hnodup, hinvited⟩ := h.round _ _ _ _ rfl rfl
  have hfirst : s.listeners.waiting ((ticket, l) :: rest) = l :: s.listeners.waiting rest := by
    simp [Registry.waiting, hticket]
  rw [hfirst] at hnodup hinvited
  have hnew : l ∉ noticed hs := fun hmem ↦
    (List.nodup_append.mp hnodup).2.2 l hmem l List.mem_cons_self rfl
  have hhushed := h.hushed.notify hnew (hinvited l List.mem_cons_self) snapshot
  refine ⟨⟨_, rfl, hstopped, hlisted.concat (some _)⟩, hhushed, False.elim, ?_⟩
  rintro s' what rest' k' ⟨⟩ ⟨⟩
  refine ⟨?_, fun l' hl' ↦ (hinvited l' (List.mem_cons_of_mem _ hl')).mono (List.sublist_append_left ..)⟩
  simpa [noticed, Happening.noticed?] using hnodup

/-- Every turn of a stopped service leaves it still. -/
theorem turn (h : Still due id hs v) (hcourse : v.Course id hs') (hrecorded : v.Recorded id) (hturn : Turn id v o v') :
    Still due id (hs ++ o.toList) v' := by
  obtain ⟨s, hservice, hstopped, hlisted⟩ := h.service
  have hlisted' := hlisted.concat o
  have hnone : ∀ happened ∈ (none : Option (Happening σ)), happened.isAside = true := by simp
  have hmove := hturn
  cases hturn with
  | created | hosted | orphaned => cases hservice
  | started hr | queued hr | sent hr | taken hr =>
    cases hservice
    cases hr.symm.trans hstopped
  | quiet =>
    exact h.next hcourse hmove ⟨s, hservice, hstopped, hlisted'⟩ hnone
      fun s' _ rest _ hs' hframes ↦ ⟨s', rest, hs', hframes, List.Sublist.refl _⟩
  | stopped =>
    cases hservice
    refine h.next hcourse hmove ⟨_, rfl, rfl, .clear _ _⟩ (by simp [Happening.isAside]) ?_
    rintro s' what rest k ⟨⟩ hframes
    exact ⟨_, rest, rfl, hframes, Registry.waiting_of_subset (List.nil_subset _)⟩
  | subscribed =>
    cases hservice
    refine h.next hcourse hmove ⟨_, rfl, hstopped, hlisted.add _ _⟩ (by simp [Happening.isAside]) ?_
    rintro s' what rest k ⟨⟩ hframes
    have hwaiting := Registry.waiting_add ((hrecorded _ rfl).2 what rest k hframes)
    exact ⟨_, rest, rfl, hframes, hwaiting _ ▸ List.Sublist.refl _⟩
  | unsubscribed =>
    cases hservice
    refine h.next hcourse hmove ⟨_, rfl, hstopped, hlisted'.remove _⟩ hnone ?_
    rintro s' what rest k ⟨⟩ hframes
    exact ⟨_, rest, rfl, hframes, Registry.waiting_of_subset (Registry.remove_subset _ _)⟩
  | announced => exact announced h
  | notified hticket => exact notified h hticket
  | passedOver =>
    refine h.next hcourse hmove ⟨s, hservice, hstopped, hlisted'⟩ hnone ?_
    rintro s' what rest k hs' ⟨⟩
    exact ⟨s', _, hs', rfl, Registry.waiting_tail _ _⟩
  | performed | opened =>
    exact h.next hcourse hmove ⟨s, hservice, hstopped, hlisted'⟩ (by simp [Happening.isAside]) (by nofun)
  | committed =>
    cases hservice
    exact h.next hcourse hmove ⟨_, rfl, hstopped, hlisted'⟩ (by simp [Happening.isAside]) (by nofun)
  | drained | openingAbandoned | drainAbandoned =>
    cases hservice
    exact h.next hcourse hmove ⟨_, rfl, hstopped, hlisted'⟩ (by simp [Happening.isAside])
      fun _ what rest k _ hk ↦ absurd hk (View.no_round_below hcourse what rest k)
  | allPerformed | refused | completed | effectFailed | listenerFailed | announceAbandoned | openingInterrupted =>
    exact h.next hcourse hmove ⟨s, hservice, hstopped, hlisted'⟩ (by simp [Happening.isAside])
      fun _ what rest k _ hk ↦ absurd hk (View.no_round_below hcourse what rest k)

end Still

/-- After a stop a service has no listeners, and no round but one that was due already. -/
theorem Still.of_stopped {id : Nat} {v v' : View σ} (hturn : Turn id v (some .stopped) v') :
    Still (AwaitsRound v.frames) id [.stopped] v' := by
  have hhushed : Hushed (AwaitsRound v.frames) ([] ++ (some (.stopped : Happening σ)).toList) :=
    .aside .nil (by simp [Happening.isAside])
  cases hturn with
  | stopped =>
    refine ⟨⟨_, rfl, rfl, .clear _ _⟩, hhushed, fun h ↦ ⟨h, rfl⟩, ?_⟩
    rintro s what rest k ⟨⟩ -
    rw [Registry.waiting_clear]
    exact ⟨.nil, by simp⟩

/-! ### Over a history -/

/-- The next step of a run subscribes a listener to a service. -/
def Run.Subscribes (id : Nat) (l : Listener) (r : Run σ) : Prop :=
  (∃ name listener subscription below, r.request? = some (.subscribe name listener subscription, below) ∧
      l = .named listener ∧ World.lookup? r.world.names name = some (.service id)) ∨
    ∃ host name below, r.stack = .hostStarted host name :: below ∧ l = .keeper host

section

variable {id : Nat} {l : Listener} {snapshot : Snapshot} {r : Run σ}

/-- A script that begins with a replay asks for a subscription. -/
theorem World.request_of_begun {w : World σ} {s : Script σ} (h : w.begun id s = some (.replayed l snapshot))
    (below : List (Frame σ)) : ∃ name listener subscription below', s.request? below =
      some (.subscribe name listener subscription, below') ∧ l = .named listener ∧
      lookup? w.names name = some (.service id) := by
  cases s with
  | done | fail => cases h
  | call q | attempt q =>
    obtain ⟨name, listener, subscription, -, rfl, hl, hname, -⟩ := World.subscribe_of_replayed h
    exact ⟨name, listener, subscription, _, rfl, hl, hname⟩

/-- A state is replayed where a listener subscribes. -/
theorem Run.subscribes_of_replayed (h : r.happening id = some (.replayed l snapshot)) : r.Subscribes id l := by
  cases happens_of_happening h with
  | awaiting hbegun | attempting hbegun | caught hbegun => exact .inl (World.request_of_begun hbegun _)
  | kept hhost hid hs => exact .inr ⟨_, _, _, rfl, rfl⟩

/-- What comes after the first step of a history. -/
theorem History.after_step {first last : Run σ} {later : List (Run σ)} (h : History first later last)
    (hbusy : first.stack ≠ []) :
    later = [] ∧ last = first ∨ ∃ more, later = first :: more ∧ History first.step more last := by
  induction h with
  | begin => exact .inl ⟨rfl, rfl⟩
  | step _ ih =>
    rcases ih with ⟨rfl, rfl⟩ | ⟨more, rfl, hmore⟩
    · exact .inr ⟨[], rfl, .begin⟩
    · exact .inr ⟨_, rfl, .step hmore⟩
  | call _ hidle s ih =>
    rcases ih with ⟨-, rfl⟩ | ⟨more, rfl, hmore⟩
    · exact absurd hidle hbusy
    · exact .inr ⟨_, rfl, .call hmore hidle s⟩

/-- What happens to a service after a stop. -/
theorem History.hushed {w : World σ} {past later : List (Run σ)} {last : Run σ} (hpast : History (.idle w) past r)
    (hnew : w.services = []) (hstop : r.happening id = some .stopped) (hlater : History r later last) :
    Hushed (AwaitsRound (handling id r.stack)) (happenings id later) := by
  have hbusy : r.stack ≠ [] := by
    intro hidle
    rw [Run.happening_of_empty id hidle] at hstop
    cases hstop
  rcases hlater.after_step hbusy with ⟨rfl, -⟩ | ⟨more, rfl, hmore⟩
  · exact .nil
  have hturn := r.step_turn id
  rw [hstop] at hturn
  have hcourse := (History.step hpast).view_course hnew id
  have hall := hmore.turns id
    (P := fun hs v ↦ v.Course id (happenings id (past ++ [r]) ++ hs) ∧ v.Recorded id ∧
      Still (AwaitsRound (handling id r.stack)) id (.stopped :: hs) v)
    ⟨by simpa using hcourse, (History.step hpast).recorded hnew id, .of_stopped hturn⟩
    fun {hs v o v'} h hturn ↦ ⟨by
      rw [← List.append_assoc]
      exact Course.turn h.1 hturn, h.2.1.turn h.1 hturn, h.2.2.turn h.1 h.2.1 hturn⟩
  have hfirst : happenings id (r :: more) = .stopped :: happenings id more := by
    simp [happenings, hstop]
  rw [hfirst]
  exact hall.2.2.hushed

end

/-- A service that was stopped tells its listeners nothing but what they see when they subscribe, and what it owed at
the stop. Assumes: a history of a world that began without services, with any callbacks, in which a service is stopped
at some step, and what comes later. Each call of a listener from then on is the replay at the beginning of a
subscription, or belongs to a round of notifications. No round begins unless one was due at the stop, as it is while
the effects of an event are performed, and then only one does; only listeners that have subscribed after the stop and
before the round began are called in it, and each of them once. -/
theorem hushed_after_stop {w : World σ} (hnew : w.services = []) {past later : List (Run σ)} {r last : Run σ}
    (hpast : History (.idle w) past r) {id : Nat} (hstop : r.happening id = some .stopped)
    (hlater : History r later last) :
    Hushed (AwaitsRound (handling id r.stack)) (happenings id later) ∧
      ∀ p ∈ later, ∀ l snapshot, p.Tells id l snapshot → (∃ w' below, p.step = .call w' below l (.state snapshot)) ∧
        (p.Subscribes id l ∨ p.happening id = some (.notified l snapshot)) :=
  ⟨hpast.hushed hnew hstop hlater, fun p _ _ _ htells ↦
    ⟨p.step_of_tells htells, htells.symm.imp_left Run.subscribes_of_replayed⟩⟩

/-- A lamp that stops itself whenever it is lit, and has itself watched afterwards. -/
def shutter : Machine Unit where
  initial := .text "off"
  states := [(.text "off", ⟨[(.text "press", ⟨some (.text "on"), none, []⟩)], [], []⟩),
    (.text "on", ⟨[], [.effect ⟨"shut", .effect none fun _ _ ↦ .call (.stop "lamp") fun _ ↦
      .request (.subscribe "lamp" "eye" "eye")⟩], []⟩)]
  context := .null
  events := none
  name := .text "lamp"

/-- A lamp is made, started and pressed. -/
def shut : Run Unit :=
  .script { World.ofLamp shines with machine := some shutter } [] (.call (.create "lamp") fun _ ↦
    .call (.start "lamp") fun _ ↦ .request (.send "lamp" (.text "press")))

theorem History.ofShut (n : Nat) :
    History (.idle { World.ofLamp shines with machine := some shutter })
      (.idle { World.ofLamp shines with machine := some shutter } :: shut.trail n) (shut.after n) :=
  .trans (.call .begin rfl _) (.steps shut n)

/-- The round that was due when the lamp stopped itself is the only one, and its one call is of the eye. -/
theorem hushed_after_stop_of_shut :
    Hushed (AwaitsRound (handling 0 (shut.after 13).stack)) (happenings 0 ((shut.after 13).trail 12)) ∧
      noticed (happenings 0 ((shut.after 13).trail 12)) = [.named "eye"] :=
  ⟨(hushed_after_stop rfl (History.ofShut 13) rfl (.steps _ 12)).1, rfl⟩

/-- The eye is called twice after the lamp was stopped: when it subscribes, and in the round. -/
theorem notified_after_stop :
    ¬ ∀ past r, History (.idle { World.ofLamp shines with machine := some shutter }) past r →
      r.happening 0 = some .stopped → ∀ later last, History r later last → ∀ p ∈ later, ∀ l snapshot,
        p.Tells 0 l snapshot → p.Subscribes 0 l := by
  intro h
  have hsubscribes := h _ _ (History.ofShut 13) rfl _ _ (.steps (shut.after 13) 8) ((shut.after 13).after 7)
    (by simp [Run.trail]) (.named "eye") _ (.inl rfl)
  rcases hsubscribes with ⟨_, _, _, _, hrequest, -⟩ | ⟨_, _, _, -, hl⟩
  · cases hrequest
  · cases hl

end Statechart
