import Mathlib.Data.List.Nodup
import Mathlib.Logic.Relation
import Statechart.Proofs.Cancellation
import Statechart.Proofs.Subscription

/-!
# Registrations and their handles

A registry evolves by the changes that single steps make (`Registry.Evolves`). Its tickets increase along it, and no
listener stands in it twice (`Registry.Tidy`). A ticket that was given out is in use later only if it has been in use
all the time (`Registry.Evolves.mem`). Every handle that is held has a ticket that was given out (`History.given`); so
once its registration is gone, a handle is spent for good (`History.spent`).
-/

set_option autoImplicit false
set_option relaxedAutoImplicit false

namespace Statechart

variable {σ : Type}

/-! ### Registries over time -/

/-- What one step does to a registry. -/
inductive Registry.Change : Registry → Registry → Prop
  | kept {r} : Change r r
  | added {r} (l : Listener) : Change r (r.add l).1
  | removed {r} (ticket : Nat) : Change r (r.remove ticket).1
  | cleared {r} : Change r r.clear

namespace Registry

/-- What has become of a registry after any number of steps. -/
abbrev Evolves : Registry → Registry → Prop := Relation.ReflTransGen Change

/-- Tickets increase along a registry, no listener stands in it twice, and the next ticket is new. -/
structure Tidy (r : Registry) : Prop where
  ordered : r.entries.Pairwise fun e e' ↦ e.1 < e'.1 ∧ e.2 ≠ e'.2
  fresh : ∀ e ∈ r.entries, e.1 < r.next

variable {r r' : Registry} {e e' : Nat × Listener} {l : Listener} {ticket : Nat}

theorem Tidy.empty : Tidy {} := ⟨.nil, by simp⟩

theorem Tidy.add (h : r.Tidy) (l : Listener) : (r.add l).1.Tidy := by
  rcases r.add_cases l with ⟨-, hadd⟩ | ⟨hnew, hadd⟩
  · rwa [hadd]
  · have hother : ∀ e ∈ r.entries, e.2 ≠ l := by simpa [contains] using hnew
    rw [hadd]
    refine ⟨List.pairwise_append.mpr ⟨h.ordered, List.pairwise_singleton _ _, fun e he e' he' ↦ ?_⟩, fun e he ↦ ?_⟩
    · obtain rfl := List.mem_singleton.mp he'
      exact ⟨h.fresh e he, hother e he⟩
    · rcases List.mem_append.mp he with he | he
      · exact Nat.lt_succ_of_lt (h.fresh e he)
      · obtain rfl := List.mem_singleton.mp he
        exact Nat.lt_succ_self _

/-- Registrations that end leave a registry tidy. -/
theorem Tidy.sublist (h : r.Tidy) (hsub : r'.entries.Sublist r.entries) (hnext : r'.next = r.next) : r'.Tidy :=
  ⟨h.ordered.sublist hsub, fun e he ↦ hnext ▸ h.fresh e (hsub.subset he)⟩

/-- Registrations with the same ticket are the same. -/
theorem Tidy.unique (h : r.Tidy) (he : e ∈ r.entries) (he' : e' ∈ r.entries) (hsame : e.1 = e'.1) : e = e' := by
  have htickets : (r.entries.map (·.1)).Nodup := List.pairwise_map.mpr (h.ordered.imp fun hlt ↦ Nat.ne_of_lt hlt.1)
  exact List.inj_on_of_nodup_map htickets he he' hsame

theorem Change.tidy (h : Change r r') (htidy : r.Tidy) : r'.Tidy := by
  cases h with
  | kept => exact htidy
  | added l => exact htidy.add l
  | removed ticket => exact htidy.sublist List.filter_sublist rfl
  | cleared => exact htidy.sublist (List.nil_sublist _) rfl

theorem Change.next_le (h : Change r r') : r.next ≤ r'.next := by
  cases h with
  | added l => exact r.next_le_add l
  | _ => exact Nat.le_refl _

/-- A registration that is there after a step was there before it or has the next ticket. -/
theorem Change.mem (h : Change r r') (he : e ∈ r'.entries) : e ∈ r.entries ∨ e.1 = r.next := by
  cases h with
  | kept => exact .inl he
  | added l => exact (mem_of_mem_add he).imp_right fun hnew ↦ by rw [hnew.1]
  | removed ticket => exact .inl (mem_remove.mp he).1
  | cleared => cases he

theorem Evolves.tidy (h : Evolves r r') (htidy : r.Tidy) : r'.Tidy := by
  induction h with
  | refl => exact htidy
  | tail _ hstep ih => exact hstep.tidy ih

theorem Evolves.next_le (h : Evolves r r') : r.next ≤ r'.next := by
  induction h with
  | refl => exact Nat.le_refl _
  | tail _ hstep ih => exact Nat.le_trans ih hstep.next_le

/-- A registration under a ticket that was given out earlier was there then. -/
theorem Evolves.mem (h : Evolves r r') (he : e ∈ r'.entries) (hgiven : e.1 < r.next) : e ∈ r.entries := by
  induction h with
  | refl => exact he
  | tail hbefore hstep ih =>
    rcases hstep.mem he with he | hnew
    · exact ih he
    · exact absurd hgiven (Nat.not_lt.mpr (hnew ▸ Evolves.next_le hbefore))

/-- A ticket that was given out and is not in use will not be in use again. -/
theorem Evolves.hasTicket (h : Evolves r r') (hgiven : ticket < r.next) (hgone : r.hasTicket ticket = false) :
    r'.hasTicket ticket = false := by
  rw [Bool.eq_false_iff] at hgone ⊢
  intro hback
  obtain ⟨e, he, rfl⟩ := hasTicket_iff.mp hback
  exact hgone (hasTicket_iff.mpr ⟨e, Evolves.mem h he hgiven, rfl⟩)

/-- The ticket of a listener that is added is the one under which it then stands. -/
theorem mem_add_self (r : Registry) (l : Listener) : ((r.add l).2, l) ∈ (r.add l).1.entries := by
  unfold add
  cases hfound : r.entries.find? fun e ↦ e.2 == l with
  | none => simp
  | some e =>
    obtain ⟨ticket, l'⟩ := e
    obtain rfl : l' = l := by simpa using List.find?_some hfound
    exact List.mem_of_find?_eq_some hfound

/-- A listener that is present keeps its place. -/
theorem add_of_contains (h : r.contains l = true) : (r.add l).1 = r := by
  rcases r.add_cases l with ⟨-, hadd⟩ | ⟨hnew, -⟩
  · exact hadd
  · cases h.symm.trans hnew

theorem add_of_not_contains (h : r.contains l = false) :
    r.add l = (⟨r.entries ++ [(r.next, l)], r.next + 1⟩, r.next) := by
  have hnone : (r.entries.find? fun e ↦ e.2 == l) = none := by simpa [contains] using h
  rw [add, hnone]

theorem hasTicket_remove (r : Registry) (ticket : Nat) : (r.remove ticket).1.hasTicket ticket = false := by
  simp [hasTicket, remove]

theorem remove_of_not_hasTicket (h : r.hasTicket ticket = false) : (r.remove ticket).1 = r := by
  have hother : ∀ e ∈ r.entries, e.1 ≠ ticket := by simpa [hasTicket] using h
  have hall : (r.entries.filter fun e ↦ e.1 != ticket) = r.entries :=
    List.filter_eq_self.mpr fun e he ↦ bne_iff_ne.mpr (hother e he)
  rw [remove, hall]

end Registry

/-! ### What a step does -/

/-- What one step does to the holdings of a run, whose registries it leaves as told. -/
inductive Holdings.Change (before after : Option Nat → Registry) : Holdings → Holdings → Prop
  | kept {a} : Change before after a a
  | token {ts ts' g names pending} : Change before after ⟨ts, g, names, pending⟩ ⟨ts', g, names, pending⟩
  | changed {ts g g' names pending} (h : g.Change g') :
      Change before after ⟨ts, g, names, pending⟩ ⟨ts, g', names, pending⟩
  /-- A listener is registered, and the handle is kept under a name. -/
  | registered {ts g names pending name l} :
      Change before after ⟨ts, g, names, pending⟩
        ⟨ts, (g.add (.named l)).1, World.bind names name ⟨none, (g.add (.named l)).2⟩, pending⟩
  /-- A listener is subscribed to a service, and the handle is about to be kept. -/
  | subscribed {ts g names pending id l} (h : after (some id) = ((before (some id)).add (.named l)).1) :
      Change before after ⟨ts, g, names, pending⟩
        ⟨ts, g, names, ⟨some id, ((before (some id)).add (.named l)).2⟩ :: pending⟩
  | named {ts g names pending name h} :
      Change before after ⟨ts, g, names, h :: pending⟩ ⟨ts, g, World.bind names name h, pending⟩
  | dropped {ts g names pending h} : Change before after ⟨ts, g, names, h :: pending⟩ ⟨ts, g, names, pending⟩

namespace Run

theorem registryOf_of_service {w : World σ} {id : Nat} {s : Service σ} (h : w.services[id]? = some s) :
    w.registryOf (some id) = s.listeners := by
  simp [World.registryOf, h]

theorem registryOf_subscribe {w : World σ} {stack : List (Frame σ)} {id : Nat} {s : Service σ} {l : Listener}
    {after : Handle → List (Frame σ)} (h : w.services[id]? = some s) :
    (subscribe w stack id s l after).world.registryOf (some id) = ((w.registryOf (some id)).add l).1 := by
  simp [subscribe, World.registryOf, h]

@[simp] theorem holdings_setRegistry_some (w : World σ) (stack : List (Frame σ)) (id : Nat) (g : Registry) :
    (w.setRegistry (some id) g).holdings stack = w.holdings stack := rfl

/-- To end a registration changes the free registry or none. -/
theorem change_unsubscribe (before after : Option Nat → Registry) (w : World σ) (stack : List (Frame σ)) (h : Handle) :
    Holdings.Change before after (w.holdings stack) ((unsubscribe w h).1.holdings stack) := by
  obtain ⟨owner, ticket⟩ := h
  cases owner with
  | none => exact .changed (.removed ticket)
  | some id => exact .kept

/-- What a request does to the holdings. -/
theorem perform_holdings (w : World σ) (stack : List (Frame σ)) (q : Request σ) :
    Holdings.Change w.registryOf (perform w stack q).world.registryOf (w.holdings stack) (perform w stack q).holdings := by
  have hsame {r : Run σ} (h : r.holdings = w.holdings stack) :
      Holdings.Change w.registryOf r.world.registryOf (w.holdings stack) r.holdings := h ▸ .kept
  cases q with
  | createToken => exact .token
  | cancel =>
    simp only [perform, cancel]
    split
    · exact .kept
    · exact .token
  | onCancel token l =>
    simp only [perform]
    split
    · exact hsame (holdings_call w (.reply .null :: stack) l _)
    · exact .token
  | subscribe name l subscription =>
    rcases perform_subscribe w stack name l subscription with ⟨f, hfails⟩ | ⟨id, s, hs, hsubscribe⟩
    · rw [hfails]
      exact .kept
    · rw [hsubscribe, holdings_subscribe, ← registryOf_of_service hs]
      exact .subscribed (registryOf_subscribe hs)
  | unsubscribe | scope =>
    simp only [perform]
    split
    · exact .kept
    · exact change_unsubscribe _ _ _ _ _
  | register subscription l =>
    simp only [perform]
    split
    · exact .changed (.added _)
    · exact .registered
  | clear => exact .changed .cleared
  | remove ticket =>
    simp only [perform]
    repeat' split
    · exact .kept
    · exact .kept
    · exact change_unsubscribe _ _ _ _ _
  | _ => exact hsame (holdings_perform w stack rfl)

/-- Every step changes what a run holds in one of the ways of `Holdings.Change`. -/
theorem step_holdings (r : Run σ) :
    Holdings.Change r.world.registryOf r.step.world.registryOf r.holdings r.step.holdings := by
  cases hrequest : r.request? with
  | some p =>
    rw [step_of_request hrequest, holdings_of_request hrequest]
    exact perform_holdings r.world p.2 p.1
  | none =>
    obtain ⟨w, stack, signal⟩ := r
    cases stack with
    | nil => exact .kept
    | cons frame stack =>
      cases hframe : frame.handle? with
      | none =>
        have hsame : (step ⟨w, frame :: stack, signal⟩).holdings = holdings ⟨w, frame :: stack, signal⟩ :=
          (holdings_step hrequest hframe).trans (by simp [holdings, World.holdings, hframe])
        exact hsame ▸ .kept
      | some h =>
        cases frame <;> cases hframe
        cases signal with
        | returning a => exact .named
        | failing f => exact .dropped

end Run

theorem Holdings.Change.registry {before after : Option Nat → Registry} {a b : Holdings}
    (h : Change before after a b) : a.registry.Change b.registry := by
  cases h with
  | changed h => exact h
  | registered => exact .added _
  | _ => exact .kept

/-- Every turn changes the registry of a service in one of the ways of `Registry.Change`. -/
theorem Turn.registry {id : Nat} {v v' : View σ} {o : Option (Happening σ)} (hturn : Turn id v o v') :
    Registry.Change ((v.service.map (·.listeners)).getD {}) ((v'.service.map (·.listeners)).getD {}) := by
  cases hturn with
  | stopped => exact .cleared
  | subscribed => exact .added _
  | unsubscribed => exact .removed _
  | @openingAbandoned o | @drainAbandoned o => cases o <;> exact .kept
  | _ => exact .kept

namespace Run

/-- Every step changes every registry in one of the ways of `Registry.Change`. -/
theorem step_registry (r : Run σ) (owner : Option Nat) :
    (r.world.registryOf owner).Change (r.step.world.registryOf owner) := by
  cases owner with
  | none => exact r.step_holdings.registry
  | some id => exact (r.step_turn id).registry

end Run

/-! ### Over a history -/

namespace History

variable {w : World σ} {first r : Run σ} {past : List (Run σ)}

/-- Along a history, a registry evolves step by step. -/
theorem evolves (h : History first past r) (owner : Option Nat) :
    (first.world.registryOf owner).Evolves (r.world.registryOf owner) := by
  induction h with
  | begin => exact .refl
  | @step past r h ih => exact ih.tail (r.step_registry owner)
  | call h hidle s ih => exact ih

/-- A world without services and with an empty registry has tidy registries only, whatever happens. -/
theorem tidy (h : History (.idle w) past r) (hnew : w.services = []) (hfree : w.registry = {}) (owner : Option Nat) :
    (r.world.registryOf owner).Tidy := by
  refine (h.evolves owner).tidy ?_
  cases owner <;> simp [Run.idle, World.registryOf, hnew, hfree, Registry.Tidy.empty]

end History

/-! ### Handles over a history -/

/-- All handles that are held, under names or about to be kept. -/
def Holdings.handles (a : Holdings) : List Handle := a.subscriptions.map (·.2) ++ a.pending

theorem World.mem_bind {α : Type} {names : List (String × α)} {name : String} {a b : α}
    (h : b ∈ (bind names name a).map (·.2)) : b = a ∨ b ∈ names.map (·.2) := by
  induction names with
  | nil => exact .inl (by simpa [bind] using h)
  | cons n rest ih =>
    unfold bind at h
    split at h
    · exact (List.mem_cons.mp h).imp_right (List.mem_cons_of_mem _)
    · rcases List.mem_cons.mp h with rfl | h
      · exact .inr List.mem_cons_self
      · exact (ih h).imp_right (List.mem_cons_of_mem _)

/-- A handle is held before a step, or the step gives it out for the registration of a callback that is then there. -/
theorem Holdings.Change.mem_handles {before after : Option Nat → Registry} {a b : Holdings} {h : Handle}
    (hchange : Change before after a b) (hafter : after none = b.registry) (hh : h ∈ b.handles) :
    h ∈ a.handles ∨ ∃ l, (h.ticket, .named l) ∈ (after h.owner).entries := by
  cases hchange with
  | kept | token | changed => exact .inl hh
  | @registered ts g names pending name l =>
    rcases List.mem_append.mp hh with hnamed | hpending
    · rcases World.mem_bind hnamed with rfl | hnamed
      · exact .inr ⟨l, hafter ▸ g.mem_add_self _⟩
      · exact .inl (List.mem_append_left _ hnamed)
    · exact .inl (List.mem_append_right _ hpending)
  | @subscribed ts g names pending id l hadd =>
    rcases List.mem_append.mp hh with hnamed | hpending
    · exact .inl (List.mem_append_left _ hnamed)
    · rcases List.mem_cons.mp hpending with rfl | hpending
      · exact .inr ⟨l, hadd ▸ (before (some id)).mem_add_self _⟩
      · exact .inl (List.mem_append_right _ hpending)
  | named =>
    rcases List.mem_append.mp hh with hnamed | hpending
    · rcases World.mem_bind hnamed with rfl | hnamed
      · exact .inl (List.mem_append_right _ List.mem_cons_self)
      · exact .inl (List.mem_append_left _ hnamed)
    · exact .inl (List.mem_append_right _ (List.mem_cons_of_mem _ hpending))
  | dropped =>
    refine .inl ((List.mem_append.mp hh).elim (List.mem_append_left _) fun hpending ↦ ?_)
    exact List.mem_append_right _ (List.mem_cons_of_mem _ hpending)

/-- The ticket of every handle that is held has been given out. -/
theorem History.given {w : World σ} {r : Run σ} {past : List (Run σ)} (hpast : History (.idle w) past r)
    (hnew : w.services = []) (hfree : w.registry = {}) (hheld : w.subscriptions = []) :
    ∀ h ∈ r.holdings.handles, h.ticket < (r.world.registryOf h.owner).next := by
  induction hpast with
  | begin => simp [Run.idle, Run.holdings, World.holdings, Holdings.handles, hheld]
  | @step past r hpast ih =>
    intro h hh
    rcases r.step_holdings.mem_handles rfl hh with hbefore | ⟨l, hgiven⟩
    · exact Nat.lt_of_lt_of_le (ih h hbefore) (r.step_registry h.owner).next_le
    · exact ((hpast.step).tidy hnew hfree h.owner).fresh _ hgiven
  | @call past r hpast hidle s ih =>
    intro h hh
    rw [Run.holdings_script, ← hidle] at hh
    exact ih h hh

namespace Run

variable {r : Run σ} {l : Listener} {h : Handle}

/-- The next step adds a listener to a registry for which it gives out a handle. -/
inductive Adds (r : Run σ) : Listener → Handle → Prop
  | registered {name l below h} (hrequest : r.request? = some (.register (some name) l, below))
      (hname : World.lookup? r.step.world.subscriptions name = some h) : Adds r (.named l) h
  | subscribed {name l subscription below above h}
      (hrequest : r.request? = some (.subscribe name l subscription, below))
      (hkeep : r.step.stack = above ++ .keep subscription h :: below) : Adds r (.named l) h

/-- The next step gives up the registration of a handle, as asked for or at the end of a scope. -/
inductive Unsubscribes (r : Run σ) (h : Handle) : Prop
  | asked {name below} (hrequest : r.request? = some (.unsubscribe name, below))
      (hname : World.lookup? r.world.subscriptions name = some h)
  | scope {name below} (hrequest : r.request? = some (.scope name, below))
      (hname : World.lookup? r.world.subscriptions name = some h)

/-- A handle that is given out is that of the registration under which the listener then stands. -/
theorem Adds.registry (hadds : r.Adds l h) :
    r.step.world.registryOf h.owner = ((r.world.registryOf h.owner).add l).1 ∧
      h.ticket = ((r.world.registryOf h.owner).add l).2 := by
  cases hadds with
  | @registered name l below h hrequest hname =>
    rw [step_of_request hrequest] at hname ⊢
    have hbind := World.lookup?_bind r.world.subscriptions name name
      ⟨none, (r.world.registry.add (.named l)).2⟩
    rw [if_pos rfl] at hbind
    obtain rfl := Option.some.inj (hname.symm.trans hbind)
    exact ⟨rfl, rfl⟩
  | @subscribed name l subscription below above h hrequest hkeep =>
    rw [step_of_request hrequest] at hkeep ⊢
    rcases perform_subscribe r.world below name l subscription with ⟨f, hfails⟩ | ⟨id, s, hs, hsubscribe⟩
    · -- a request that fails leaves no more than what waits for its answer
      rw [hfails] at hkeep
      have hlength := congrArg List.length hkeep
      simp only [fail, List.length_append, List.length_cons] at hlength
      omega
    · rw [hsubscribe] at hkeep ⊢
      have hstack : (subscribe r.world below id s (.named l) fun h ↦ [.keep subscription h]).stack =
          [_] ++ .keep subscription ⟨some id, (s.listeners.add (.named l)).2⟩ :: below := rfl
      obtain ⟨-, hframe⟩ := List.append_inj' (hkeep.symm.trans hstack) (by simp)
      obtain rfl : h = ⟨some id, (s.listeners.add (.named l)).2⟩ := by simpa using hframe
      exact ⟨registryOf_subscribe hs, by rw [registryOf_of_service hs]⟩

theorem registryOf_unsubscribe (w : World σ) (h : Handle) (owner : Option Nat) :
    (unsubscribe w h).1.registryOf owner =
      if owner = h.owner then ((w.registryOf owner).remove h.ticket).1 else w.registryOf owner := by
  obtain ⟨held, ticket⟩ := h
  cases owner with
  | none => cases held <;> simp [unsubscribe, World.setRegistry, World.registryOf, World.updateService]
  | some id =>
    cases held with
    | none => simp [unsubscribe, World.setRegistry, World.registryOf]
    | some i =>
      simp only [unsubscribe, World.setRegistry, World.registryOf, World.getElem?_updateService, Option.some.injEq]
      by_cases hi : i = id
      · subst hi
        cases hs : w.services[i]? <;> simp [Registry.remove]
      · rw [if_neg hi, if_neg (Ne.symm hi)]

/-- The handle that is used is held, the answer tells whether its ticket is in use, and the registration under it ends. -/
theorem Unsubscribes.step (h' : r.Unsubscribes h) :
    h ∈ r.holdings.handles ∧
      r.step.signal = .returning (.value (.bool ((r.world.registryOf h.owner).hasTicket h.ticket))) ∧
      ∀ owner, r.step.world.registryOf owner =
        if owner = h.owner then ((r.world.registryOf owner).remove h.ticket).1 else r.world.registryOf owner := by
  have hheld {name : String} (hname : World.lookup? r.world.subscriptions name = some h) : h ∈ r.holdings.handles := by
    obtain ⟨n, hn, rfl⟩ := Option.map_eq_some_iff.mp hname
    exact List.mem_append_left _ (List.mem_map.mpr ⟨n, List.mem_of_find?_eq_some hn, rfl⟩)
  cases h' with
  | asked hrequest hname | scope hrequest hname =>
    rw [step_of_request hrequest]
    simp only [perform, handleOf, hname]
    exact ⟨hheld hname, rfl, registryOf_unsubscribe r.world h⟩

end Run

/-- A handle whose registration is gone never has one again, and to unsubscribe by it does nothing. -/
theorem History.spent {p r : Run σ} {later : List (Run σ)} {h : Handle} (hlater : History p later r)
    (hgiven : h.ticket < (p.world.registryOf h.owner).next)
    (hgone : (p.world.registryOf h.owner).hasTicket h.ticket = false) :
    (r.world.registryOf h.owner).hasTicket h.ticket = false ∧
      (r.Unsubscribes h → r.step.signal = .returning (.value (.bool false)) ∧
        ∀ owner, r.step.world.registryOf owner = r.world.registryOf owner) := by
  have hstill := Registry.Evolves.hasTicket (hlater.evolves h.owner) hgiven hgone
  refine ⟨hstill, fun hunsubscribes ↦ ?_⟩
  obtain ⟨-, hsignal, hregistry⟩ := hunsubscribes.step
  rw [hstill] at hsignal
  refine ⟨hsignal, fun owner ↦ (hregistry owner).trans ?_⟩
  split
  · next howner => rw [howner, Registry.remove_of_not_hasTicket hstill]
  · rfl

/-- Registrations and their handles. Assumes: a world without services, registrations and handles, with any callbacks,
and a history that leads from it to `p`, from there to `x` and on to `r`. First, along every registry the tickets
increase, and no listener stands in it twice. Second, to add a listener that is present changes nothing, and the handle
is the one of its registration; any other listener is registered behind all others, under the ticket of the handle.
Third, a handle that is used to unsubscribe ends the registration under its ticket and no other, and the answer is
true if and only if there is one. Fourth, two registrations of the same registry under one ticket, at `p` and at `r`,
are the same one, which has been there all the time. Fifth, a handle whose registration is gone at `p` has none at `r`,
and to unsubscribe by it answers false and changes no registry. Sixth, so does every handle of a registration that was
given up by one of its handles before. -/
theorem registrations_and_handles {w : World σ} {p : Run σ} {past : List (Run σ)} (hpast : History (.idle w) past p)
    (hnew : w.services = []) (hfree : w.registry = {}) (hheld : w.subscriptions = []) :
    (∀ owner, (p.world.registryOf owner).entries.Pairwise fun e e' ↦ e.1 < e'.1 ∧ e.2 ≠ e'.2) ∧
    (∀ l h, p.Adds l h →
      ((p.world.registryOf h.owner).contains l = true →
        p.step.world.registryOf h.owner = p.world.registryOf h.owner ∧
        (h.ticket, l) ∈ (p.world.registryOf h.owner).entries) ∧
      ((p.world.registryOf h.owner).contains l = false →
        (p.step.world.registryOf h.owner).entries = (p.world.registryOf h.owner).entries ++ [(h.ticket, l)])) ∧
    (∀ h, p.Unsubscribes h →
      p.step.signal = .returning (.value (.bool ((p.world.registryOf h.owner).hasTicket h.ticket))) ∧
      (p.step.world.registryOf h.owner).entries =
        (p.world.registryOf h.owner).entries.filter (fun e ↦ e.1 != h.ticket) ∧
      ∀ owner, owner ≠ h.owner → p.step.world.registryOf owner = p.world.registryOf owner) ∧
    (∀ during x later r owner e e', History p during x → History x later r →
      e ∈ (p.world.registryOf owner).entries → e' ∈ (r.world.registryOf owner).entries → e.1 = e'.1 →
        e = e' ∧ e ∈ (x.world.registryOf owner).entries) ∧
    (∀ later r h, History p later r → h ∈ p.holdings.handles →
      (p.world.registryOf h.owner).hasTicket h.ticket = false →
        (r.world.registryOf h.owner).hasTicket h.ticket = false ∧
        (r.Unsubscribes h → r.step.signal = .returning (.value (.bool false)) ∧
          ∀ owner, r.step.world.registryOf owner = r.world.registryOf owner)) ∧
    ∀ later r h, p.Unsubscribes h → History p.step later r → r.Unsubscribes h →
      r.step.signal = .returning (.value (.bool false)) ∧
      ∀ owner, r.step.world.registryOf owner = r.world.registryOf owner := by
  refine ⟨fun owner ↦ (hpast.tidy hnew hfree owner).ordered, fun l h hadds ↦ ?_, fun h hunsubscribes ↦ ?_,
    fun during x later r owner e e' hduring hlater he he' hsame ↦ ?_,
    fun later r h hlater hh ↦ hlater.spent (hpast.given hnew hfree hheld h hh),
    fun later r h hunsubscribes hlater ↦ ?_⟩
  · obtain ⟨hregistry, hticket⟩ := hadds.registry
    refine ⟨fun hpresent ↦ ?_, fun habsent ↦ ?_⟩
    · have hmem := (p.world.registryOf h.owner).mem_add_self l
      rw [← hticket, Registry.add_of_contains hpresent] at hmem
      exact ⟨hregistry.trans (Registry.add_of_contains hpresent), hmem⟩
    · rw [Registry.add_of_not_contains habsent] at hregistry hticket
      rw [hregistry, hticket]
  · obtain ⟨-, hsignal, hregistry⟩ := hunsubscribes.step
    refine ⟨hsignal, ?_, fun owner howner ↦ by rw [hregistry, if_neg howner]⟩
    rw [hregistry, if_pos rfl, Registry.remove]
  · have htidy := hpast.tidy hnew hfree owner
    have hx := hduring.evolves owner
    have hgiven : e'.1 < (p.world.registryOf owner).next := hsame ▸ htidy.fresh e he
    have he'' := Registry.Evolves.mem (hx.trans (hlater.evolves owner)) he' hgiven
    obtain rfl := htidy.unique he he'' hsame
    exact ⟨rfl, Registry.Evolves.mem (hlater.evolves owner) he' (Nat.lt_of_lt_of_le hgiven (Registry.Evolves.next_le hx))⟩
  · obtain ⟨hh, -, hregistry⟩ := hunsubscribes.step
    have hgone : (p.step.world.registryOf h.owner).hasTicket h.ticket = false := by
      rw [hregistry, if_pos rfl, Registry.hasTicket_remove]
    have hgiven := hpast.given hnew hfree hheld h hh
    exact (hlater.spent (Nat.lt_of_lt_of_le hgiven (p.step_registry h.owner).next_le) hgone).2

/-- A listener is registered twice, under two names, and given up by both. -/
def registered : Run Unit :=
  .script (World.ofLamp shines) [] (.call (.register (some "first") "listener") fun _ ↦
    .call (.register (some "second") "listener") fun _ ↦ .call (.unsubscribe "first") fun _ ↦
      .request (.unsubscribe "second"))

/-- The second name is one of the same registration, so that it comes too late. -/
theorem registrations_and_handles_of_registered :
    (registered.after 2).step.signal = .returning (.value (.bool true)) ∧
      (registered.after 3).step.signal = .returning (.value (.bool false)) := by
  have hpast : History (.idle (World.ofLamp shines)) _ (registered.after 2) :=
    .trans (.call .begin rfl _) (.steps registered 2)
  obtain ⟨-, -, hunsubscribes, -, -, hspent⟩ := registrations_and_handles hpast rfl rfl rfl
  have hfirst : (registered.after 2).Unsubscribes ⟨none, 0⟩ := .asked rfl rfl
  have hsecond : (registered.after 3).Unsubscribes ⟨none, 0⟩ := .asked rfl rfl
  exact ⟨(hunsubscribes _ hfirst).1, (hspent [] _ _ hfirst .begin hsecond).1⟩

end Statechart
