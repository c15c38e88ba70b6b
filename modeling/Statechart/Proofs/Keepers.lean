import Statechart.Proofs.AfterStop
import Statechart.Proofs.Frames
import Statechart.Proofs.Interruption
import Statechart.Proofs.Registration

/-!
# Hosts and their keepers

A host is made, is told of states by its keeper, and is closed; nothing else changes it. A registration with a service
ends where the service is stopped or its handle is used (`Run.step_housing`). The keeper of a host is subscribed once,
where the frame of its construction is resumed (`Run.starts_of_subscribed`), and no handle is ever given out for it
(`History.named`). So a keeper stays subscribed until its service is stopped (`History.keeps`).
-/

set_option autoImplicit false
set_option relaxedAutoImplicit false

namespace Statechart

variable {σ : Type}

/-! ### What a step does to hosts and registries -/

/-- The hosts of a world and the registries of its services. -/
structure Housing where
  hosts : List Host
  rosters : List Registry

def World.housing (w : World σ) : Housing := ⟨w.hosts, w.services.map (·.listeners)⟩

/-- A request that changes a host or the registry of a service, or calls a listener. -/
def Request.houses : Request σ → Bool
  | .stop _ | .leave _ | .close _ | .onCancel .. | .subscribe .. | .unsubscribe _ | .scope _ | .remove _ => true
  | _ => false

namespace Run

/-- The next step is asked to close a host. -/
inductive AskedToClose (h : Nat) (r : Run σ) : Prop
  | leave {name below} (hrequest : r.request? = some (.leave name, below))
      (hname : World.lookup? r.world.names name = some (.host h))
  | close {name below} (hrequest : r.request? = some (.close name, below))
      (hname : World.lookup? r.world.names name = some (.host h))

/-- The next step closes a host that is open. -/
def Closes (h : Nat) (r : Run σ) : Prop :=
  r.AskedToClose h ∧ ∃ host, r.world.hosts[h]? = some host ∧ host.closed = false

section

variable (w : World σ) (stack : List (Frame σ)) (id : Nat)

@[simp] theorem housing_mark (what : Milestone) : (w.mark id what).housing = w.housing := by
  unfold World.mark
  split <;> rfl

@[simp] theorem housing_note (e : Entry) : (w.note e).housing = w.housing := rfl

@[simp] theorem housing_setToken (token : String) (t : Token) : (w.setToken token t).housing = w.housing := rfl

theorem housing_updateService {f : Service σ → Service σ} (hf : ∀ s, (f s).listeners = s.listeners) :
    (w.updateService id f).housing = w.housing := by
  have hrosters : (w.services.modify id f).map (·.listeners) = w.services.map (·.listeners) := by
    refine List.ext_getElem? fun i ↦ ?_
    simp only [List.getElem?_map, List.getElem?_modify]
    cases w.services[i]? with
    | none => rfl
    | some s =>
      dsimp only [Option.map_some]
      split <;> simp [hf]
  rw [World.housing, World.updateService, hrosters]
  rfl

@[simp] theorem housing_answer (a : Answer) : (answer w stack a).world.housing = w.housing := rfl

@[simp] theorem housing_fail (f : Failure) : (fail w stack f).world.housing = w.housing := rfl

@[simp] theorem housing_script (s : Script σ) : (script w stack s).world.housing = w.housing := rfl

@[simp] theorem housing_ofOutcome (o : Outcome Answer) : (ofOutcome w stack o).world.housing = w.housing := by
  cases o <;> rfl

@[simp] theorem housing_start (s : Service σ) : (start w stack id s).world.housing = w.housing := by
  unfold start
  split
  · rfl
  · rfl
  · simp [housing_updateService]

@[simp] theorem housing_send (s : Service σ) (v : Value) : (send w stack id s v).world.housing = w.housing := by
  unfold send
  repeat' split
  all_goals simp [housing_updateService]

@[simp] theorem housing_write (sink : Sink) (level : String) (text : (Value → Value) → Outcome Value) :
    (write w stack sink level text).world.housing = w.housing := by
  unfold write
  repeat' split
  all_goals simp

@[simp] theorem housing_drain (s : Service σ) : (drain w stack id s).world.housing = w.housing := by
  unfold drain
  split <;> exact housing_updateService w id fun _ ↦ rfl

@[simp] theorem housing_move (s : Service σ) (source : State σ) (event : Event) :
    (move w stack id s source event).world.housing = w.housing := by
  unfold move
  split
  · rfl
  · simp [housing_updateService]

variable {w stack} in
theorem housing_withService {name : String} {k : Nat → Service σ → Run σ}
    (hk : ∀ i s, (k i s).world.housing = w.housing) : (withService w stack name k).world.housing = w.housing := by
  unfold withService
  repeat' split
  · rfl
  · rfl
  · exact hk _ _

variable {w stack} in
theorem housing_withOwnService {name : String} {k : Nat → Service σ → Run σ}
    (hk : ∀ i s, (k i s).world.housing = w.housing) : (withOwnService w stack name k).world.housing = w.housing := by
  unfold withOwnService
  split
  · rfl
  · exact housing_withService hk

theorem getElem?_updateHost (f : Host → Host) (h : Nat) :
    (w.updateHost id f).hosts[h]? = if id = h then w.hosts[h]?.map f else w.hosts[h]? := by
  simp only [World.updateHost, List.getElem?_modify]
  split <;> simp

/-- Only the call of a keeper with a state changes a host. -/
theorem host_call (l : Listener) (what : Published) (h : Nat) :
    (call w stack l what).world.hosts[h]? = w.hosts[h]? ∨ ∃ host s, l = .keeper h ∧ what = .state s ∧
      w.hosts[h]? = some host ∧ (call w stack l what).world.hosts[h]? = some { host with current := s } := by
  cases l with
  | named name => exact .inl rfl
  | numbered n => exact .inl rfl
  | keeper k =>
    cases hk : w.hosts[k]? with
    | none => exact .inl (by simp only [call, hk]; rfl)
    | some host =>
      cases what with
      | token | value =>
        refine .inl ?_
        simp only [call, hk]
        cases host.onChange <;> rfl
      | state s =>
        have hcall : (call w stack (.keeper k) (.state s)).world.hosts =
            (w.updateHost k fun h ↦ { h with current := s }).hosts := by
          simp only [call, hk]
          cases host.onChange <;> rfl
        rw [hcall, getElem?_updateHost]
        by_cases hkh : k = h
        · subst hkh
          exact .inr ⟨host, s, rfl, rfl, hk, by rw [if_pos rfl, hk]; rfl⟩
        · exact .inl (if_neg hkh)

@[simp] theorem hosts_stop : (stop w id).hosts = w.hosts := by
  unfold stop
  split
  · rfl
  · split
    · rfl
    · exact congrArg Housing.hosts (housing_mark w id _)

@[simp] theorem hosts_unsubscribe (h : Handle) : (unsubscribe w h).1.hosts = w.hosts := by
  obtain ⟨owner, ticket⟩ := h
  cases owner <;> rfl

/-- A host is closed, and no other. -/
theorem host_close (h k : Nat) : (close w k).hosts[h]? =
    if k = h then w.hosts[h]?.map (fun h ↦ { h with closed := true }) else w.hosts[h]? := by
  cases hk : w.hosts[k]? with
  | none =>
    simp only [close, hk]
    split
    · next hkh => simp [← hkh, hk]
    · rfl
  | some host =>
    cases hclosed : host.closed with
    | true =>
      simp only [close, hk, hclosed, if_true]
      split
      · next hkh =>
        have hsame : { host with closed := true } = host := by rw [← hclosed]
        rw [← hkh, hk, Option.map_some, hsame]
      · rfl
    | false =>
      have hclose : (close w k).hosts = (w.updateHost k fun h ↦ { h with closed := true }).hosts := by
        simp only [close, hk, hclosed, Bool.false_eq_true, if_false]
        split
        · exact hosts_stop _ _
        · exact hosts_stop _ _
      rw [hclose, getElem?_updateHost]

theorem hosts_of_housing {w w' : World σ} (heq : w'.housing = w.housing) (h : Nat) : w'.hosts[h]? = w.hosts[h]? :=
  congrArg (fun a ↦ a.hosts[h]?) heq

theorem registryOf_of_housing {w w' : World σ} (heq : w'.housing = w.housing) (id : Nat) :
    w'.registryOf (some id) = w.registryOf (some id) := by
  have hroster (w : World σ) : w.registryOf (some id) = (w.housing.rosters[id]?).getD {} := by
    simp [World.registryOf, World.housing]
  rw [hroster, hroster, heq]

theorem registryOf_of_services {w w' : World σ} (heq : w'.services = w.services) (id : Nat) :
    w'.registryOf (some id) = w.registryOf (some id) := by
  simp only [World.registryOf, heq]

/-- A new service has an empty registry. -/
theorem registryOf_append (s : Service σ) (hs : s.listeners = {}) :
    ({ w with services := w.services ++ [s] } : World σ).registryOf (some id) = w.registryOf (some id) := by
  simp only [World.registryOf]
  by_cases hid : id = w.services.length
  · subst hid
    simp [hs]
  · rw [getElem?_append_singleton_of_ne _ _ hid]

theorem registryOf_stop (i : Nat) :
    (stop w i).registryOf (some id) = if i = id then (w.registryOf (some id)).clear else w.registryOf (some id) := by
  cases hs : w.services[i]? with
  | none =>
    simp only [stop, hs]
    split
    · next hi =>
      subst hi
      simp [World.registryOf, hs, Registry.clear]
    · rfl
  | some s =>
    have hmarked : (if s.status == .stopped then w else w.mark i (.stopped s.state.value)).services = w.services := by
      split <;> simp
    simp only [stop, hs, World.registryOf, World.getElem?_updateService, hmarked]
    split
    · next hi =>
      subst hi
      simp [hs]
    · rfl

/-- To close a host clears the registry of its service, where it was open. -/
theorem registryOf_close (k : Nat) : (close w k).registryOf (some id) =
    if w.hosted? k = some id then (w.registryOf (some id)).clear else w.registryOf (some id) := by
  unfold close World.hosted?
  cases w.hosts[k]? with
  | none => simp
  | some host =>
    cases hclosed : host.closed with
    | true => simp [hclosed]
    | false =>
      have hstop := registryOf_stop (w.updateHost k fun h ↦ { h with closed := true }) id host.service
      simp only [hclosed, Bool.false_eq_true, if_false, Option.bind_some, Option.some.injEq]
      split
      · exact hstop
      · exact hstop

theorem registryOf_subscribe_eq {i : Nat} {s : Service σ} (hs : w.services[i]? = some s) (l : Listener)
    (after : Handle → List (Frame σ)) : (subscribe w stack i s l after).world.registryOf (some id) =
      if i = id then ((w.registryOf (some id)).add l).1 else w.registryOf (some id) := by
  split
  · next hi =>
    subst hi
    exact registryOf_subscribe hs
  · next hi => simp [subscribe, World.registryOf, World.getElem?_updateService_of_ne _ hi]

end

/-- How one step leaves a host. -/
inductive HostChange (r : Run σ) (h : Nat) : Option Host → Option Host → Prop
  | kept {o} : HostChange r h o o
  | made {name onChange stack initial} (hstack : r.stack = .creatingHost name onChange :: stack)
      (hnew : h = r.world.hosts.length) (hstarted : r.happening r.world.services.length = some (.started initial)) :
      HostChange r h none (some ⟨r.world.services.length, onChange, initial.snapshot, false⟩)
  /-- A service tells the keeper of the host of a state. -/
  | told {host i s} (htells : r.Tells i (.keeper h) s) : HostChange r h (some host) (some { host with current := s })
  /-- A round that passes a state to the free registry comes to the keeper. -/
  | stray {host s e rest stack} (hstack : r.stack = .round none (.state s) (e :: rest) :: stack) :
      HostChange r h (some host) (some { host with current := s })
  | closed {host} (hcloses : r.Closes h) : HostChange r h (some host) (some { host with closed := true })

/-- How one step leaves the registry of a service. -/
inductive RosterChange (r : Run σ) (id : Nat) (a : Registry) : Registry → Prop
  | kept : RosterChange r id a a
  | added {l} : RosterChange r id a (a.add l).1
  | unsubscribed {h} (hunsubscribes : r.Unsubscribes h) (howner : h.owner = some id) :
      RosterChange r id a (a.remove h.ticket).1
  | cleared (hstopped : r.happening id = some .stopped ∨ r.world.services[id]? = none) : RosterChange r id a a.clear

section

variable {r : Run σ} {w : World σ} {stack : List (Frame σ)} {h id : Nat} {l : Listener} {what : Published}

theorem HostChange.of_eq {o o' : Option Host} (heq : o' = o) : HostChange r h o o' := heq ▸ .kept

/-- A call of a listener leaves a host as it is, or is one of its keeper. -/
theorem HostChange.of_call (hsame : w.hosts[h]? = r.world.hosts[h]?)
    (hcall : ∀ host s, l = .keeper h → what = .state s → r.world.hosts[h]? = some host →
      HostChange r h (some host) (some { host with current := s })) :
    HostChange r h r.world.hosts[h]? (call w stack l what).world.hosts[h]? := by
  rcases host_call w stack l what h with heq | ⟨host, s, hl, hwhat, hhost, hafter⟩
  · exact .of_eq (heq.trans hsame)
  · rw [hafter, hsame.symm.trans hhost]
    exact hcall host s hl hwhat (hsame.symm.trans hhost)

theorem RosterChange.of_eq {a a' : Registry} (heq : a' = a) : RosterChange r id a a' := heq ▸ .kept

theorem RosterChange.of_services (heq : w.services = r.world.services) :
    RosterChange r id (r.world.registryOf (some id)) (w.registryOf (some id)) :=
  .of_eq (registryOf_of_services heq id)

theorem RosterChange.of_subscribe {i : Nat} {s : Service σ} {after : Handle → List (Frame σ)}
    (hsame : w.services = r.world.services) (hs : r.world.services[i]? = some s) :
    RosterChange r id (r.world.registryOf (some id)) ((subscribe w stack i s l after).world.registryOf (some id)) := by
  rw [registryOf_subscribe_eq w stack id (hsame ▸ hs), registryOf_of_services hsame]
  split
  · exact .added
  · exact .kept

/-- A stop or the end of a host clears the registry of its service. -/
theorem RosterChange.of_clear {p : Prop} [Decidable p]
    (hstopped : p → r.world.services[id]? = none ∨ r.happening id = some .stopped) :
    RosterChange r id (r.world.registryOf (some id))
      (if p then (r.world.registryOf (some id)).clear else r.world.registryOf (some id)) := by
  split
  · next hp => exact .cleared (hstopped hp).symm
  · exact .kept

end

/-- A service that a request stops by its own name. -/
theorem perform_stop (w : World σ) (stack : List (Frame σ)) {q : Request σ} {name : String}
    (hq : q = .stop name ∨ q = .leave name) (hhost : ∀ k, World.lookup? w.names name ≠ some (.host k)) :
    (∃ f, perform w stack q = fail w stack f) ∨ ∃ i s a, World.lookup? w.names name = some (.service i) ∧
      w.services[i]? = some s ∧ perform w stack q = answer (stop w i) stack a := by
  cases hname : World.lookup? w.names name with
  | none =>
    rcases hq with rfl | rfl
    · exact .inl ⟨_, by simp [perform, withOwnService, withService, World.serviceOf, hname]; rfl⟩
    · exact .inl ⟨_, by simp [perform, withService, World.serviceOf, hname]; rfl⟩
  | some subject =>
    cases subject with
    | host k => exact absurd hname (hhost k)
    | service i =>
      cases hs : w.services[i]? with
      | none =>
        rcases hq with rfl | rfl
        · exact .inl ⟨_, by simp [perform, withOwnService, withService, World.serviceOf, hname, hs]; rfl⟩
        · exact .inl ⟨_, by simp [perform, withService, World.serviceOf, hname, hs]; rfl⟩
      | some s =>
        rcases hq with rfl | rfl
        · exact .inr ⟨i, s, .yes, rfl, hs, by simp [perform, withOwnService, withService, World.serviceOf, hname, hs]⟩
        · exact .inr ⟨i, s, .null, rfl, hs, by simp [perform, withService, World.serviceOf, hname, hs]⟩

/-- A request that neither changes a host or a registry nor calls a listener. -/
theorem housing_perform (w : World σ) (stack : List (Frame σ)) {q : Request σ} (hq : q.houses = false) :
    (perform w stack q).world.housing = w.housing := by
  cases q with
  | stop | leave | close | onCancel | subscribe | unsubscribe | scope | remove => cases hq
  | start name => exact housing_withOwnService fun i s ↦ housing_start w stack i s
  | enter name =>
    simp only [perform]
    split
    · rfl
    · exact housing_withService fun i s ↦ housing_start w stack i s
  | send name v => exact housing_withService fun i s ↦ housing_send w stack i s v
  | describe name => exact housing_withService fun i s ↦ housing_ofOutcome w stack _
  | create | createHost => rfl
  | cancel token reason =>
    simp only [perform, cancel]
    split <;> rfl
  | _ =>
    simp only [perform]
    repeat' split
    all_goals first | rfl | simp

/-- A world that one step may leave: a host and the registry of a service are as before or changed in one of the ways
of `HostChange` and `RosterChange`. -/
structure Rehoused (r : Run σ) (h id : Nat) (w : World σ) : Prop where
  host : HostChange r h r.world.hosts[h]? w.hosts[h]?
  roster : RosterChange r id (r.world.registryOf (some id)) (w.registryOf (some id))

section

variable {r : Run σ} {w : World σ} {stack below : List (Frame σ)} {h id : Nat} {a : Answer} {q : Request σ}

theorem Rehoused.same : Rehoused r h id r.world := ⟨.kept, .kept⟩

theorem Rehoused.of_housing (heq : w.housing = r.world.housing) : Rehoused r h id w :=
  ⟨.of_eq (hosts_of_housing heq h), .of_eq (registryOf_of_housing heq id)⟩

/-- What calls a listener that is not a keeper, or calls it with no state. -/
theorem Rehoused.of_call {l : Listener} {what : Published} (hhosts : w.hosts = r.world.hosts)
    (hservices : w.services = r.world.services) (hquiet : ∀ k s, l = .keeper k → what ≠ .state s) :
    Rehoused r h id (call w stack l what).world :=
  ⟨.of_call (by rw [hhosts]) fun _ s hl hwhat _ ↦ absurd hwhat (hquiet h s hl),
    .of_services ((services_call _ _ _ _).trans hservices)⟩

/-! #### A request -/

/-- A request that stops a service, unless the service is missing. -/
theorem stopped_of_closing (hrequest : r.request? = some (q, below))
    (hrequested : ∀ s, r.world.services[id]? = some s → r.world.requested id q = some .stopped) :
    r.world.services[id]? = none ∨ r.happening id = some .stopped := by
  rw [happening_of_request hrequest]
  cases hs : r.world.services[id]? with
  | none => exact .inl rfl
  | some s => exact .inr (hrequested s hs)

theorem rehoused_close (k : Nat) (hasked : k = h → r.AskedToClose h)
    (hstopped : r.world.hosted? k = some id → r.world.services[id]? = none ∨ r.happening id = some .stopped) :
    Rehoused r h id (close r.world k) := by
  refine ⟨?_, ?_⟩
  · rw [host_close]
    split
    · next hkh =>
      cases hhost : r.world.hosts[h]? with
      | none => exact .kept
      | some host =>
        cases hclosed : host.closed with
        | true => exact .of_eq (by rw [← hclosed]; rfl)
        | false => exact .closed ⟨hasked hkh, host, hhost, hclosed⟩
    · exact .kept
  · rw [registryOf_close]
    exact .of_clear hstopped

theorem rehoused_stop (i : Nat) (hstopped : i = id → r.happening id = some .stopped) :
    Rehoused r h id (stop r.world i) := by
  refine ⟨.of_eq (by rw [hosts_stop]), ?_⟩
  rw [registryOf_stop]
  exact .of_clear fun hi ↦ .inr (hstopped hi)

theorem rehoused_unsubscribe (handle : Handle) (hunsubscribes : handle.owner = some id → r.Unsubscribes handle) :
    Rehoused r h id (unsubscribe r.world handle).1 := by
  refine ⟨.of_eq (by rw [hosts_unsubscribe]), ?_⟩
  rw [registryOf_unsubscribe]
  split
  · next howner => exact .unsubscribed (hunsubscribes howner.symm) howner.symm
  · exact .kept

/-- A request by a name that is none of a host stops a service or fails. -/
theorem rehoused_perform_stop {name : String} (hrequest : r.request? = some (q, below))
    (hq : q = .stop name ∨ q = .leave name) (hhost : ∀ k, World.lookup? r.world.names name ≠ some (.host k)) :
    Rehoused r h id (perform r.world below q).world := by
  rcases perform_stop r.world below hq hhost with ⟨f, hfails⟩ | ⟨i, s, a, hname, hs, hstop⟩
  · rw [hfails]
    exact .same
  · rw [hstop]
    refine rehoused_stop i fun hi ↦ ?_
    subst hi
    rw [happening_of_request hrequest]
    rcases hq with rfl | rfl <;> simp [World.requested, hs, World.own?, hname]

/-- A request that works on the handle behind a name: it ends the registration, or nothing is behind the name. -/
theorem rehoused_handle {name : String} {w : World σ}
    (hnone : World.lookup? r.world.subscriptions name = none → w = r.world)
    (hsome : ∀ handle, World.lookup? r.world.subscriptions name = some handle →
      w = (unsubscribe r.world handle).1 ∧ r.Unsubscribes handle) : Rehoused r h id w := by
  cases hname : World.lookup? r.world.subscriptions name with
  | none => exact hnone hname ▸ .same
  | some handle =>
    obtain ⟨rfl, hunsubscribes⟩ := hsome handle hname
    exact rehoused_unsubscribe handle fun _ ↦ hunsubscribes

/-- What a request leaves. -/
theorem rehoused_perform (hrequest : r.request? = some (q, below)) :
    Rehoused r h id (perform r.world below q).world := by
  cases q with
  | stop name =>
    by_cases hhost : ∃ k, World.lookup? r.world.names name = some (.host k)
    · obtain ⟨k, hk⟩ := hhost
      simp only [perform, withOwnService, hk]
      exact .same
    · exact rehoused_perform_stop hrequest (.inl rfl) (not_exists.mp hhost)
  | leave name =>
    by_cases hhost : ∃ k, World.lookup? r.world.names name = some (.host k)
    · obtain ⟨k, hname⟩ := hhost
      simp only [perform, hname]
      refine rehoused_close k (fun hk ↦ .leave hrequest (hk ▸ hname)) fun hhosted ↦ stopped_of_closing hrequest ?_
      intro s hs
      simp [World.requested, hs, World.closing?, hname, hhosted]
    · exact rehoused_perform_stop hrequest (.inr rfl) (not_exists.mp hhost)
  | close name =>
    simp only [perform]
    split
    · next k hname =>
      refine rehoused_close k (fun hk ↦ .close hrequest (hk ▸ hname)) fun hhosted ↦ stopped_of_closing hrequest ?_
      intro s hs
      simp [World.requested, hs, World.closing?, hname, hhosted]
    · exact .same
    · exact .same
  | onCancel token l =>
    simp only [perform]
    split
    · exact .of_call rfl rfl (by simp)
    · exact .of_housing rfl
  | subscribe name l subscription =>
    rcases perform_subscribe r.world below name l subscription with ⟨f, hfails⟩ | ⟨i, s, hs, hsubscribe⟩
    · rw [hfails]
      exact .same
    · rw [hsubscribe]
      exact ⟨.of_call (hosts_of_housing (housing_mark _ _ _) _) (by simp), .of_subscribe rfl hs⟩
  | unsubscribe name =>
    refine rehoused_handle (fun hname ↦ ?_) fun handle hname ↦ ⟨?_, .asked hrequest hname⟩
    all_goals
      simp only [perform, handleOf, hname]
      rfl
  | scope name =>
    refine rehoused_handle (fun hname ↦ ?_) fun handle hname ↦ ⟨?_, .scope hrequest hname⟩
    all_goals
      simp only [perform, handleOf, hname]
      rfl
  | remove ticket =>
    simp only [perform]
    repeat' split
    · exact .same
    · exact .same
    · next n _ => exact rehoused_unsubscribe ⟨none, n⟩ fun hid ↦ by cases hid
  | _ => exact .of_housing (housing_perform r.world below rfl)

/-! #### A step that performs no request -/

theorem housing_proceed {s : Script σ} (hs : s.request? stack = none) :
    (proceed w stack s).world.housing = w.housing := by
  cases s with
  | done | fail => rfl
  | call | attempt => cases hs

theorem rehoused_unwind {f : Failure} {frame : Frame σ} (hrequest : request? ⟨w, frame :: stack, .failing f⟩ = none) :
    Rehoused ⟨w, frame :: stack, .failing f⟩ h id (unwind w stack f frame).world := by
  cases frame with
  | attempting next => exact .of_housing (housing_proceed hrequest)
  | opening i =>
    simp only [unwind]
    split
    · exact .of_housing (housing_updateService w i fun _ ↦ rfl)
    · exact .same
  | drain i => exact .of_housing (housing_updateService w i fun _ ↦ rfl)
  | _ => exact .same

/-- One listener of a round is told, where it is still registered. -/
theorem rehoused_round {owner : Option Nat} {what : Published} {rest : List (Nat × Listener)} :
    Rehoused ⟨w, .round owner what rest :: stack, .returning a⟩ h id
      (resume w stack a (.round owner what rest)).world := by
  cases rest with
  | nil => exact .same
  | cons e rest =>
    obtain ⟨ticket, l⟩ := e
    simp only [resume]
    split
    · next hticket =>
      cases owner with
      | none =>
        refine ⟨.of_call rfl fun host s hl hwhat _ ↦ ?_, .of_services (services_call _ _ _ _)⟩
        subst hwhat
        exact .stray rfl
      | some i =>
        cases what with
        | token | value => exact .of_call rfl rfl (by simp)
        | state s =>
          refine ⟨.of_call (hosts_of_housing (housing_mark w i _) h) fun host s' hl hwhat _ ↦
            .told (i := i) (.inl ?_), .of_services (by simp)⟩
          cases hwhat
          simp [happening, World.resumed, hticket, hl]
    · exact .same

theorem rehoused_create {name : String} :
    Rehoused ⟨w, .creating name :: stack, .returning a⟩ h id (create w stack name).world := by
  simp only [create]
  split
  · exact .same
  · next w' i hnew =>
    obtain ⟨m, initial, -, -, rfl, rfl⟩ := newService_spec hnew
    exact ⟨.kept, .of_eq (registryOf_append w id _ rfl)⟩

theorem rehoused_createHost {name : String} {onChange : Option String} :
    Rehoused ⟨w, .creatingHost name onChange :: stack, .returning a⟩ h id (createHost w stack name onChange).world := by
  simp only [createHost]
  split
  · exact .same
  · next w' i hnew =>
    obtain ⟨m, initial, hm, hinitial, rfl, rfl⟩ := newService_spec hnew
    have hroster := registryOf_append w id { machine := m, state := initial } rfl
    simp only [List.getElem?_concat_length]
    refine ⟨?_, .of_eq ((registryOf_of_housing (housing_start _ _ _ _) id).trans hroster)⟩
    rw [hosts_of_housing (housing_start _ _ _ _) h]
    by_cases hh : h = w.hosts.length
    · subst hh
      simp only [List.getElem?_concat_length, List.getElem?_eq_none (Nat.le_refl w.hosts.length)]
      exact .made rfl rfl (by simp [happening, World.resumed, hm, hinitial])
    · exact .of_eq (getElem?_append_singleton_of_ne _ _ hh)

/-- The host keeps the state before its keeper is called with it. -/
theorem host_subscribe_keeper {k i : Nat} {host : Host} (s : Service σ) (after : Handle → List (Frame σ))
    (hk : w.hosts[k]? = some host) :
    (subscribe (w.updateHost k fun h ↦ { h with current := s.state.snapshot }) stack i s (.keeper k)
      after).world.hosts[k]? = some { host with current := s.state.snapshot } := by
  have hupdated : (w.updateHost k fun h ↦ { h with current := s.state.snapshot }).hosts[k]? =
      some { host with current := s.state.snapshot } := by
    rw [getElem?_updateHost, if_pos rfl, hk]
    rfl
  simp only [subscribe]
  rcases host_call _ _ (.keeper k) (.state s.state.snapshot) k with heq | ⟨host', s', -, hs', hhost', heq⟩
  · exact heq.trans ((hosts_of_housing (housing_mark _ _ _) _).trans hupdated)
  · cases hs'
    have hsame := (hosts_of_housing (housing_mark _ _ _) _).symm.trans hhost'
    cases hupdated.symm.trans hsame
    exact heq

/-- The keeper of a host is subscribed, which tells it of the state of the service. -/
theorem rehoused_hostStarted {k : Nat} {name : String} :
    Rehoused ⟨w, .hostStarted k name :: stack, .returning a⟩ h id (resume w stack a (.hostStarted k name)).world := by
  simp only [resume]
  cases hk : w.hosts[k]? with
  | none => exact .same
  | some host =>
    dsimp only
    cases hs : w.services[host.service]? with
    | none => exact .same
    | some s =>
      refine ⟨?_, .of_subscribe rfl hs⟩
      by_cases hkh : k = h
      · subst hkh
        have htells : Tells host.service (.keeper k) s.state.snapshot
            ⟨w, .hostStarted k name :: stack, .returning a⟩ :=
          .inr (by simp [happening, World.resumed, hk, hs])
        rw [host_subscribe_keeper s _ hk, hk]
        exact .told htells
      · refine .of_call ?_ fun _ _ hl _ _ ↦ ?_
        · refine (hosts_of_housing (housing_mark _ _ _) _).trans ?_
          exact (getElem?_updateHost w k _ h).trans (if_neg hkh)
        · cases hl
          exact absurd rfl hkh

theorem rehoused_resume {frame : Frame σ} (hrequest : request? ⟨w, frame :: stack, .returning a⟩ = none) :
    Rehoused ⟨w, frame :: stack, .returning a⟩ h id (resume w stack a frame).world := by
  cases frame with
  | awaiting next => exact .of_housing (housing_proceed hrequest)
  | attempting next => exact .of_housing (housing_proceed hrequest)
  | effects i context event rest =>
    cases rest with
    | nil => exact .same
    | cons e rest => exact .of_housing (housing_mark w i _)
  | cancelling token rest =>
    cases rest with
    | nil => exact .same
    | cons l rest => exact .of_call rfl rfl (by simp)
  | round owner what rest => exact rehoused_round
  | creating name => exact rehoused_create
  | creatingHost name onChange => exact rehoused_createHost
  | hostStarted k name => exact rehoused_hostStarted
  | drain i | moving i =>
    simp only [resume]
    split
    · exact .same
    · exact .of_housing (by simp)
  | _ =>
    simp only [resume]
    repeat' split
    all_goals exact .of_housing (by simp <;> rfl)

end

/-- Every step leaves every host and every registry of a service in one of the ways of `HostChange` and
`RosterChange`. -/
theorem step_housing (r : Run σ) (h id : Nat) : Rehoused r h id r.step.world := by
  cases hrequest : r.request? with
  | some p =>
    rw [step_of_request hrequest]
    exact rehoused_perform hrequest
  | none =>
    obtain ⟨w, stack, signal⟩ := r
    cases stack with
    | nil => exact .same
    | cons frame stack =>
      cases signal with
      | failing f => exact rehoused_unwind hrequest
      | returning a => exact rehoused_resume hrequest

/-- A host stays, with its service, and once it is closed it stays closed. -/
theorem host_stays {r : Run σ} {h : Nat} {host : Host} (hhost : r.world.hosts[h]? = some host) :
    ∃ host', r.step.world.hosts[h]? = some host' ∧ host'.service = host.service ∧ host'.onChange = host.onChange ∧
      (host.closed = true → host'.closed = true) := by
  have hchange := (r.step_housing h 0).host
  rw [hhost] at hchange
  generalize r.step.world.hosts[h]? = o at hchange
  cases hchange with
  | kept => exact ⟨_, rfl, rfl, rfl, id⟩
  | told | stray => exact ⟨_, rfl, rfl, rfl, id⟩
  | closed => exact ⟨_, rfl, rfl, rfl, fun _ ↦ rfl⟩

end Run

/-! ### The construction of a host -/

/-- A host is being made: on the stack stands the frame that will subscribe its keeper. -/
def Starts (h : Nat) (below stack : List (Frame σ)) : Prop := ∃ name, .hostStarted h name :: below <:+ stack

section

variable {r : Run σ} {h id : Nat} {below : List (Frame σ)}

theorem Starts.of_suffix {stack stack' : List (Frame σ)} (hstarts : Starts h below stack) (hsuffix : stack <:+ stack') :
    Starts h below stack' := hstarts.imp fun _ hname ↦ hname.trans hsuffix

theorem not_starts_nil : ¬ Starts h below ([] : List (Frame σ)) := by
  rintro ⟨name, hname⟩
  cases List.suffix_nil.mp hname

theorem not_starts_self {stack : List (Frame σ)} (hlength : stack.length ≤ below.length) : ¬ Starts h below stack := by
  rintro ⟨name, hname⟩
  have := hname.length_le
  simp only [List.length_cons] at this
  omega

/-- A host is being made before a step already, below the frame on top, or the step begins to make it. -/
theorem Starts.step (hstarts : Starts h below r.step.stack) : Starts h below r.stack.tail ∨
    h = r.world.hosts.length ∧ ∃ name onChange, r.stack = .creatingHost name onChange :: below := by
  obtain ⟨name, hname⟩ := hstarts
  rcases Run.suffix_step rfl hname with hbefore | hfollows
  · exact .inl ⟨name, hbefore⟩
  · cases hfollows with
    | hostStarted hstack => exact .inr ⟨rfl, _, _, hstack⟩

/-- A host whose construction begins is there from now on, for a new service. -/
theorem Run.host_of_made {name : String} {onChange : Option String}
    (hstack : r.stack = .creatingHost name onChange :: below) (hstarts : Starts h below r.step.stack) :
    ∃ host, r.step.world.hosts[r.world.hosts.length]? = some host ∧ host.service = r.world.services.length := by
  obtain ⟨w, stack, signal⟩ := r
  obtain rfl : stack = _ := hstack
  cases signal with
  | failing f => exact absurd hstarts (not_starts_self (Nat.le_refl _))
  | returning a =>
    have hstep : Run.step ⟨w, .creatingHost name onChange :: below, .returning a⟩ = createHost w below name onChange :=
      rfl
    rw [hstep] at hstarts ⊢
    unfold createHost at hstarts ⊢
    cases hnew : newService w with
    | error f =>
      rw [hnew] at hstarts
      exact absurd hstarts (not_starts_self (Nat.le_refl _))
    | ok p =>
      obtain ⟨w', i⟩ := p
      obtain ⟨m, initial, -, -, rfl, rfl⟩ := newService_spec hnew
      simp only [List.getElem?_concat_length]
      exact ⟨⟨w.services.length, onChange, initial.snapshot, false⟩,
        (hosts_of_housing (housing_start _ _ _ _) _).trans (by simp), rfl⟩

/-- The keeper of a host is subscribed where the frame of its construction is resumed. -/
theorem Run.starts_of_replayed {snapshot : Snapshot}
    (hreplayed : r.happening id = some (.replayed (.keeper h) snapshot)) :
    ∃ name below host, r.stack = .hostStarted h name :: below ∧ r.world.hosts[h]? = some host ∧ host.service = id := by
  cases happens_of_happening hreplayed with
  | @awaiting _ _ stack _ _ hbegun | @attempting _ _ stack _ _ hbegun | @caught _ _ stack _ _ hbegun =>
    -- a script subscribes listeners by their names
    obtain ⟨_, _, _, _, -, hl, -⟩ := World.request_of_begun hbegun stack
    cases hl
  | kept hhost hid hs => exact ⟨_, _, _, rfl, hhost, hid⟩

/-- Where a keeper is subscribed that was not, its host is being made. -/
theorem Run.starts_of_subscribed (hbefore : ¬ r.Subscribed id (.keeper h)) (hafter : r.step.Subscribed id (.keeper h)) :
    ∃ name below host, r.stack = .hostStarted h name :: below ∧ r.world.hosts[h]? = some host ∧ host.service = id := by
  obtain ⟨s', hs', hl'⟩ := hafter
  have hnot : ∀ s, (r.view id).service = some s → s.listeners.contains (.keeper h) = false :=
    fun s hs ↦ Bool.eq_false_iff.mpr fun hcontains ↦ hbefore ⟨s, hs, hcontains⟩
  obtain ⟨s, -, hreplayed⟩ := (r.step_turn id).replayed_of_registered hs' hl' hnot
  exact starts_of_replayed hreplayed

end

/-- A service that is started is there from now on. -/
theorem Turn.service_of_started {id : Nat} {v v' : View σ} {initial : State σ}
    (hturn : Turn id v (some (.started initial)) v') : ∃ s, v'.service = some s := by
  cases hturn with
  | hosted | started => exact ⟨_, rfl⟩

/-- A script that begins has nothing on the stack but its own frame. -/
theorem not_suffix_script {frame : Frame σ} {below : List (Frame σ)} {w : World σ} {s : Script σ}
    (hframe : frame.isPlain = false) : ¬ frame :: below <:+ (Run.script w [] s).stack := by
  intro hsuffix
  rcases List.suffix_cons_iff.mp hsuffix with heq | hsuffix
  · cases heq
    cases hframe
  · cases List.suffix_nil.mp hsuffix

/-- What holds of the hosts of a run. -/
structure Run.Housed (r : Run σ) : Prop where
  service : ∀ (h : Nat) (host : Host), r.world.hosts[h]? = some host → ∃ s, r.world.services[host.service]? = some s
  /-- A keeper is subscribed to the service of its host. -/
  keeper : ∀ h id : Nat, r.Subscribed id (.keeper h) → ∃ host : Host, r.world.hosts[h]? = some host ∧ host.service = id
  /-- A host is made once; before its keeper is subscribed, nothing of its service stands below. -/
  making : ∀ (h : Nat) (below : List (Frame σ)), Starts h below r.stack →
    (∃ host : Host, r.world.hosts[h]? = some host ∧ handling host.service below = []) ∧
      (∀ below', ¬ Starts h below' below) ∧ ∀ id, ¬ r.Subscribed id (.keeper h)

namespace Run.Housed

variable {r : Run σ} {h id : Nat} {below : List (Frame σ)}

theorem keeper_step (hr : r.Housed) (hkeeper : r.step.Subscribed id (.keeper h)) :
    ∃ host, r.step.world.hosts[h]? = some host ∧ host.service = id := by
  have hbefore : ∃ host, r.world.hosts[h]? = some host ∧ host.service = id := by
    by_cases hsubscribed : r.Subscribed id (.keeper h)
    · exact hr.keeper h id hsubscribed
    · obtain ⟨_, _, host, -, hhost, hservice⟩ := starts_of_subscribed hsubscribed hkeeper
      exact ⟨host, hhost, hservice⟩
  obtain ⟨host, hhost, hservice⟩ := hbefore
  obtain ⟨host', hhost', hsame, -⟩ := host_stays hhost
  exact ⟨host', hhost', hsame.trans hservice⟩

theorem service_stays {s : Service σ} (hs : r.world.services[id]? = some s) :
    ∃ s', r.step.world.services[id]? = some s' := ((r.step_turn id).moves hs).imp fun _ h ↦ h.1

theorem service_step (hr : r.Housed) {host : Host} (hhost : r.step.world.hosts[h]? = some host) :
    ∃ s, r.step.world.services[host.service]? = some s := by
  cases hbefore : r.world.hosts[h]? with
  | some host' =>
    obtain ⟨host'', hhost'', hsame, -⟩ := host_stays hbefore
    cases hhost.symm.trans hhost''
    obtain ⟨s, hs⟩ := hr.service h host' hbefore
    exact hsame ▸ service_stays hs
  | none =>
    have hchange := (r.step_housing h 0).host
    rw [hbefore, hhost] at hchange
    cases hchange with
    | made hstack hnew hstarted =>
      have hturn := r.step_turn r.world.services.length
      rw [hstarted] at hturn
      exact hturn.service_of_started

theorem making_step (hr : r.Housed) (hfree : ∀ id, r.world.services[id]? = none → handling id r.stack = [])
    (hstarts : Starts h below r.step.stack) : (∃ host, r.step.world.hosts[h]? = some host ∧
      handling host.service below = []) ∧ (∀ below', ¬ Starts h below' below) ∧
        ∀ id, ¬ r.step.Subscribed id (.keeper h) := by
  have htail : r.stack.tail <:+ r.stack := List.tail_suffix _
  rcases hstarts.step with hbefore | ⟨rfl, name, onChange, hstack⟩
  · obtain ⟨⟨host, hhost, hhandling⟩, honce, hunheard⟩ := hr.making h below (hbefore.of_suffix htail)
    obtain ⟨host', hhost', hsame, -⟩ := host_stays hhost
    refine ⟨⟨host', hhost', hsame ▸ hhandling⟩, honce, fun id hkeeper ↦ ?_⟩
    obtain ⟨name, below', -, hstack, -⟩ := starts_of_subscribed (hunheard id) hkeeper
    rw [hstack] at hbefore
    exact (hr.making h below' (hstack ▸ ⟨name, List.suffix_refl _⟩)).2.1 below hbefore
  · have hnone : r.world.hosts[r.world.hosts.length]? = none := List.getElem?_eq_none (Nat.le_refl _)
    obtain ⟨host, hhost, hservice⟩ := host_of_made hstack hstarts
    refine ⟨⟨host, hhost, ?_⟩, fun below' hbelow ↦ ?_, fun id hkeeper ↦ ?_⟩
    · have hnothing := hfree host.service (hservice ▸ List.getElem?_eq_none (Nat.le_refl _))
      rwa [hstack] at hnothing
    · have hbelow : Starts _ below' r.stack := hbelow.of_suffix (hstack ▸ List.suffix_cons _ _)
      obtain ⟨⟨host', hhost', -⟩, -⟩ := hr.making _ below' hbelow
      cases hhost'.symm.trans hnone
    · by_cases hsubscribed : r.Subscribed id (.keeper r.world.hosts.length)
      · obtain ⟨host', hhost', -⟩ := hr.keeper _ id hsubscribed
        cases hhost'.symm.trans hnone
      · obtain ⟨_, _, host', -, hhost', -⟩ := starts_of_subscribed hsubscribed hkeeper
        cases hhost'.symm.trans hnone

end Run.Housed

namespace History

variable {w : World σ} {r : Run σ} {past : List (Run σ)}

theorem housed (hpast : History (.idle w) past r) (hnew : w.services = []) (hnobody : w.hosts = []) : r.Housed := by
  induction hpast with
  | begin =>
    refine ⟨?_, ?_, fun h below hstarts ↦ absurd hstarts not_starts_nil⟩
    · simp [Run.idle, hnobody]
    · simp [Run.Subscribed, Run.idle, hnew]
  | @step past r hpast ih =>
    have hfree (id : Nat) (hid : r.world.services[id]? = none) : handling id r.stack = [] := by
      have hcourse := hpast.view_course hnew id
      simp only [View.Course, Run.view, hid] at hcourse
      exact hcourse.2
    exact ⟨fun h host hhost ↦ ih.service_step hhost, fun h id hkeeper ↦ ih.keeper_step hkeeper,
      fun h below hstarts ↦ ih.making_step hfree hstarts⟩
  | @call past r hpast hidle s ih =>
    refine ⟨ih.service, ih.keeper, fun h below hstarts ↦ ?_⟩
    obtain ⟨name, hname⟩ := hstarts
    exact absurd hname (not_suffix_script rfl)

/-- No round passes a state to the free registry. -/
theorem no_stray (hpast : History (.idle w) past r) (s : Snapshot) (rest : List (Nat × Listener))
    (below : List (Frame σ)) : ¬ .round none (.state s) rest :: below <:+ r.stack := by
  induction hpast generalizing rest with
  | begin => simp [Run.idle]
  | @step past r hpast ih =>
    intro hstray
    rcases Run.suffix_step rfl hstray with hbefore | hfollows
    · exact ih rest (hbefore.trans (List.tail_suffix _))
    · cases hfollows with
      | @round s e rest stack hstack => exact ih (e :: rest) (hstack ▸ List.suffix_refl _)
  | call => exact not_suffix_script rfl

/-- Handles are given out for callbacks only. -/
theorem named (hpast : History (.idle w) past r) (hnew : w.services = []) (hfree : w.registry = {})
    (hheld : w.subscriptions = []) : ∀ handle ∈ r.holdings.handles,
      ∀ e ∈ (r.world.registryOf handle.owner).entries, e.1 = handle.ticket → ∃ name, e.2 = .named name := by
  induction hpast with
  | begin => simp [Run.idle, Run.holdings, World.holdings, Holdings.handles, hheld]
  | @step past r hpast ih =>
    intro handle hhandle e he hticket
    rcases r.step_holdings.mem_handles rfl hhandle with hbefore | ⟨name, hgiven⟩
    · -- a ticket that was given out is that of an old registration
      rcases (r.step_registry handle.owner).mem he with he | hnext
      · exact ih handle hbefore e he hticket
      · have hlt := hpast.given hnew hfree hheld handle hbefore
        omega
    · have htidy := hpast.step.tidy hnew hfree handle.owner
      exact ⟨name, congrArg Prod.snd (htidy.unique he hgiven hticket)⟩
  | @call past r hpast hidle s ih =>
    intro handle hhandle
    rw [Run.holdings_script, ← hidle] at hhandle
    exact ih handle hhandle

/-- A keeper stays subscribed until its service is stopped. -/
theorem keeps (hpast : History (.idle w) past r) (hnew : w.services = []) (hfree : w.registry = {})
    (hheld : w.subscriptions = []) {h id : Nat} (hkeeper : r.Subscribed id (.keeper h)) :
    r.step.Subscribed id (.keeper h) ∨ r.happening id = some .stopped := by
  have hsubscribed {r : Run σ} (s : Service σ) (hs : r.world.services[id]? = some s) :
      r.Subscribed id (.keeper h) ↔ ∃ e ∈ (r.world.registryOf (some id)).entries, e.2 = .keeper h := by
    simp [Run.Subscribed, hs, Run.registryOf_of_service hs, Registry.contains_iff]
  have ⟨s, hs, _⟩ := hkeeper
  obtain ⟨e, he, hl⟩ := (hsubscribed s hs).mp hkeeper
  obtain ⟨s', hs'⟩ := Run.Housed.service_stays hs
  rw [hsubscribed s' hs']
  have hchange := (r.step_housing h id).roster
  generalize r.step.world.registryOf (some id) = after at hchange
  cases hchange with
  | kept => exact .inl ⟨e, he, hl⟩
  | added => exact .inl ⟨e, Registry.mem_add he, hl⟩
  | @unsubscribed handle hunsubscribes howner =>
    refine .inl ⟨e, Registry.mem_remove.mpr ⟨he, fun hticket ↦ ?_⟩, hl⟩
    obtain ⟨name, hnamed⟩ := hpast.named hnew hfree hheld handle hunsubscribes.step.1 e (howner ▸ he) hticket
    cases hl.symm.trans hnamed
  | cleared hstopped => exact .inr (hstopped.resolve_right (by simp [hs]))

end History

/-- A keeper that is not subscribed gets so only where its host is being made. -/
theorem Run.not_subscribed_step {r : Run σ} {h id : Nat} (hkeeper : ¬ r.Subscribed id (.keeper h))
    (hmade : ∀ below, ¬ Starts h below r.stack) : ¬ r.step.Subscribed id (.keeper h) := by
  intro hafter
  obtain ⟨name, below, -, hstack, -⟩ := starts_of_subscribed hkeeper hafter
  exact hmade below ⟨name, hstack ▸ List.suffix_refl _⟩

end Statechart
