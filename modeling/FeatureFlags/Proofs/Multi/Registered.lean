import FeatureFlags.Proofs.Lifecycle.Keeping
import FeatureFlags.Proofs.Multi.Forwarded
import FeatureFlags.Proofs.Multi.Starts
import FeatureFlags.Proofs.Registry.Statuses
import FeatureFlags.Proofs.Task.Rely

/-!
# A multi-provider in the registry

When a multi-provider is bound, the starts of its sub-providers come to the registry by two
ways.  Each of them is recorded in the relay, whose aggregate is then the worst status there is;
and the multi-provider's own start ends, which the registry is told as an event like that of any
other provider.  The second way loses what kind of error it was: where a sub-provider has failed
for good the aggregate is FATAL, and the registry has ERROR.

## Main definitions

* `Api.Standing` — what the registry and the relay hold about a multi-provider.
* `Api.Undisturbed` — a change of the state that leaves the standing of an instance as it is.
* `Api.Unmeddled` — nobody has a hand in the standing of a multi-provider but its own start.

## Main results

* `Api.registered_after_start` — **what the registry and the relay hold once a multi-provider has
  been bound and started.**
-/

namespace FeatureFlags

namespace Api

open Multi (Relay SubProvider aggregateAfter reportedAfter statusAfter)
open FeatureFlags.Task (Ends Guarantees guarantees_done guarantees_each guarantees_modify)

variable {W : Type} {host : Host W} {id : ProviderId} {s s' : State W}

/-! ### Standing -/

/-- What the registry and the relay hold about a multi-provider. -/
structure Standing where
  bound : Bool
  status : ProviderStatus
  statuses : Table String ProviderStatus
  aggregate : ProviderStatus
deriving DecidableEq

/-- The standing of an instance. -/
def standing (id : ProviderId) (s : State W) : Standing where
  bound := s.registry.isBound id
  status := s.registry.statusOf id
  statuses := ((relayCell id).get s).statuses
  aggregate := ((relayCell id).get s).aggregate

/-- A change of the state that leaves the standing of an instance as it is. -/
def Undisturbed (id : ProviderId) (s s' : State W) : Prop := standing id s' = standing id s

theorem undisturbed_refl (id : ProviderId) (s : State W) : Undisturbed id s s := rfl

theorem Undisturbed.trans {s'' : State W} (h : Undisturbed id s s')
    (h' : Undisturbed id s' s'') : Undisturbed id s s'' :=
  Eq.trans h' h

/-- Nobody has a hand in the standing of a multi-provider but its own start: neither its
sub-providers, as long as they are started, nor the provider whose place it takes, nor the
handlers that are told of it. -/
structure Unmeddled (host : Host W) (id : ProviderId) (m : MultiProvider (State W)) : Prop where
  attach : ∀ sub ∈ m.subs, ∀ emitter, (sub.provider.attach emitter).Guarantees (Undisturbed id)
  startUp : ∀ sub ∈ m.subs, ∀ ctx, (sub.provider.startUp ctx).Guarantees (Undisturbed id)
  detach : ∀ s other, other ≠ id → (host.providerOf s other).detach.Guarantees (Undisturbed id)
  shutDown : ∀ s other, other ≠ id →
    (host.providerOf s other).shutDown.Guarantees (Undisturbed id)
  handle : ∀ handler details, (host.handle handler details).Guarantees (Undisturbed id)

/-- To put another relay in the place of the one of an instance. -/
theorem standing_set_relay (id : ProviderId) (relay : Relay) (s : State W) :
    standing id ((relayCell id).set relay s) =
      { standing id s with statuses := relay.statuses, aggregate := relay.aggregate } := by
  simp only [standing, relayCell, Table.find?_put_self, Option.getD_some]

/-! ### Steps that leave the standing alone -/

theorem log_undisturbed (host : Host W) (id : ProviderId) (entry : LogEntry) :
    (Task.log host.log entry).Guarantees (Undisturbed id) :=
  guarantees_modify fun _ => rfl

/-- To release another instance. -/
theorem release_undisturbed {other : ProviderId} (hne : other ≠ id) :
    (registryCell.modify (fun r => r.release other) : Task (State W) Unit).Guarantees
      (Undisturbed id) := by
  refine guarantees_modify fun s => ?_
  have hbound : (s.registry.release other).isBound id = s.registry.isBound id :=
    Registry.isBound_release s.registry other
  have hstatus : (s.registry.release other).statusOf id = s.registry.statusOf id :=
    Registry.statusOf_release_of_ne hne
  simp only [Undisturbed, standing, registryCell, relayCell, hbound, hstatus]

theorem shutDownProvider_undisturbed {m : MultiProvider (State W)} (h : Unmeddled host id m)
    {p : ProviderRef} (hne : p.id ≠ id) :
    (shutDownProvider host p).Guarantees (Undisturbed id) := by
  refine Task.guarantees_get_bind fun s => ?_
  refine Guarantees.bind (h.detach s p.id hne) fun _ => ?_
  refine Guarantees.bind (h.shutDown s p.id hne) fun outcome => ?_
  exact Guarantees.bind (log_undisturbed host id _) fun _ => release_undisturbed hne

/-- To attach a multi-provider changes the outlet of its relay, and what its sub-providers
change. -/
theorem attach_undisturbed {m : MultiProvider (State W)} (h : Unmeddled host id m)
    (emitter : Emitter) :
    ((m.toProvider host.log (relayCell id)).attach emitter).Guarantees (Undisturbed id) := by
  refine Guarantees.bind (guarantees_modify fun s => ?_) fun _ => ?_
  · simp only [Undisturbed, standing, relayCell, Table.find?_put_self, Option.getD_some]
  · exact guarantees_each fun sub hsub => h.attach sub hsub _

/-- What a task leaves undisturbed is undisturbed when it ends. -/
theorem ensures_undisturbed {α : Type} {t : Task (State W) α}
    (h : t.Guarantees (Undisturbed id)) (s : State W) :
    t.Ensures (Undisturbed id) (fun _ s' => Undisturbed id s s') s :=
  h.ensures (undisturbed_refl id) Undisturbed.trans s

/-! ### The start of a multi-provider -/

section Start

variable {m : MultiProvider (State W)} {p : ProviderRef} {ctx : EvaluationContext}
  {ends : SubProvider (State W) → Outcome Unit → Prop}

/-- An event of an instance that is bound changes its status, and after that nobody does. -/
theorem dispatch_ensures (h : Unmeddled host id m) (hbound : s.registry.isBound id = true)
    (raised : RaisedEvent) :
    (dispatch host id raised).Ensures (Undisturbed id)
      (fun _ s' => standing id s' = { standing id s with
        status := (s.registry.statusOf id).onEvent raised.event raised.details.errorCode }) s := by
  obtain ⟨after, hafter⟩ :=
    Registry.exists_announce hbound raised.event raised.details.errorCode
  have hnext : standing id { s with registry := after } = { standing id s with
      status := (s.registry.statusOf id).onEvent raised.event raised.details.errorCode } := by
    simp only [standing, relayCell, Registry.isBound_announce hafter,
      Registry.statusOf_announce_self hafter]
  rw [dispatch, Task.bind_def, Task.ensures_get_bind, hafter]
  dsimp only
  rw [Task.bind_def, Task.ensures_bind]
  refine (Task.ensures_modify _ _ _).mpr ?_
  have htell : ((lookUpRecipients raised.event (serves after id)).bind fun recipients =>
      Task.each (runHandler host raised.event (nameProvider after id raised.details))
        recipients).Guarantees (Undisturbed id) :=
    tellRecipients_guarantees (fun _ _ => rfl) h.handle _ _ _
  refine Task.Ensures.mono (ensures_undisturbed ?_ _) fun _ s' hs' => Eq.trans hs' hnext
  split
  · exact Guarantees.bind (log_undisturbed host id _) fun _ => htell
  · exact htell

/-- That the starts are recorded changes the standing of the multi-provider as it changes the
relay. -/
theorem recordStarts_undisturbed (id : ProviderId) (names : List String)
    (outcomes : List (Outcome Unit)) (s : State W) :
    (Task.each (fun (sub, result) => MultiProvider.recordStart (relayCell id) sub result)
      (names.zip (outcomes.map MultiProvider.guarded))).Ensures (Undisturbed id)
        (fun _ s' =>
          let relay := ((relayCell id).get s).started names outcomes
          standing id s' = { standing id s with
            statuses := relay.statuses, aggregate := relay.aggregate }) s := by
  have hset : ∀ (r r' : Relay) (s' : State W),
      (relayCell id).get s' = r ∧ standing id s' = { standing id s with
        statuses := r.statuses, aggregate := r.aggregate } →
      (relayCell id).get ((relayCell id).set r' s') = r' ∧
        standing id ((relayCell id).set r' s') = { standing id s with
          statuses := r'.statuses, aggregate := r'.aggregate } := by
    intro r r' s' h
    rw [standing_set_relay, h.2]
    exact ⟨relayCell_get_set id r' s', rfl⟩
  exact (MultiProvider.recordStarts_ensures (P := fun r s' => (relayCell id).get s' = r ∧
    standing id s' = { standing id s with statuses := r.statuses, aggregate := r.aggregate })
    (fun _ _ h => h.1) hset names outcomes ⟨rfl, rfl⟩).mono fun _ _ h => h.2

/-- The sub-providers are started side by side; how each start ended is recorded in the relay,
and the multi-provider's own start fails exactly if one of them did, with an error of no special
kind. -/
theorem startUp_ensures (h : Unmeddled host id m)
    (hends : ∀ sub ∈ m.subs, (sub.provider.startUp ctx).Ends (ends sub))
    (hsome : m.subs ≠ []) (hnames : (m.subs.map (·.name)).Nodup)
    (hkeys : Table.keys ((relayCell id).get s).statuses = m.subs.map (·.name)) :
    (m.startUp (relayCell id) ctx).Ensures (Undisturbed id)
      (fun o s' => ∃ outcomes, List.Forall₂ ends m.subs outcomes ∧
        standing id s' = { standing id s with
          statuses := (m.subs.map (·.name)).zip (outcomes.map statusAfter)
          aggregate := aggregateAfter outcomes } ∧
        ((outcomes.any Outcome.isFailure = false ∧ o = .returned ()) ∨
          (outcomes.any Outcome.isFailure = true ∧ ∃ text, o = .failed (.general text)))) s := by
  rw [MultiProvider.startUp, Task.bind_def, Task.ensures_bind]
  have hall : (Task.all (m.subs.map fun sub => sub.provider.startUp ctx)).Guarantees
      (Undisturbed id) := by
    refine Task.guarantees_all fun t ht => ?_
    obtain ⟨sub, hsub, rfl⟩ := List.mem_map.mp ht
    exact h.startUp sub hsub ctx
  have hvalues := (Task.ends_all hends).ensures (Undisturbed id) s
  refine (hvalues.and (ensures_undisturbed hall s)).mono ?_
  rintro outcomes s₁ ⟨houtcomes, hs₁⟩
  dsimp only
  rw [Task.bind_def, Task.ensures_bind]
  refine (recordStarts_undisturbed id _ outcomes s₁).mono ?_
  intro _ s₂ hs₂
  have hlength : (m.subs.map (·.name)).length = outcomes.length := by
    rw [List.length_map]
    exact houtcomes.length_eq
  have hkeys₁ : Table.keys ((relayCell id).get s₁).statuses = m.subs.map (·.name) := by
    rw [← hkeys]
    exact congrArg (fun standing => Table.keys standing.statuses) hs₁
  have hnil : m.subs.map (·.name) ≠ [] := fun heq => hsome (List.map_eq_nil_iff.mp heq)
  have hrecorded : standing id s₂ = { standing id s with
      statuses := (m.subs.map (·.name)).zip (outcomes.map statusAfter)
      aggregate := aggregateAfter outcomes } := by
    rw [hs₂, Relay.statuses_started hkeys₁ hnames hlength,
      Relay.aggregate_started hkeys₁ hnames hlength hnil, show standing id s₁ = _ from hs₁]
  split
  next hclauses =>
    have hnone := (Multi.clauses_eq_nil_iff hlength).mp hclauses
    exact ⟨outcomes, houtcomes, hrecorded, .inl ⟨Bool.eq_false_iff.mpr hnone, rfl⟩⟩
  next hclauses =>
    refine ⟨outcomes, houtcomes, hrecorded, .inr ⟨?_, _, rfl⟩⟩
    by_contra hnone
    exact hclauses ((Multi.clauses_eq_nil_iff hlength).mpr hnone)

/-- What a multi-provider's standing has become once its start has ended: the relay holds how
each sub-provider's start ended, and the registry that all went well or that some did not. -/
def Started (m : MultiProvider (State W)) (ends : SubProvider (State W) → Outcome Unit → Prop)
    (standing : Standing) : Prop :=
  ∃ outcomes, List.Forall₂ ends m.subs outcomes ∧
    standing = {
      bound := true
      status := reportedAfter outcomes
      statuses := (m.subs.map (·.name)).zip (outcomes.map statusAfter)
      aggregate := aggregateAfter outcomes }

/-- What is announced of a start makes a provider that was not ready one that is ready or one in
error; the kind of the error is lost with the texts of the sub-providers. -/
theorem started_of_conclusion {outcomes : List (Outcome Unit)} {o : Outcome Unit} (name : String)
    (h : (outcomes.any Outcome.isFailure = false ∧ o = .returned ()) ∨
      (outcomes.any Outcome.isFailure = true ∧ ∃ text, o = .failed (.general text))) :
    let raised := startUpEvent name (o.toExceptWith "provider initialize panicked: ")
    ProviderStatus.notReady.onEvent raised.event raised.details.errorCode =
      reportedAfter outcomes := by
  rcases h with ⟨hnone, rfl⟩ | ⟨hsome, text, rfl⟩
  · rw [reportedAfter, hnone]
    rfl
  · rw [reportedAfter, hsome]
    rfl

theorem startUpProvider_ensures (h : Unmeddled host p.id m)
    (hprovider : host.providerOf s p.id = m.toProvider host.log (relayCell p.id))
    (hends : ∀ sub ∈ m.subs, (sub.provider.startUp ctx).Ends (ends sub))
    (hsome : m.subs ≠ []) (hnames : (m.subs.map (·.name)).Nodup)
    (hkeys : Table.keys (standing p.id s).statuses = m.subs.map (·.name))
    (hbound : (standing p.id s).bound = true) (hstatus : (standing p.id s).status = .notReady) :
    (startUpProvider host ctx p).Ensures (Undisturbed p.id)
      (fun _ s' => Started m ends (standing p.id s')) s := by
  rw [startUpProvider, Task.bind_def, Task.ensures_get_bind, hprovider, Task.bind_def,
    Task.ensures_bind]
  refine (ensures_undisturbed (attach_undisturbed h _) s).mono ?_
  intro _ s₁ hs₁
  rw [← show standing p.id s₁ = _ from hs₁] at hkeys hbound hstatus
  rw [Task.bind_def, Task.ensures_bind]
  refine (startUp_ensures h hends hsome hnames hkeys).mono ?_
  rintro o s₂ ⟨outcomes, houtcomes, hs₂, ho⟩
  rw [concludeStartUp, Task.bind_def, Task.ensures_bind]
  refine (ensures_undisturbed (log_undisturbed host p.id _) s₂).mono ?_
  intro _ s₃ hs₃
  have hs₃' : standing p.id s₃ = _ := Eq.trans hs₃ hs₂
  have hbound₃ : s₃.registry.isBound p.id = true := by
    rw [← hbound]
    exact congrArg Standing.bound hs₃'
  have hstatus₃ : s₃.registry.statusOf p.id = .notReady := by
    rw [← hstatus]
    exact congrArg Standing.status hs₃'
  refine (dispatch_ensures h hbound₃ _).mono ?_
  intro _ s₄ hs₄
  refine ⟨outcomes, houtcomes, ?_⟩
  rw [hs₄, hs₃', hstatus₃]
  dsimp only
  rw [hbound, started_of_conclusion p.name ho]

/-- **What the registry and the relay hold once a multi-provider has been bound and started**,
whatever is done meanwhile to anything but its own standing.  The sub-providers' starts end in
some of the ways that theirs can end; the aggregate of the relay is the worst status they lead to,
and the registry has READY or ERROR.  The two are the same status exactly if no start failed for
good. -/
theorem registered_after_start (host : Host W) (slot : Slot) (p : ProviderRef)
    (m : MultiProvider (State W)) (ends : SubProvider (State W) → Outcome Unit → Prop)
    (s : State W)
    (hprovider : ∀ s, host.providerOf s p.id = m.toProvider host.log (relayCell p.id))
    (hunbound : s.registry.isBound p.id = false)
    (hsome : m.subs ≠ []) (hnames : (m.subs.map (·.name)).Nodup)
    (hkeys : Table.keys ((relayCell p.id).get s).statuses = m.subs.map (·.name))
    (hends : ∀ sub ∈ m.subs, ∀ ctx, (sub.provider.startUp ctx).Ends (ends sub))
    (hunmeddled : Unmeddled host p.id m) :
    (bindProvider host slot p).Ensures (Undisturbed p.id)
      (fun _ s' => ∃ outcomes, List.Forall₂ ends m.subs outcomes ∧
        let relay := (relayCell p.id).get s'
        relay.statuses = (m.subs.map (·.name)).zip (outcomes.map statusAfter) ∧
        relay.aggregate = .worst (relay.statuses.map (·.2)) ∧
        relay.aggregate = aggregateAfter outcomes ∧
        s'.registry.statusOf p.id = reportedAfter outcomes ∧
        (s'.registry.statusOf p.id = relay.aggregate ↔
          outcomes.any Outcome.isFatal = false)) s := by
  obtain ⟨orphans, horphans, hjobs⟩ := Registry.jobs_bind slot hunbound
  have hbound : (s.registry.bind slot p).1.isBound p.id = true := by
    rw [Registry.isBound_bind]
    exact Registry.isBound_occupy_self
  have hstatus : (s.registry.bind slot p).1.statusOf p.id = .notReady :=
    Registry.statusOf_bind_self hunbound
  rw [bindProvider, Task.bind_def, Task.ensures_get_bind]
  rcases hbind : s.registry.bind slot p with ⟨registry, jobs⟩
  rw [hbind] at hjobs hbound hstatus
  dsimp only at hjobs hbound hstatus ⊢
  rw [Task.bind_def, Task.ensures_bind]
  refine (Task.ensures_modify _ _ _).mpr ?_
  rw [Task.bind_def, Task.ensures_bind]
  refine (ensures_undisturbed (log_undisturbed host p.id _) _).mono ?_
  intro _ s₁ hs₁
  have hstanding : standing p.id s₁ = standing p.id { s with registry } := hs₁
  rw [hjobs, Task.each_append, Task.ensures_bind]
  have hshutDowns : (Task.each (perform host s.scope.context)
      (orphans.map LifecycleJob.shutDown)).Guarantees (Undisturbed p.id) := by
    refine guarantees_each fun job hjob => ?_
    obtain ⟨old, hold, rfl⟩ := List.mem_map.mp hjob
    exact shutDownProvider_undisturbed hunmeddled (horphans old hold)
  refine (ensures_undisturbed hshutDowns s₁).mono ?_
  intro _ s₂ hs₂
  replace hstanding : standing p.id s₂ = _ := Eq.trans hs₂ hstanding
  rw [Task.each_cons, Task.each_nil, Task.ensures_bind]
  refine (startUpProvider_ensures hunmeddled (hprovider s₂)
    (fun sub hsub => hends sub hsub _) hsome hnames ?_ ?_ ?_).mono ?_
  · rw [hstanding]
    exact hkeys
  · rw [hstanding]
    exact hbound
  · rw [hstanding]
    exact hstatus
  · rintro _ s₃ ⟨outcomes, houtcomes, hs₃⟩
    have hlength : (m.subs.map (·.name)).length = (outcomes.map statusAfter).length := by
      rw [List.length_map, List.length_map]
      exact houtcomes.length_eq
    have hstatuses : ((relayCell p.id).get s₃).statuses = _ := congrArg Standing.statuses hs₃
    have haggregate : ((relayCell p.id).get s₃).aggregate = _ := congrArg Standing.aggregate hs₃
    have hregistry : s₃.registry.statusOf p.id = _ := congrArg Standing.status hs₃
    refine ⟨outcomes, houtcomes, hstatuses, ?_, haggregate, hregistry, ?_⟩
    · rw [haggregate, hstatuses]
      dsimp only
      rw [List.map_snd_zip (Nat.le_of_eq hlength.symm), Multi.worst_statusAfter]
    · rw [haggregate, hregistry]
      exact Multi.reportedAfter_eq_aggregateAfter_iff outcomes

end Start

/-! ### Two sub-providers -/

/-- A multi-provider of a sub-provider that is started at once, in some way, and one whose start
has to wait. -/
def hastyAndSlow (o : Outcome Unit) : MultiProvider (State Unit) where
  id := .application 0
  subs :=
    [⟨"hasty", { NoOp.provider _ with startUp := fun _ => .done o }⟩,
      ⟨"slow", { NoOp.provider _ with startUp := fun _ => .suspend (.done (.returned ())) }⟩]
  strategy := .firstMatch _
  hooks := []

/-- An application of that multi-provider. -/
def hastyHost (o : Outcome Unit) : Host Unit where
  provider _
    | 0 => (hastyAndSlow o).toProvider (fun _ s => s) (relayCell (.application 0))
    | _ + 1 => NoOp.provider _
  hook _ _ := .silent
  handle _ _ := .done none
  receive _ _ := .done ()
  journal _ world := world

/-- The instance before the multi-provider is bound. -/
def beforeBinding : State Unit :=
  (relayCell (.application 0)).set (.ofNames ["hasty", "slow"]) (.fresh ())

/-- The instance once the multi-provider is its default and has been started. -/
def afterBinding (o : Outcome Unit) : State Unit :=
  ((bindProvider (hastyHost o) .default ⟨.application 0, MultiProvider.name⟩).run
    beforeBinding).2

/-- What holds of both sub-providers. -/
theorem forall_hastyAndSlow {o : Outcome Unit} {P : SubProvider (State Unit) → Prop}
    (hhasty : P ⟨"hasty", { NoOp.provider _ with startUp := fun _ => .done o }⟩)
    (hslow : P ⟨"slow",
      { NoOp.provider _ with startUp := fun _ => .suspend (.done (.returned ())) }⟩) :
    ∀ sub ∈ (hastyAndSlow o).subs, P sub := by
  intro sub hsub
  rcases List.mem_cons.mp hsub with rfl | hsub
  · exact hhasty
  · rw [List.mem_singleton.mp hsub]
    exact hslow

/-- Every other instance is one that does nothing. -/
theorem providerOf_hastyHost (o : Outcome Unit) (s : State Unit) {other : ProviderId}
    (hne : other ≠ .application 0) : (hastyHost o).providerOf s other = NoOp.provider _ := by
  match other, hne with
  | .builtin _, _ => rfl
  | .application 0, hne => exact absurd rfl hne
  | .application (_ + 1), _ => rfl

theorem hastyHost_unmeddled (o : Outcome Unit) :
    Unmeddled (hastyHost o) (.application 0) (hastyAndSlow o) where
  attach := forall_hastyAndSlow (fun _ => guarantees_done ()) fun _ => guarantees_done ()
  startUp := forall_hastyAndSlow (fun _ => guarantees_done o)
    fun _ => Task.guarantees_suspend (guarantees_done _)
  detach s other hne := by
    rw [providerOf_hastyHost o s hne]
    exact guarantees_done ()
  shutDown s other hne := by
    rw [providerOf_hastyHost o s hne]
    exact guarantees_done _
  handle _ _ := guarantees_done _

/-- The hasty one panics: the registry and the relay both hold that something is wrong. -/
theorem registered_when_hasty_panics :
    let after := afterBinding (.panicked .textless)
    let relay := (relayCell (.application 0)).get after
    relay.statuses = [("hasty", .error), ("slow", .ready)] ∧
      after.registry.statusOf (.application 0) = .error ∧ relay.aggregate = .error := by
  intro after relay
  have hends : ∀ sub ∈ (hastyAndSlow (.panicked .textless)).subs, ∀ ctx,
      (sub.provider.startUp ctx).Ends
        (fun o => o = if sub.name = "hasty" then .panicked .textless else .returned ()) :=
    forall_hastyAndSlow (fun _ => Task.ends_done rfl) fun _ _ _ _ => rfl
  obtain ⟨outcomes, houtcomes, hstatuses, -, haggregate, hstatus, -⟩ :=
    Task.run_of_ensures (undisturbed_refl (.application 0))
      (registered_after_start (hastyHost (.panicked .textless)) .default
        ⟨.application 0, MultiProvider.name⟩ (hastyAndSlow (.panicked .textless)) _ beforeBinding
        (fun _ => rfl) (by decide) (by simp [hastyAndSlow]) (by decide) (by decide) hends
        (hastyHost_unmeddled _))
  cases houtcomes with
  | cons hhasty hrest =>
    cases hrest with
    | cons hslow hnil =>
      cases hnil
      subst hhasty hslow
      exact ⟨hstatuses, hstatus, haggregate⟩

/-- The hasty one fails for good: the aggregate of the relay is FATAL, but the registry has
ERROR. -/
theorem registry_misses_fatal_start :
    let after := afterBinding (.failed ⟨.providerFatal, some "gone"⟩)
    let relay := (relayCell (.application 0)).get after
    relay.statuses = [("hasty", .fatal), ("slow", .ready)] ∧ relay.aggregate = .fatal ∧
      after.registry.statusOf (.application 0) = .error := by
  decide +kernel

end Api

end FeatureFlags
