import FeatureFlags.Proofs.Status.History
import FeatureFlags.Provider.Multi

/-!
# What an event of a sub-provider does to the relay

The relay of a multi-provider keeps the status of each sub-provider and passes on an event about
status only when the worst of them changes.  Once every sub-provider has started there are three
things that an event can do, and what is passed on makes the old aggregate the new one.

## Main definitions

* `Multi.Relay.Settled` — every sub-provider has started, and the aggregate is their worst status.
* `Multi.Relay.Taken` — what an event of a sub-provider can do to a relay.
* `Multi.Relay.Awaits` — some sub-providers have not started yet.

## Main results

* `Multi.Relay.Settled.taken` — **every event of a sub-provider does one of these things.**
* `Multi.Relay.settled_started` — the relay is settled once every start has ended.
-/

namespace FeatureFlags

/-- What an event says about status. -/
def RaisedEvent.said (raised : RaisedEvent) : ProviderEvent × Option ErrorCode :=
  (raised.event, raised.details.errorCode)

namespace Multi

namespace Relay

/-- Every sub-provider has started, and the aggregate is the worst of their statuses. -/
structure Settled (relay : Relay) : Prop where
  inhabited : relay.statuses ≠ []
  aggregate : relay.aggregate = .worst (relay.statuses.map (·.2))
  started : ∀ status ∈ relay.statuses.map (·.2), status ≠ .notReady

/-! ### One event -/

/-- The relay when the status of a sub-provider has followed its event. -/
def follow (relay : Relay) (name : String) (raised : RaisedEvent) : Relay :=
  relay.setStatus name ((relay.statusOf name).onEvent raised.event raised.details.errorCode)

/-- What is passed on under the name of a sub-provider. -/
def tagged (event : ProviderEvent) (name : String) (raised : RaisedEvent) : RaisedEvent :=
  ⟨event, raised.details.withProviderName name⟩

/-- What an event of a sub-provider can do to a relay, and what is passed on of it. -/
inductive Taken (relay : Relay) (name : String) (raised : RaisedEvent) :
    Relay → Option RaisedEvent → Prop where
  | configuration (hevent : raised.event = .configurationChanged) :
      Taken relay name raised relay (some (tagged .configurationChanged name raised))
  | unnoticed (hevent : raised.event ≠ .configurationChanged)
      (hsame : (relay.follow name raised).aggregate = relay.aggregate) :
      Taken relay name raised (relay.follow name raised) none
  | passed {event : ProviderEvent} (hevent : raised.event ≠ .configurationChanged)
      (hchanged : (relay.follow name raised).aggregate ≠ relay.aggregate)
      (hstands : (relay.follow name raised).aggregate.matchingEvent? = some event)
      (hstep : relay.aggregate.onEvent event raised.details.errorCode =
        (relay.follow name raised).aggregate) :
      Taken relay name raised (relay.follow name raised) (some (tagged event name raised))

section Event

variable {relay : Relay} {name : String}

/-- The statuses around the one of a sub-provider, which is the only one that is set. -/
theorem exists_around (hname : name ∈ Table.keys relay.statuses) :
    ∃ before after, relay.statuses.map (·.2) = before ++ relay.statusOf name :: after ∧
      ∀ status, (relay.setStatus name status).statuses.map (·.2) = before ++ status :: after := by
  obtain ⟨before, old, after, hfind, hstatuses, hput⟩ := Table.exists_put_of_mem_keys hname
  refine ⟨before.map (·.2), after.map (·.2), ?_, fun status => ?_⟩
  · rw [statusOf, hfind, Option.getD_some, hstatuses, List.map_append, List.map_cons]
  · rw [setStatus]
    dsimp only
    rw [hput, List.map_append, List.map_cons]

theorem keys_setStatus (hname : name ∈ Table.keys relay.statuses) (status : ProviderStatus) :
    Table.keys (relay.setStatus name status).statuses = Table.keys relay.statuses := by
  obtain ⟨before, old, after, -, hstatuses, hput⟩ := Table.exists_put_of_mem_keys hname
  rw [setStatus]
  dsimp only
  rw [hput, hstatuses, Table.keys, Table.keys, List.map_append, List.map_append, List.map_cons,
    List.map_cons]

theorem statusOf_setStatus_self (relay : Relay) (name : String) (status : ProviderStatus) :
    (relay.setStatus name status).statusOf name = status := by
  rw [statusOf, setStatus, Table.find?_put_self, Option.getD_some]

theorem statusOf_setStatus_of_ne {other : String} (h : other ≠ name) (relay : Relay)
    (status : ProviderStatus) :
    (relay.setStatus name status).statusOf other = relay.statusOf other := by
  rw [statusOf, setStatus, Table.find?_put_of_ne h.symm, statusOf]

theorem Settled.statusOf_ne (h : relay.Settled) (hname : name ∈ Table.keys relay.statuses) :
    relay.statusOf name ≠ .notReady := by
  obtain ⟨before, after, hstatuses, -⟩ := exists_around hname
  refine h.started _ ?_
  rw [hstatuses]
  exact List.mem_append_right _ List.mem_cons_self

/-- A settled relay stays settled when a sub-provider has another status, unless it has not
started. -/
theorem Settled.setStatus (h : relay.Settled) (hname : name ∈ Table.keys relay.statuses)
    {status : ProviderStatus} (hstatus : status ≠ .notReady) :
    (relay.setStatus name status).Settled := by
  obtain ⟨before, after, hstatuses, hset⟩ := exists_around hname
  refine ⟨fun hnil => ?_, rfl, ?_⟩
  · have hmap := hset status
    rw [hnil, List.map_nil] at hmap
    exact absurd hmap.symm (List.append_ne_nil_of_right_ne_nil _ (List.cons_ne_nil _ _))
  · intro other hother
    rw [hset] at hother
    rcases List.mem_append.mp hother with hbefore | hrest
    · exact h.started other (hstatuses ▸ List.mem_append_left _ hbefore)
    rcases List.mem_cons.mp hrest with rfl | hafter
    · exact hstatus
    · refine h.started other (hstatuses ▸ List.mem_append_right _ ?_)
      exact List.mem_cons_of_mem _ hafter

/-- The aggregate of a settled relay weighs the status of a sub-provider against the others, and
does so when that status is another one. -/
theorem Settled.exists_others (h : relay.Settled) (hname : name ∈ Table.keys relay.statuses) :
    ∃ others, others ≠ .notReady ∧ relay.aggregate = .worse (relay.statusOf name) others ∧
      ∀ status, (relay.setStatus name status).aggregate = .worse status others := by
  obtain ⟨before, after, hstatuses, hset⟩ := exists_around hname
  refine ⟨.worst (before ++ after), ?_, ?_, fun status => ?_⟩
  · refine ProviderStatus.worst_ne_notReady fun other hother => h.started other ?_
    rw [hstatuses, List.mem_append, List.mem_cons]
    rcases List.mem_append.mp hother with hbefore | hafter
    · exact .inl hbefore
    · exact .inr (.inr hafter)
  · rw [h.aggregate, hstatuses, ProviderStatus.worst_insert]
  · change ProviderStatus.worst ((relay.setStatus name status).statuses.map (·.2)) = _
    rw [hset, ProviderStatus.worst_insert]

theorem Settled.follow (h : relay.Settled) (hname : name ∈ Table.keys relay.statuses)
    (raised : RaisedEvent) : (relay.follow name raised).Settled :=
  h.setStatus hname (ProviderStatus.onEvent_ne_notReady (h.statusOf_ne hname) _ _)

/-- An event about status is not passed on if the aggregate stays as it is. -/
theorem receive_same {raised : RaisedEvent} (hevent : raised.event ≠ .configurationChanged)
    (hsame : (relay.follow name raised).aggregate = relay.aggregate) :
    relay.receive name raised = (relay.follow name raised, none) := by
  unfold receive
  simp only [if_neg hevent]
  exact if_pos hsame

/-- If the aggregate changes, the event that the new one stands for is passed on. -/
theorem receive_changed {raised : RaisedEvent} (hevent : raised.event ≠ .configurationChanged)
    (hchanged : (relay.follow name raised).aggregate ≠ relay.aggregate) :
    relay.receive name raised = (relay.follow name raised,
      (relay.follow name raised).aggregate.matchingEvent?.map (tagged · name raised)) := by
  unfold receive
  simp only [if_neg hevent]
  exact if_neg hchanged

theorem receive_outlet (relay : Relay) (name : String) (raised : RaisedEvent) :
    (relay.receive name raised).1.outlet = relay.outlet := by
  unfold receive
  dsimp only
  split
  · rfl
  · split <;> rfl

/-- **An event of a sub-provider** is passed on as it is, is not noticed from outside, or is passed
on as the event that makes the old aggregate the new one. -/
theorem Settled.taken (h : relay.Settled) (hname : name ∈ Table.keys relay.statuses)
    (raised : RaisedEvent) :
    Taken relay name raised (relay.receive name raised).1 (relay.receive name raised).2 := by
  by_cases hevent : raised.event = .configurationChanged
  · have hreceive : relay.receive name raised =
        (relay, some (tagged .configurationChanged name raised)) := by
      simp [receive, hevent, tagged]
    rw [hreceive]
    exact .configuration hevent
  by_cases hsame : (relay.follow name raised).aggregate = relay.aggregate
  · rw [receive_same hevent hsame]
    exact .unnoticed hevent hsame
  · obtain ⟨others, hothers, haggregate, hset⟩ := h.exists_others hname
    have hnext : (relay.follow name raised).aggregate = _ := hset _
    have hchanged := hsame
    rw [hnext, haggregate] at hchanged
    obtain ⟨event, hstands, hstep⟩ :=
      ProviderStatus.onEvent_matchingEvent (h.statusOf_ne hname) hothers _ _ hchanged
    rw [← hnext] at hstands hstep
    rw [← haggregate] at hstep
    rw [receive_changed hevent hsame, hstands]
    exact .passed hevent hsame hstands hstep

/-- Whatever an event does, the relay stays settled and has the same sub-providers, and what is
passed on makes the old aggregate the new one. -/
theorem Taken.keeps {raised : RaisedEvent} {next : Relay} {passed : Option RaisedEvent}
    (htaken : Taken relay name raised next passed) (h : relay.Settled)
    (hname : name ∈ Table.keys relay.statuses) :
    next.Settled ∧ Table.keys next.statuses = Table.keys relay.statuses ∧
      relay.aggregate.onEvents (passed.toList.map RaisedEvent.said) = next.aggregate := by
  cases htaken with
  | configuration hevent => exact ⟨h, rfl, ProviderStatus.onEvent_configurationChanged _ _⟩
  | unnoticed hevent hsame => exact ⟨h.follow hname raised, keys_setStatus hname _, hsame.symm⟩
  | passed hevent hchanged hstands hstep =>
    exact ⟨h.follow hname raised, keys_setStatus hname _, hstep⟩

/-- Whatever an event does, the status of its sub-provider follows it, and no other does. -/
theorem Taken.statusOf {raised : RaisedEvent} {next : Relay} {passed : Option RaisedEvent}
    (htaken : Taken relay name raised next passed) :
    next.statusOf name = (relay.statusOf name).onEvent raised.event raised.details.errorCode ∧
      ∀ other, other ≠ name → next.statusOf other = relay.statusOf other := by
  cases htaken with
  | configuration hevent =>
    rw [hevent, ProviderStatus.onEvent_configurationChanged]
    exact ⟨rfl, fun _ _ => rfl⟩
  | unnoticed | passed =>
    exact ⟨statusOf_setStatus_self _ _ _,
      fun other hother => statusOf_setStatus_of_ne hother _ _⟩

/-- An event about status is passed on exactly if it changes the aggregate. -/
theorem Taken.passed_iff {raised : RaisedEvent} {next : Relay} {passed : Option RaisedEvent}
    (htaken : Taken relay name raised next passed) (hevent : raised.event ≠ .configurationChanged) :
    (next.aggregate = relay.aggregate → passed = none) ∧
      (next.aggregate ≠ relay.aggregate → ∃ event,
        next.aggregate.matchingEvent? = some event ∧ passed = some (tagged event name raised)) := by
  cases htaken with
  | configuration heq => exact absurd heq hevent
  | unnoticed _ hsame => exact ⟨fun _ => rfl, fun hne => absurd hsame hne⟩
  | passed _ hchanged hstands =>
    exact ⟨fun heq => absurd heq hchanged, fun _ => ⟨_, hstands, rfl⟩⟩

/-- A change of configuration is passed on and changes nothing. -/
theorem Taken.of_configurationChanged {raised : RaisedEvent} {next : Relay}
    {passed : Option RaisedEvent} (htaken : Taken relay name raised next passed)
    (hevent : raised.event = .configurationChanged) :
    next = relay ∧ passed = some (tagged .configurationChanged name raised) := by
  cases htaken with
  | configuration => exact ⟨rfl, rfl⟩
  | unnoticed hne => exact absurd hevent hne
  | passed hne => exact absurd hevent hne

end Event

/-! ### Starts -/

theorem startedStatus_ne_notReady (result : Except EvaluationError Unit) :
    MultiProvider.startedStatus result ≠ .notReady := by
  unfold MultiProvider.startedStatus
  split
  · exact ProviderStatus.noConfusion
  · split <;> exact ProviderStatus.noConfusion

/-- Every sub-provider has started, or its start is one of those still to be recorded. -/
def Awaits (relay : Relay) (coming : List String) : Prop :=
  ∀ e ∈ relay.statuses, e.2 ≠ .notReady ∨ e.1 ∈ coming

theorem Awaits.setStatus {relay : Relay} (hkeys : (Table.keys relay.statuses).Nodup)
    {sub : String} {coming : List String} (h : relay.Awaits (sub :: coming))
    {status : ProviderStatus} (hstatus : status ≠ .notReady) :
    (relay.setStatus sub status).Awaits coming := by
  intro e he
  rcases Table.mem_put hkeys he with rfl | ⟨hmem, hne⟩
  · exact .inl hstatus
  · refine (h e hmem).imp_right fun hlater => ?_
    exact (List.mem_cons.mp hlater).resolve_left hne

/-- When the last start is recorded, the aggregate becomes the worst status. -/
theorem settled_setStatus {relay : Relay} {sub : String} {status : ProviderStatus}
    (h : (relay.setStatus sub status).Awaits []) : (relay.setStatus sub status).Settled where
  inhabited := Table.put_ne_nil _ _ _
  aggregate := rfl
  started other hother := by
    obtain ⟨e, he, rfl⟩ := List.mem_map.mp hother
    exact (h e he).resolve_right List.not_mem_nil

theorem Awaits.settled {relay : Relay} (hkeys : (Table.keys relay.statuses).Nodup)
    {ended : List (String × Except EvaluationError Unit)} (hended : ended ≠ [])
    (h : relay.Awaits (ended.map (·.1))) :
    (ended.foldl (fun r (sub, result) => r.setStatus sub (MultiProvider.startedStatus result))
      relay).Settled := by
  induction ended generalizing relay with
  | nil => exact absurd rfl hended
  | cons e rest ih =>
    have hnext : (relay.setStatus e.1 (MultiProvider.startedStatus e.2)).Awaits (rest.map (·.1)) :=
      h.setStatus hkeys (startedStatus_ne_notReady e.2)
    by_cases hrest : rest = []
    · subst hrest
      exact settled_setStatus hnext
    · exact ih (Table.nodup_put hkeys _ _) hrest hnext

/-- **Once every start has ended** the relay is settled, however the starts ended. -/
theorem settled_started {relay : Relay} (hkeys : (Table.keys relay.statuses).Nodup)
    {ended : List (String × Except EvaluationError Unit)} (hended : ended ≠ [])
    (hall : ∀ name ∈ Table.keys relay.statuses, name ∈ ended.map (·.1)) :
    (ended.foldl (fun r (sub, result) => r.setStatus sub (MultiProvider.startedStatus result))
      relay).Settled :=
  Awaits.settled hkeys hended fun e he => .inr (hall e.1 (List.mem_map_of_mem he))

end Relay

end Multi

end FeatureFlags
