import FeatureFlags.Api.Events
import FeatureFlags.Proofs.Multi.Relay

/-!
# What a multi-provider passes on

What the relay of a multi-provider passes on is made up from two sources: the event is the one
that the new aggregate stands for, and its details come from the event of the sub-provider that
brought the change about.  A status that is folded over the events passed on is the aggregate
nevertheless, whatever the details say and in whatever order the events come.

The events are sent through the emitters that the sub-providers were given, and an application
that keeps what it is sent stands at the other end of the relay.

## Main definitions

* `Api.collector`, `Api.heard` — such an application, and its state after some events.
* `Api.InStep` — the aggregate is what the events passed on make of the one before.

## Main results

* `Api.InStep.heard_one`, `Api.InStep.heard` — an event, and any number of events, keep it so.
* `Api.heard_keeps_in_step` — **the aggregate is the status of whoever is told the events passed
  on.**
-/

namespace FeatureFlags

namespace Api

open Multi (Relay)

/-- An application that keeps the events it is sent. -/
def collector : Host (List RaisedEvent) where
  provider _ _ := NoOp.provider _
  hook _ _ := .silent
  handle _ _ := .done none
  receive _ raised := Task.modify fun s => { s with world := s.world ++ [raised] }
  journal _ world := world

/-- The state after some events of the sub-providers of a multi-provider. -/
def heard (id : ProviderId) (events : List (String × RaisedEvent))
    (s : State (List RaisedEvent)) : State (List RaisedEvent) :=
  ((Task.each (fun (name, raised) => deliver collector (.relay id name) raised) events).run s).2

variable {id : ProviderId} {number : Nat} {s s' : State (List RaisedEvent)}

theorem heard_cons (e : String × RaisedEvent) (events : List (String × RaisedEvent))
    (s : State (List RaisedEvent)) :
    heard id (e :: events) s = heard id events (heard id [e] s) := by
  simp only [heard, Task.each_cons, Task.each_nil, Task.run_bind, Task.run_done]

theorem heard_append (events more : List (String × RaisedEvent))
    (s : State (List RaisedEvent)) :
    heard id (events ++ more) s = heard id more (heard id events s) := by
  induction events generalizing s with
  | nil => rfl
  | cons e events ih => rw [List.cons_append, heard_cons, ih, ← heard_cons]

theorem relayCell_get_set {W : Type} (id : ProviderId) (relay : Relay) (s : State W) :
    (relayCell id).get ((relayCell id).set relay s) = relay := by
  simp only [relayCell, Table.find?_put_self, Option.getD_some]

/-- What is sent to the application is kept. -/
theorem run_deliverThrough_application (fuel number : Nat) (raised : RaisedEvent)
    (s : State (List RaisedEvent)) :
    (deliverThrough collector fuel (.application number) raised).run s =
      ((), { s with world := s.world ++ [raised] }) := by
  cases fuel with
  | zero => rfl
  | succ fuel => rfl

theorem run_log_collector (entry : LogEntry) (s : State (List RaisedEvent)) :
    (Task.log collector.log entry).run s = ((), s) := rfl

/-- An event of a sub-provider changes its relay, and it is kept if it is passed on. -/
theorem heard_one (houtlet : ((relayCell id).get s).outlet = some (.application number))
    (name : String) (raised : RaisedEvent) :
    (relayCell id).get (heard id [(name, raised)] s) =
        (((relayCell id).get s).receive name raised).1 ∧
      (heard id [(name, raised)] s).world =
        s.world ++ (((relayCell id).get s).receive name raised).2.toList := by
  have hkept := (Relay.receive_outlet ((relayCell id).get s) name raised).trans houtlet
  unfold heard
  rw [Task.each_cons, Task.each_nil, Task.run_bind, Task.run_done]
  simp only [deliver, deliverThrough, Task.get, Cell.modify, Task.modify, Task.bind_def,
    Task.bind_read, Task.bind_write, Task.bind_done, Task.run_read, Task.run_write]
  generalize ((relayCell id).get s).receive name raised = taken at hkept ⊢
  obtain ⟨relay, passed⟩ := taken
  cases passed with
  | none => exact ⟨relayCell_get_set id relay s, (List.append_nil s.world).symm⟩
  | some passed =>
    dsimp only at hkept ⊢
    split
    · rw [Task.run_bind, run_log_collector, Task.run_read, relayCell_get_set, hkept]
      dsimp only
      rw [run_deliverThrough_application]
      exact ⟨relayCell_get_set id relay s, rfl⟩
    · rw [Task.run_read, relayCell_get_set, hkept]
      dsimp only
      rw [run_deliverThrough_application]
      exact ⟨relayCell_get_set id relay s, rfl⟩

/-! ### The aggregate and the events that are passed on -/

/-- A settled relay leads to the application, has the same sub-providers as before, and its
aggregate is what the events passed on since then make of the one before. -/
structure InStep (id : ProviderId) (number : Nat) (s s' : State (List RaisedEvent)) : Prop where
  outlet : ((relayCell id).get s').outlet = some (.application number)
  settled : ((relayCell id).get s').Settled
  keys : Table.keys ((relayCell id).get s').statuses = Table.keys ((relayCell id).get s).statuses
  told : ∃ passed, s'.world = s.world ++ passed ∧
    ((relayCell id).get s).aggregate.onEvents (passed.map RaisedEvent.said) =
      ((relayCell id).get s').aggregate

/-- **One more event** keeps the aggregate in step with what is passed on. -/
theorem InStep.heard_one (h : InStep id number s s') {name : String}
    (hname : name ∈ Table.keys ((relayCell id).get s).statuses) (raised : RaisedEvent) :
    InStep id number s (heard id [(name, raised)] s') := by
  obtain ⟨hrelay, hworld⟩ := Api.heard_one h.outlet name raised
  have hname' := h.keys ▸ hname
  obtain ⟨hsettled, hkeys, hsaid⟩ := (h.settled.taken hname' raised).keeps h.settled hname'
  obtain ⟨passed, hbefore, hfold⟩ := h.told
  refine ⟨?_, hrelay ▸ hsettled, ?_,
    passed ++ (((relayCell id).get s').receive name raised).2.toList, ?_, ?_⟩
  · rw [hrelay, Relay.receive_outlet, h.outlet]
  · rw [hrelay, hkeys, h.keys]
  · rw [hworld, hbefore, List.append_assoc]
  · rw [List.map_append, ProviderStatus.onEvents_append, hfold, hsaid, hrelay]

/-- **Any number of events** keeps the aggregate in step with what is passed on. -/
theorem InStep.heard (h : InStep id number s s') {events : List (String × RaisedEvent)}
    (hnames : ∀ e ∈ events, e.1 ∈ Table.keys ((relayCell id).get s).statuses) :
    InStep id number s (Api.heard id events s') := by
  induction events generalizing s' with
  | nil => exact h
  | cons e events ih =>
    rw [heard_cons]
    refine ih (h.heard_one (hnames e List.mem_cons_self) e.2) fun other hother => ?_
    exact hnames other (List.mem_cons_of_mem _ hother)

/-- **The aggregate is the status of whoever is told the events passed on.**  After any events of
the sub-providers of a settled relay, and one more of them:
* the status of the sub-provider has followed that event, and no other one has changed;
* the aggregate is the worst status;
* folded over all events passed on, the aggregate of the beginning is the aggregate now;
* an event about status is passed on exactly if it changes the aggregate;
* a change of configuration is passed on and changes nothing;
* what is passed on has the name of the sub-provider and the other details of the event. -/
theorem heard_keeps_in_step (id : ProviderId) (number : Nat) (s : State (List RaisedEvent))
    (houtlet : ((relayCell id).get s).outlet = some (.application number))
    (hsettled : ((relayCell id).get s).Settled) (events : List (String × RaisedEvent))
    (name : String) (raised : RaisedEvent)
    (hnames : ∀ e ∈ events ++ [(name, raised)],
      e.1 ∈ Table.keys ((relayCell id).get s).statuses) :
    let before := heard id events s
    let after := heard id (events ++ [(name, raised)]) s
    let relay := (relayCell id).get before
    let next := (relayCell id).get after
    (next.statusOf name = (relay.statusOf name).onEvent raised.event raised.details.errorCode ∧
      ∀ other, other ≠ name → next.statusOf other = relay.statusOf other) ∧
    next.aggregate = .worst (next.statuses.map (·.2)) ∧
    (∃ passed, after.world = s.world ++ passed ∧
      ((relayCell id).get s).aggregate.onEvents
        (passed.map fun p => (p.event, p.details.errorCode)) = next.aggregate) ∧
    (raised.event ≠ .configurationChanged →
      (next.aggregate = relay.aggregate → after.world = before.world) ∧
      (next.aggregate ≠ relay.aggregate → ∃ event,
        next.aggregate.matchingEvent? = some event ∧
          after.world = before.world ++ [⟨event, raised.details.withProviderName name⟩])) ∧
    (raised.event = .configurationChanged → next = relay ∧
      after.world =
        before.world ++ [⟨.configurationChanged, raised.details.withProviderName name⟩]) := by
  have hevents : ∀ e ∈ events, e.1 ∈ Table.keys ((relayCell id).get s).statuses :=
    fun e he => hnames e (List.mem_append_left _ he)
  have hname := hnames (name, raised) (List.mem_append_right _ List.mem_cons_self)
  have hstart : InStep id number s s :=
    ⟨houtlet, hsettled, rfl, [], (List.append_nil _).symm, rfl⟩
  have hbefore := hstart.heard hevents
  have hafter := hbefore.heard_one hname raised
  obtain ⟨hrelay, hworld⟩ := heard_one hbefore.outlet name raised
  have htaken := hbefore.settled.taken (hbefore.keys ▸ hname) raised
  rw [heard_append]
  dsimp only
  refine ⟨hrelay ▸ htaken.statusOf, hafter.settled.aggregate, hafter.told, ?_, ?_⟩
  · intro hevent
    obtain ⟨hsame, hchanged⟩ := htaken.passed_iff hevent
    rw [hrelay, hworld]
    refine ⟨fun heq => ?_, fun hne => ?_⟩
    · rw [hsame heq, Option.toList_none, List.append_nil]
    · obtain ⟨event, hstands, hpassed⟩ := hchanged hne
      rw [hpassed]
      exact ⟨event, hstands, rfl⟩
  · intro hevent
    obtain ⟨hnext, hpassed⟩ := htaken.of_configurationChanged hevent
    rw [hrelay, hworld, hpassed]
    exact ⟨hnext, rfl⟩

/-- A multi-provider of a provider that is ready and one that serves stale values, which tells
the application what it passes on. -/
def twoSubProviders : State (List RaisedEvent) :=
  (relayCell (.application 0)).set
    ⟨some (.application 1), [("first", .ready), ("second", .stale)], .stale⟩ (.fresh [])

/-- The first provider fails for good, and the second one recovers with a fatal code in its
details: what is passed on makes the stale multi-provider a fatal one. -/
theorem in_step_when_first_fails :
    let fatally : EventDetails := .ofError ⟨.providerFatal, some "gone"⟩
    let s := heard (.application 0) [("first", ⟨.error, fatally⟩), ("second", ⟨.ready, fatally⟩)]
      twoSubProviders
    ∃ passed, s.world = passed ∧
      ProviderStatus.stale.onEvents (passed.map fun p => (p.event, p.details.errorCode)) =
        .fatal := by
  intro fatally s
  obtain ⟨-, -, ⟨passed, hworld, htold⟩, -⟩ := heard_keeps_in_step (.application 0) 1
    twoSubProviders rfl ⟨by decide, by decide, by decide⟩ [("first", ⟨.error, fatally⟩)] "second"
    ⟨.ready, fatally⟩ (by decide)
  exact ⟨passed, hworld, htold.trans (by decide)⟩

end Api

end FeatureFlags
