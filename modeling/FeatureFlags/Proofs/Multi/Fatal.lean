import FeatureFlags.Proofs.Multi.Forwarded
import FeatureFlags.Proofs.Multi.Starts
import FeatureFlags.Proofs.Task.Amid
import FeatureFlags.Proofs.Task.Rely

/-!
# Failing for good while starting

The sub-providers of a multi-provider may announce events while they are started, and the relay
takes each event in at once.  How the starts ended is recorded only when all of them have, and
what is recorded replaces what the events had made of a status.  So a sub-provider that has
announced that it failed for good stays FATAL if its start says so too, and is forgotten to have
failed if its start ends in another way.

The events are noted as they are told to the relay.  Everything else that happens meanwhile is
left open: a task may do what it likes as long as every status follows the events noted.

## Main definitions

* `Multi.Relay.after`, `Multi.Relay.passedOn` — the relay after some events, and what it passes on
  of them.
* `Multi.Hears` — a change of the state after which every status has followed the events noted.
* `MultiProvider.starts` — the starts of all sub-providers, side by side.

## Main results

* `Multi.Relay.statusOf_after` — a status follows the events of its own sub-provider.
* `Multi.Relay.Weighed.stays_fatal` — **one fatal sub-provider settles the aggregate**, and no event
  about status is passed on any more.
* `MultiProvider.fatal_after_startUp_iff` — **a sub-provider that fails for good while it starts is
  FATAL from then on exactly if its start fails for good.**
-/

namespace FeatureFlags

namespace Task

variable {σ α : Type} {step : σ → σ → Prop}

/-- A guarantee holds from beginning to end, amid changes of the same kind. -/
theorem Guarantees.runAmid {t : Task σ α} (h : Guarantees step t) (hrefl : ∀ s, step s s)
    (htrans : ∀ {s s' s''}, step s s' → step s' s'' → step s s'') {changes : List (σ → σ)}
    (hchanges : ∀ change ∈ changes, ∀ s, step s (change s)) (s : σ) :
    step s (t.runAmid changes s).2 :=
  (ensures_iff_runAmid hrefl).mp (h.ensures hrefl htrans s) changes hchanges

/-- Tasks side by side give as many values as there are tasks. -/
theorem length_runAmid_all (tasks : List (Task σ α)) (changes : List (σ → σ)) (s : σ) :
    ((all tasks).runAmid changes s).1.length = tasks.length := by
  have hends : ∀ t ∈ tasks, Ends (fun _ => True) t :=
    fun t _ s => ensures_of_forall (fun _ _ => trivial) t s
  have hall := ends_all (f := fun t : Task σ α => t) (P := fun _ _ => True) hends
  rw [List.map_id'] at hall
  have hvalues := (ensures_iff_runAmid fun _ => trivial).mp (hall s) changes fun _ _ _ => trivial
  exact hvalues.length_eq.symm

end Task

namespace Multi

open MultiProvider (guarded startedStatus)

/-! ### Events in a relay -/

/-- What the events of one sub-provider say about status, in their order. -/
def saidBy (name : String) (events : List (String × RaisedEvent)) :
    List (ProviderEvent × Option ErrorCode) :=
  (events.filter fun e => e.1 = name).map fun e => e.2.said

theorem saidBy_append (name : String) (events more : List (String × RaisedEvent)) :
    saidBy name (events ++ more) = saidBy name events ++ saidBy name more := by
  rw [saidBy, List.filter_append, List.map_append, saidBy, saidBy]

theorem mem_saidBy {name : String} {raised : RaisedEvent} {events : List (String × RaisedEvent)}
    (h : (name, raised) ∈ events) : raised.said ∈ saidBy name events :=
  List.mem_map.mpr ⟨(name, raised), List.mem_filter.mpr ⟨h, decide_eq_true rfl⟩, rfl⟩

namespace Relay

variable {relay : Relay} {name : String}

/-- The relay after some events of sub-providers. -/
def after (relay : Relay) (events : List (String × RaisedEvent)) : Relay :=
  events.foldl (fun r e => (r.receive e.1 e.2).1) relay

/-- What a relay passes on of some events. -/
def passedOn (relay : Relay) : List (String × RaisedEvent) → List RaisedEvent
  | [] => []
  | e :: events =>
    (relay.receive e.1 e.2).2.toList ++ (relay.receive e.1 e.2).1.passedOn events

@[simp] theorem after_cons (relay : Relay) (e : String × RaisedEvent)
    (events : List (String × RaisedEvent)) :
    relay.after (e :: events) = (relay.receive e.1 e.2).1.after events := rfl

theorem fst_receive (relay : Relay) (name : String) (raised : RaisedEvent) :
    (relay.receive name raised).1 =
      if raised.event = .configurationChanged then relay else relay.follow name raised := by
  unfold receive
  dsimp only
  split
  · rfl
  · split <;> rfl

/-- The status of a sub-provider follows its own events and no others. -/
theorem statusOf_receive (relay : Relay) (e : String × RaisedEvent) (name : String) :
    (relay.receive e.1 e.2).1.statusOf name = (relay.statusOf name).onEvents (saidBy name [e]) := by
  rw [fst_receive]
  by_cases hname : e.1 = name
  · have hsaid : saidBy name [e] = [e.2.said] := by simp [saidBy, hname]
    rw [hsaid, ProviderStatus.onEvents_cons, ProviderStatus.onEvents_nil, RaisedEvent.said]
    split
    next hevent => rw [hevent, ProviderStatus.onEvent_configurationChanged]
    next => rw [← hname, follow, statusOf_setStatus_self]
  · have hsaid : saidBy name [e] = [] := by simp [saidBy, hname]
    rw [hsaid, ProviderStatus.onEvents_nil]
    split
    · rfl
    · exact statusOf_setStatus_of_ne (Ne.symm hname) _ _

/-- **A status follows the events of its own sub-provider.** -/
theorem statusOf_after (relay : Relay) (events : List (String × RaisedEvent)) (name : String) :
    (relay.after events).statusOf name =
      (relay.statusOf name).onEvents (saidBy name events) := by
  induction events generalizing relay with
  | nil => rfl
  | cons e events ih =>
    rw [after_cons, ih, statusOf_receive, ← ProviderStatus.onEvents_append, ← saidBy_append,
      List.singleton_append]

/-! ### Fatal sub-providers -/

/-- The aggregate is the worst of the statuses. -/
def Weighed (relay : Relay) : Prop := relay.aggregate = .worst (relay.statuses.map (·.2))

theorem weighed_setStatus (relay : Relay) (name : String) (status : ProviderStatus) :
    (relay.setStatus name status).Weighed := rfl

theorem Weighed.receive (h : relay.Weighed) (name : String) (raised : RaisedEvent) :
    (relay.receive name raised).1.Weighed := by
  rw [fst_receive]
  split
  · exact h
  · exact weighed_setStatus _ _ _

theorem Weighed.aggregate_eq_fatal (h : relay.Weighed) (hfatal : relay.statusOf name = .fatal) :
    relay.aggregate = .fatal := by
  have hfound : Table.find? name relay.statuses = some .fatal := by
    rw [statusOf] at hfatal
    cases hfind : Table.find? name relay.statuses with
    | none => rw [hfind] at hfatal; exact ProviderStatus.noConfusion hfatal
    | some status => rw [hfind] at hfatal; exact congrArg some hfatal
  rw [show relay.aggregate = _ from h, ProviderStatus.worst_eq_fatal_iff]
  exact Table.mem_values_of_find? hfound

theorem statusOf_receive_fatal (hfatal : relay.statusOf name = .fatal) (e : String × RaisedEvent) :
    (relay.receive e.1 e.2).1.statusOf name = .fatal := by
  rw [statusOf_receive, hfatal, ProviderStatus.onEvents_fatal]

/-- An event that leaves the aggregate FATAL is passed on only if it is not about status. -/
theorem Weighed.passed_of_fatal (h : relay.Weighed) (hfatal : relay.statusOf name = .fatal)
    (e : String × RaisedEvent) {passed : RaisedEvent}
    (hpassed : (relay.receive e.1 e.2).2 = some passed) :
    passed.event = .configurationChanged := by
  by_cases hevent : e.2.event = .configurationChanged
  · simp only [Relay.receive, if_pos hevent] at hpassed
    rw [← Option.some.inj hpassed]
    exact hevent
  · have hnext := (h.receive e.1 e.2).aggregate_eq_fatal (statusOf_receive_fatal hfatal e)
    rw [fst_receive, if_neg hevent, ← h.aggregate_eq_fatal hfatal] at hnext
    rw [receive_same hevent hnext] at hpassed
    exact absurd hpassed (Option.some_ne_none passed).symm

/-- **One fatal sub-provider settles the aggregate**: whatever events follow, it stays FATAL and so
does the aggregate, and no event about status is passed on. -/
theorem Weighed.stays_fatal (h : relay.Weighed) (hfatal : relay.statusOf name = .fatal)
    (events : List (String × RaisedEvent)) :
    (relay.after events).statusOf name = .fatal ∧ (relay.after events).aggregate = .fatal ∧
      ∀ passed ∈ relay.passedOn events, passed.event = .configurationChanged := by
  induction events generalizing relay with
  | nil => exact ⟨hfatal, h.aggregate_eq_fatal hfatal, fun _ hmem => absurd hmem List.not_mem_nil⟩
  | cons e events ih =>
    obtain ⟨hstatus, haggregate, hrest⟩ :=
      ih (h.receive e.1 e.2) (statusOf_receive_fatal hfatal e)
    refine ⟨hstatus, haggregate, fun passed hmem => ?_⟩
    rcases List.mem_append.mp hmem with hfirst | hlater
    · exact h.passed_of_fatal hfatal e (Option.mem_toList.mp hfirst)
    · exact hrest passed hlater

/-! ### What the starts leave -/

/-- The status of a sub-provider that is not among those whose starts are recorded. -/
theorem statusOf_recorded_of_notMem {ended : List (String × Except EvaluationError Unit)}
    (h : name ∉ ended.map (·.1)) (relay : Relay) :
    (ended.foldl (fun r (sub, result) => r.setStatus sub (startedStatus result)) relay).statusOf
      name = relay.statusOf name := by
  induction ended generalizing relay with
  | nil => rfl
  | cons e rest ih =>
    rw [List.map_cons, List.mem_cons, not_or] at h
    rw [List.foldl_cons, ih h.2, statusOf_setStatus_of_ne h.1]

/-- The start of a sub-provider decides its status, if there is only one start of its name. -/
theorem statusOf_recorded {ended : List (String × Except EvaluationError Unit)}
    (hnames : (ended.map (·.1)).Nodup) {result : Except EvaluationError Unit}
    (hmem : (name, result) ∈ ended) (relay : Relay) :
    (ended.foldl (fun r (sub, result) => r.setStatus sub (startedStatus result)) relay).statusOf
      name = startedStatus result := by
  induction ended generalizing relay with
  | nil => exact absurd hmem List.not_mem_nil
  | cons e rest ih =>
    obtain ⟨hfirst, hrest⟩ := List.nodup_cons.mp hnames
    rw [List.foldl_cons]
    rcases List.mem_cons.mp hmem with rfl | hlater
    · rw [statusOf_recorded_of_notMem hfirst, statusOf_setStatus_self]
    · exact ih hrest hlater _

/-- The aggregate is the worst status again when some starts have been recorded. -/
theorem weighed_recorded {ended : List (String × Except EvaluationError Unit)} (h : ended ≠ [])
    (relay : Relay) :
    (ended.foldl (fun r (sub, result) => r.setStatus sub (startedStatus result))
      relay).Weighed := by
  induction ended generalizing relay with
  | nil => exact absurd rfl h
  | cons e rest ih =>
    by_cases hrest : rest = []
    · subst hrest
      exact weighed_setStatus _ _ _
    · exact ih hrest _

section Started

variable {σ : Type} {subs : List (SubProvider σ)} {outcomes : List (Outcome Unit)}
  {sub : SubProvider σ} {o : Outcome Unit}

/-- The name and the result of a start are recorded together. -/
theorem mem_recorded (hmem : (sub, o) ∈ subs.zip outcomes) :
    (sub.name, guarded o) ∈ (subs.map (·.name)).zip (outcomes.map guarded) := by
  rw [List.zip_map]
  exact List.mem_map_of_mem hmem

/-- Whatever a status was before, the start of the sub-provider replaces it. -/
theorem statusOf_started (hnames : (subs.map (·.name)).Nodup)
    (hlength : outcomes.length = subs.length) (hmem : (sub, o) ∈ subs.zip outcomes)
    (relay : Relay) :
    (relay.started (subs.map (·.name)) outcomes).statusOf sub.name = statusAfter o := by
  refine statusOf_recorded ?_ (mem_recorded hmem) relay
  rw [List.map_fst_zip (by simp only [List.length_map, hlength, Nat.le_refl])]
  exact hnames

theorem weighed_started (hmem : (sub, o) ∈ subs.zip outcomes) (relay : Relay) :
    (relay.started (subs.map (·.name)) outcomes).Weighed :=
  weighed_recorded (List.ne_nil_of_mem (mem_recorded hmem)) relay

end Started

end Relay

/-! ### Events that are noted -/

section Hears

variable {σ : Type} {relay : Cell σ Relay} {told : σ → List (String × RaisedEvent)} {s s' s'' : σ}

/-- A change of the state during which some events are noted, and after which every status has
followed the events of its own sub-provider. -/
def Hears (relay : Cell σ Relay) (told : σ → List (String × RaisedEvent)) (s s' : σ) : Prop :=
  ∃ events, told s' = told s ++ events ∧
    ∀ name, (relay.get s').statusOf name =
      ((relay.get s).statusOf name).onEvents (saidBy name events)

theorem hears_refl (s : σ) : Hears relay told s s :=
  ⟨[], (List.append_nil _).symm, fun _ => rfl⟩

theorem Hears.trans (h : Hears relay told s s') (h' : Hears relay told s' s'') :
    Hears relay told s s'' := by
  obtain ⟨events, htold, hstatus⟩ := h
  obtain ⟨more, htold', hstatus'⟩ := h'
  refine ⟨events ++ more, ?_, fun name => ?_⟩
  · rw [htold', htold, List.append_assoc]
  · rw [hstatus', hstatus, saidBy_append, ProviderStatus.onEvents_append]

/-- A relay that is told of the events that are noted. -/
theorem hears_of_after {events : List (String × RaisedEvent)} (htold : told s' = told s ++ events)
    (hrelay : relay.get s' = (relay.get s).after events) : Hears relay told s s' :=
  ⟨events, htold, fun name => by rw [hrelay, Relay.statusOf_after]⟩

/-- An event by which a sub-provider says that it has failed for good. -/
def failsForGood (raised : RaisedEvent) : Prop :=
  raised.event = .error ∧ raised.details.errorCode = some .providerFatal

/-- Whatever else is said, a sub-provider that has said that it failed for good is FATAL. -/
theorem onEvents_eq_fatal {name : String} {raised : RaisedEvent}
    {events : List (String × RaisedEvent)} (hmem : (name, raised) ∈ events)
    (hfails : failsForGood raised) (status : ProviderStatus) :
    status.onEvents (saidBy name events) = .fatal := by
  obtain ⟨before, later, hsaid⟩ := List.append_of_mem (mem_saidBy hmem)
  have hfatal : ∀ status : ProviderStatus,
      status.onEvent raised.event raised.details.errorCode = .fatal := by
    intro status
    rw [hfails.1, hfails.2]
    cases status <;> rfl
  rw [hsaid, ProviderStatus.onEvents_append, ProviderStatus.onEvents_cons, RaisedEvent.said, hfatal,
    ProviderStatus.onEvents_fatal]

end Hears

end Multi

namespace MultiProvider

open Multi (Hears Relay failsForGood hears_refl statusAfter statusAfter_eq_fatal_iff)

variable {σ : Type}

/-! ### The joint start -/

/-- The starts of all sub-providers, side by side. -/
def starts (m : MultiProvider σ) (ctx : EvaluationContext) : Task σ (List (Outcome Unit)) :=
  Task.all (m.subs.map fun sub => sub.provider.startUp ctx)

/-- When the starts have ended, how they ended is recorded and the joint start ends. -/
theorem get_runAmid_startUp {relay : Cell σ Relay} (hrelay : ∀ r s, relay.get (relay.set r s) = r)
    (m : MultiProvider σ) (ctx : EvaluationContext) (changes : List (σ → σ)) (s : σ) :
    let ended := (m.starts ctx).runAmid changes s
    relay.get ((m.startUp relay ctx).runAmid changes s).2 =
      (relay.get ended.2).started (m.subs.map (·.name)) ended.1 := by
  intro ended
  rw [startUp, Task.bind_def, ← starts]
  refine Task.runAmid_bind_of_ensures (Q := fun outcomes s _ s' =>
    relay.get s' = (relay.get s).started (m.subs.map (·.name)) outcomes)
    (fun outcomes s => ?_) changes s
  dsimp only
  rw [Task.bind_def, Task.ensures_bind]
  refine (recordStarts_ensures (P := fun r s => relay.get s = r) (fun _ _ h => h)
    (fun _ r' s _ => hrelay r' s) _ _ rfl).mono ?_
  intro _ s' hs'
  split <;> exact hs'

/-- **A sub-provider that fails for good while it starts is FATAL from then on exactly if its start
fails for good.**  Let a multi-provider be started, with any events of its sub-providers told to the
relay meanwhile, before, between and after the ends of the starts.  Then for a sub-provider that has
announced that it failed for good:
* it is FATAL in the relay when the last start ends;
* the joint start leaves it with the status that its own start leads to;
* that status is FATAL, and it and the aggregate stay FATAL whatever events follow and no event
  about status is passed on any more, exactly if the start failed for good. -/
theorem fatal_after_startUp_iff (relay : Cell σ Relay) (told : σ → List (String × RaisedEvent))
    (m : MultiProvider σ) (ctx : EvaluationContext) (changes : List (σ → σ)) (s : σ)
    (hrelay : ∀ r s, relay.get (relay.set r s) = r) (hnames : (m.subs.map (·.name)).Nodup)
    (hsubs : ∀ sub ∈ m.subs, (sub.provider.startUp ctx).Guarantees (Hears relay told))
    (hchanges : ∀ change ∈ changes, ∀ s, Hears relay told s (change s)) :
    let ended := (m.starts ctx).runAmid changes s
    let last := relay.get ((m.startUp relay ctx).runAmid changes s).2
    ended.1.length = m.subs.length ∧
      ∃ events, told ended.2 = told s ++ events ∧
        ∀ sub o, (sub, o) ∈ m.subs.zip ended.1 →
          ∀ raised, failsForGood raised → (sub.name, raised) ∈ events →
            (relay.get ended.2).statusOf sub.name = .fatal ∧
              last.statusOf sub.name = statusAfter o ∧
              ((∀ later, (last.after later).statusOf sub.name = .fatal ∧
                  (last.after later).aggregate = .fatal ∧
                  ∀ passed ∈ last.passedOn later, passed.event = .configurationChanged) ↔
                o.isFatal = true) := by
  intro ended last
  have hlength : ended.1.length = m.subs.length := by
    have hall := Task.length_runAmid_all (m.subs.map fun sub => sub.provider.startUp ctx) changes s
    rwa [List.length_map] at hall
  have hstarts : (m.starts ctx).Guarantees (Hears relay told) := by
    refine Task.guarantees_all fun t ht => ?_
    obtain ⟨sub, hsub, rfl⟩ := List.mem_map.mp ht
    exact hsubs sub hsub
  obtain ⟨events, htold, hstatus⟩ := hstarts.runAmid hears_refl Hears.trans hchanges s
  have hlast : last = (relay.get ended.2).started (m.subs.map (·.name)) ended.1 :=
    get_runAmid_startUp hrelay m ctx changes s
  refine ⟨hlength, events, htold, fun sub o hmem raised hfails hraised => ⟨?_, ?_, ?_⟩⟩
  · rw [hstatus, Multi.onEvents_eq_fatal hraised hfails]
  · rw [hlast, Relay.statusOf_started hnames hlength hmem]
  · have hstarted : last.statusOf sub.name = statusAfter o := by
      rw [hlast, Relay.statusOf_started hnames hlength hmem]
    constructor
    · intro hstays
      rw [← statusAfter_eq_fatal_iff, ← hstarted]
      exact (hstays []).1
    · intro hfatal later
      have hweighed : last.Weighed := hlast ▸ Relay.weighed_started hmem _
      exact hweighed.stays_fatal (hstarted.trans (statusAfter_eq_fatal_iff.mpr hfatal)) later

/-- A multi-provider of one sub-provider, whose start has to wait and then ends in some way. -/
def ofSlow (σ : Type) (o : Outcome Unit) : MultiProvider σ where
  id := .application 0
  subs := [⟨"slow", { NoOp.provider σ with startUp := fun _ => .suspend (.done o) }⟩]
  strategy := .firstMatch σ
  hooks := []

/-- Its sub-provider announces that it has failed for good. -/
def slowFails : String × RaisedEvent := ("slow", ⟨.error, .ofError ⟨.providerFatal, none⟩⟩)

/-- A relay with notes is told of some events. -/
def tell (events : List (String × RaisedEvent)) (s : Relay × List (String × RaisedEvent)) :
    Relay × List (String × RaisedEvent) :=
  (s.1.after events, s.2 ++ events)

/-- The sub-provider announces that it has failed for good, and its start says so too: it stays
FATAL when it announces that it is ready again. -/
theorem fatal_when_slow_start_fails :
    let m := ofSlow (Relay × List (String × RaisedEvent)) (.failed ⟨.providerFatal, none⟩)
    let last := ((m.startUp (.first _ _) {}).runAmid [tell [slowFails]] (.ofNames ["slow"], [])).2.1
    (last.after [("slow", ⟨.ready, {}⟩)]).statusOf "slow" = .fatal ∧
      (last.after [("slow", ⟨.ready, {}⟩)]).aggregate = .fatal ∧
      ∀ passed ∈ last.passedOn [("slow", ⟨.ready, {}⟩)], passed.event = .configurationChanged := by
  intro m last
  obtain ⟨-, events, htold, hsubs⟩ := fatal_after_startUp_iff (.first _ _) Prod.snd m {}
    [tell [slowFails]] (.ofNames ["slow"], []) (fun _ _ => rfl) (by decide)
    (List.forall_mem_singleton.mpr (Task.guarantees_suspend (Task.guarantees_done _)))
    (List.forall_mem_singleton.mpr fun _ => Multi.hears_of_after rfl rfl)
  have hevents : events = [slowFails] := htold.symm
  have hslow := hsubs _ (.failed ⟨.providerFatal, none⟩) List.mem_cons_self slowFails.2 ⟨rfl, rfl⟩
    (hevents ▸ List.mem_cons_self)
  exact hslow.2.2.mpr rfl [("slow", ⟨.ready, {}⟩)]

/-- The sub-provider announces that it has failed for good, and its start ends well nevertheless:
it is ready then, and what it announces next is passed on. -/
theorem fatal_is_forgotten :
    let id := ProviderId.application 0
    let relay : Api.State (List RaisedEvent) → Relay := (Api.relayCell id).get
    let before := (Api.relayCell id).set ⟨some (.application 1), [("slow", .notReady)], .notReady⟩
      (.fresh [])
    let last := (((ofSlow _ (.returned ())).startUp (Api.relayCell id) {}).runAmid
      [Api.heard id [slowFails]] before).2
    (relay (Api.heard id [slowFails] before)).statusOf "slow" = .fatal ∧
      (relay last).statusOf "slow" = .ready ∧ (relay last).aggregate = .ready ∧
      (Api.heard id [("slow", ⟨.stale, {}⟩)] last).world =
        last.world ++ [⟨.stale, (EventDetails.empty).withProviderName "slow"⟩] := by
  decide +kernel

end MultiProvider

end FeatureFlags
