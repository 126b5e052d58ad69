import FeatureFlags.Api.Events
import FeatureFlags.Proofs.Registry.Statuses
import FeatureFlags.Proofs.Task.Mimics

/-!
# Who is told of an event

An event of a bound instance is told to the handlers that are registered for it: first to the
global ones, then to those of the clients whose domain resolves to the instance.  Who is told is
settled by the registrations and the bindings as the event finds them; what the handlers do, and
whether they panic, makes no difference to the others.

The domains of the clients are looked up in a copy of the bindings.  This finds the same as the
registry itself does, also for domains without a binding and for an instance that is bound to many.

## Main definitions

* `Api.Telling` — a handler that has run, with the details that it was given.
* `Api.dispatchNoted` — an event with every handler that it runs noted.
* `Api.concerned` — the registrations whose domain resolves to an instance.

## Main results

* `Api.serves_eq` — the copy of the bindings agrees with the registry.
* `Api.recipients_eq` — the recipients: global handlers first, and those of one domain in order.
* `Api.dispatchNoted_mimics` — an event does the same whether the handlers are noted or not.
* `Api.dispatch_tells_recipients` — **every recipient is told once, and nobody else.**
-/

namespace FeatureFlags

namespace EventHandlers

/-! ### The order of domains -/

theorem domainLE_refl (a : Option String) : domainLE a a = true := by
  cases a with
  | none => rfl
  | some a => exact decide_eq_true (String.le_refl a)

theorem domainLE_trans {a b c : Option String} (hab : domainLE a b = true)
    (hbc : domainLE b c = true) : domainLE a c = true := by
  cases a with
  | none => rfl
  | some a =>
    cases b with
    | none => exact absurd hab Bool.noConfusion
    | some b =>
      cases c with
      | none => exact absurd hbc Bool.noConfusion
      | some c =>
        exact decide_eq_true (String.le_trans (of_decide_eq_true hab) (of_decide_eq_true hbc))

theorem domainLE_total (a b : Option String) : (domainLE a b || domainLE b a) = true := by
  cases a with
  | none => rfl
  | some a =>
    cases b with
    | none => rfl
    | some b =>
      rw [Bool.or_eq_true]
      exact (String.le_total a b).imp decide_eq_true decide_eq_true

/-- Registrations in the order of their domains: those of one domain stay in their order. -/
theorem filter_mergeSort_domain (registrations : List ClientRegistration)
    (domain : Option String) :
    (registrations.mergeSort fun a b => domainLE a.domain b.domain).filter (·.domain = domain) =
      registrations.filter (·.domain = domain) := by
  have hsame : (registrations.filter (·.domain = domain)).Pairwise
      fun a b => domainLE a.domain b.domain = true := by
    apply List.pairwise_of_forall_mem_list
    intro a ha b hb
    rw [of_decide_eq_true (List.mem_filter.mp ha).2, of_decide_eq_true (List.mem_filter.mp hb).2]
    exact domainLE_refl domain
  have htrans : ∀ a b c : ClientRegistration, domainLE a.domain b.domain = true →
      domainLE b.domain c.domain = true → domainLE a.domain c.domain = true :=
    fun _ _ _ => domainLE_trans
  have hsorted : (registrations.filter (·.domain = domain)).Sublist
      (registrations.mergeSort fun a b => domainLE a.domain b.domain) :=
    List.sublist_mergeSort htrans (fun _ _ => domainLE_total _ _) hsame List.filter_sublist
  have hwithin := hsorted.filter (·.domain = domain)
  rw [List.filter_filter] at hwithin
  simp only [Bool.and_self] at hwithin
  -- nothing is lost in sorting
  refine (hwithin.eq_of_length ?_).symm
  exact ((List.mergeSort_perm _ _).filter _).length_eq.symm

end EventHandlers

namespace Api

variable {W : Type}

/-! ### Who is concerned -/

/-- **A domain is served by the instance that it resolves to**, whether it is bound or falls back
to the default. -/
theorem serves_eq (r : Registry) (id : ProviderId) (domain : Option String) :
    serves r id domain = ((r.resolve domain).id == id) := by
  have hdomain : domain.bind (r.domains.mapValues (·.id)).find? =
      (domain.bind r.domains.find?).map (·.id) := by
    cases domain with
    | none => rfl
    | some name => exact SortedMap.find?_mapValues _ _ _
  rw [serves, Registry.resolve]
  dsimp only
  rw [hdomain]
  cases domain.bind r.domains.find? <;> rfl

/-- The registrations of clients for an event whose domain resolves to an instance. -/
def concerned (s : State W) (id : ProviderId) (event : ProviderEvent) : List ClientRegistration :=
  s.handlers.clients.filter fun r => r.event == event && (s.registry.resolve r.domain).id == id

/-- **The recipients of an event**: every global handler in order, and then every registration
whose domain resolves to the instance, those of one domain in their order. -/
theorem recipients_eq (s : State W) (id : ProviderId) (event : ProviderEvent) :
    ∃ told : List ClientRegistration, told.Perm (concerned s id event) ∧
      (∀ domain, told.filter (·.domain = domain) =
        (concerned s id event).filter (·.domain = domain)) ∧
      s.handlers.recipients event (serves s.registry id) =
        (s.handlers.global.filter (·.1 == event)).map (·.2) ++ told.map (·.handler) := by
  have hconcerned : (s.handlers.clients.filter fun r =>
      r.event == event && serves s.registry id r.domain) = concerned s id event := by
    rw [concerned]
    congr 1
    funext r
    rw [serves_eq]
  refine ⟨_, List.mergeSort_perm _ _, EventHandlers.filter_mergeSort_domain _, ?_⟩
  rw [EventHandlers.recipients, EventHandlers.globalRecipients, EventHandlers.clientRecipients,
    hconcerned]

/-! ### Noting who is told -/

/-- A handler that has run: the details that it was given, and what it panicked with if it did. -/
structure Telling where
  handler : HandlerId
  details : EventDetails
  panic : Option Panic

/-- What a handler was told. -/
def Telling.told (telling : Telling) : HandlerId × EventDetails :=
  (telling.handler, telling.details)

/-- Runs one handler, and notes that it has run. -/
def runHandlerNoted (host : Host W) (event : ProviderEvent) (details : EventDetails)
    (handler : HandlerId) : Task (State W × List Telling) Unit := do
  let outcome ← (host.handle handler details).within (.first _ _)
  Task.modify fun p => (p.1, p.2 ++ [⟨handler, details, outcome⟩])
  match outcome with
  | none => return
  | some p => (Task.log host.log (handlerPanicEntry event details p)).within (.first _ _)

/-- Applies an event to the status of its provider and tells the handlers, each of which is noted;
an event of a provider that is not bound is dropped. -/
def dispatchNoted (host : Host W) (id : ProviderId) (raised : RaisedEvent) :
    Task (State W × List Telling) Unit := do
  let p ← Task.get
  match p.1.registry.announce id raised.event raised.details.errorCode with
  | none => (Task.log host.log (unboundEntry raised.event)).within (.first _ _)
  | some registry =>
    Task.modify fun p => ({ p.1 with registry }, p.2)
    let before := p.1.registry.statusOf id
    let after := registry.statusOf id
    if before ≠ after then
      (Task.log host.log (statusEntry raised.event before after)).within (.first _ _)
    let details := nameProvider registry id raised.details
    let recipients ← (lookUpRecipients raised.event (serves registry id)).within (.first _ _)
    Task.each (runHandlerNoted host raised.event details) recipients

section Mimics

open FeatureFlags.Task (Mimics mimics_each mimics_get mimics_modify mimics_within)

theorem runHandlerNoted_mimics (host : Host W) (event : ProviderEvent) (details : EventDetails)
    (handler : HandlerId) :
    Mimics True Eq (runHandlerNoted host event details handler)
      (runHandler host event details handler) := by
  refine (mimics_within (host.handle handler details)).bind ?_
  rintro outcome _ rfl
  refine .aside trivial ?_
  cases outcome with
  | none => exact .done rfl
  | some p => exact mimics_within _

/-- **An event does the same whether the handlers are noted or not.** -/
theorem dispatchNoted_mimics (host : Host W) (id : ProviderId) (raised : RaisedEvent) :
    Mimics True Eq (dispatchNoted host id raised) (dispatch host id raised) := by
  refine mimics_get fun p => ?_
  cases p.1.registry.announce id raised.event raised.details.errorCode with
  | none => exact mimics_within _
  | some registry =>
    refine (mimics_modify (fun s : State W => { s with registry }) fun p => p.2).bind
      fun _ _ _ => ?_
    have htell := Mimics.bind
      (mimics_within (lookUpRecipients raised.event (serves registry id))) (by
        rintro recipients _ rfl
        exact mimics_each (runHandlerNoted_mimics host raised.event
          (nameProvider registry id raised.details)) recipients)
    dsimp only
    split
    · exact (mimics_within _).bind fun _ _ _ => htell
    · exact htell

end Mimics

/-! ### What the handlers are told -/

section Tells

variable {host : Host W} {id : ProviderId} {raised : RaisedEvent}

/-- A callback notes nothing, whatever the others do to the state meanwhile. -/
theorem ensures_unnoted {α : Type} (t : Task (State W) α) (p : State W × List Telling) :
    (t.within (.first (State W) (List Telling))).Ensures (Cell.first _ _).Confined
      (fun _ q => q.2 = p.2) p :=
  (Task.ensures_within (Cell.lawful_first _ _) t _ p).mpr
    (Task.ensures_of_forall (fun _ _ => rfl) t _)

/-- A handler that is run is noted once, whether it panics or not. -/
theorem runHandlerNoted_tells (host : Host W) (event : ProviderEvent) (details : EventDetails)
    (handler : HandlerId) (p : State W × List Telling) :
    (runHandlerNoted host event details handler).Ensures (Cell.first _ _).Confined
      (fun _ q => ∃ panic, q.2 = p.2 ++ [⟨handler, details, panic⟩]) p := by
  refine (Task.ensures_bind _ _ _ _).mpr ((ensures_unnoted _ p).mono fun outcome q hq => ?_)
  have hnote : q.2 ++ [⟨handler, details, outcome⟩] =
      p.2 ++ [(⟨handler, details, outcome⟩ : Telling)] := by
    rw [hq]
  show Task.Ensures _ _ _ (q.1, q.2 ++ [⟨handler, details, outcome⟩])
  cases outcome with
  | none => exact ⟨none, hnote⟩
  | some panic =>
    exact (ensures_unnoted _ _).mono fun _ _ hlogged => ⟨some panic, hlogged.trans hnote⟩

/-- **Every handler of a list is told, once and in order**, whatever each of them does. -/
theorem each_tells {ι : Type} (host : Host W) (event : ProviderEvent) (details : ι → EventDetails)
    (handler : ι → HandlerId) (items : List ι) (p : State W × List Telling) :
    (Task.each (fun i => runHandlerNoted host event (details i) (handler i)) items).Ensures
      (Cell.first _ _).Confined
      (fun _ q => ∃ tellings, q.2 = p.2 ++ tellings ∧
        tellings.map Telling.told = items.map fun i => (handler i, details i)) p := by
  induction items generalizing p with
  | nil => exact ⟨[], (List.append_nil _).symm, rfl⟩
  | cons i rest ih =>
    rw [Task.each_cons, Task.ensures_bind]
    refine (runHandlerNoted_tells host event (details i) (handler i) p).mono ?_
    rintro _ q ⟨panic, hq⟩
    refine (ih q).mono ?_
    rintro _ q' ⟨tellings, hq', htold⟩
    refine ⟨⟨handler i, details i, panic⟩ :: tellings, ?_, ?_⟩
    · rw [hq', hq, List.append_assoc, List.singleton_append]
    · rw [List.map_cons, List.map_cons, htold]
      rfl

/-- The recipients are those that the registrations name when they are looked up, and each of them
is told. -/
theorem tellRecipients_tells (host : Host W) (event : ProviderEvent) (details : EventDetails)
    (serves : Option String → Bool) (p : State W × List Telling) :
    (((lookUpRecipients event serves).within (.first _ _)).bind fun recipients =>
      Task.each (runHandlerNoted host event details) recipients).Ensures (Cell.first _ _).Confined
      (fun _ q => ∃ tellings, q.2 = p.2 ++ tellings ∧
        tellings.map Telling.told =
          (p.1.handlers.recipients event serves).map fun handler => (handler, details)) p :=
  each_tells host event (fun _ => details) (fun handler => handler) _ p

/-- The details of an event of a bound instance: those emitted, with the name of a binding of the
instance if they had none. -/
theorem exists_nameProvider {r : Registry} (hbound : r.isBound id = true) :
    ∃ p ∈ r.bindings, p.id = id ∧ ∀ details, nameProvider r id details =
      if details.providerName = "" then details.withProviderName p.name else details := by
  obtain ⟨p, hfound⟩ := Option.isSome_iff_exists.mp (List.find?_isSome.mpr
    (List.any_eq_true.mp hbound))
  have hid : (p.id == id) = true := List.find?_some (p := fun p : ProviderRef => p.id == id) hfound
  refine ⟨p, List.mem_of_find?_eq_some hfound, beq_iff_eq.mp hid, fun details => ?_⟩
  rw [nameProvider, Registry.nameOf?, hfound]
  rfl

/-- An event of a bound instance is told to its recipients. -/
theorem dispatchNoted_tells {s : State W} (hbound : s.registry.isBound id = true) :
    (dispatchNoted host id raised).Ensures (Cell.first _ _).Confined
      (fun _ q => q.2.map Telling.told =
        (s.handlers.recipients raised.event (serves s.registry id)).map fun handler =>
          (handler, nameProvider s.registry id raised.details)) (s, []) := by
  obtain ⟨after, hannounce⟩ :=
    Registry.exists_announce hbound raised.event raised.details.errorCode
  -- only the status and the log have changed when the recipients are looked up
  obtain ⟨-, rfl⟩ := Registry.eq_of_announce hannounce
  have htell : ∀ q : State W × List Telling, q.1.handlers = s.handlers → q.2 = [] →
      (((lookUpRecipients raised.event (serves s.registry id)).within (.first _ _)).bind
        fun recipients => Task.each (runHandlerNoted host raised.event
          (nameProvider s.registry id raised.details)) recipients).Ensures
        (Cell.first _ _).Confined (fun _ q => q.2.map Telling.told =
          (s.handlers.recipients raised.event (serves s.registry id)).map fun handler =>
            (handler, nameProvider s.registry id raised.details)) q := by
    intro q hhandlers hq
    refine (tellRecipients_tells host _ _ _ q).mono ?_
    rintro _ q' ⟨tellings, hq', htold⟩
    rw [hq', hq, List.nil_append, htold, hhandlers]
  rw [dispatchNoted]
  refine (Task.ensures_get_bind _ _ _).mpr ?_
  dsimp only
  rw [hannounce]
  dsimp only
  refine (Task.ensures_bind _ _ _ _).mpr ?_
  split
  · exact (Task.ensures_bind _ _ _ _).mpr (htell _ rfl rfl)
  · exact htell _ rfl rfl

/-- An event of an instance that is not bound is told to nobody, and changes nothing in the
registry. -/
theorem dispatchNoted_drops {s : State W} (hunbound : s.registry.isBound id = false) :
    (dispatchNoted host id raised).Ensures (Cell.first _ _).Confined
      (fun _ q => q.2 = [] ∧ q.1.registry = s.registry) (s, []) := by
  have hannounce : s.registry.announce id raised.event raised.details.errorCode = none := by
    rw [Registry.announce, if_neg (by simp [hunbound])]
  rw [dispatchNoted]
  refine (Task.ensures_get_bind _ _ _).mpr ?_
  dsimp only
  rw [hannounce]
  exact ⟨rfl, rfl⟩

/-- **Exact fan-out.**  Whatever state an event finds, and whatever the handlers and others do while
it is told: an event of a bound instance runs every global handler that is registered for it, in
order, and then every registration of a client whose domain resolves to the instance, those of one
domain in order, each once and nothing else.  They are given the details as they were emitted, with
the name of the instance if they had none.  An event of an instance that is not bound changes
nothing and runs nothing. -/
theorem dispatch_tells_recipients (host : Host W) (s : State W) (id : ProviderId)
    (raised : RaisedEvent) :
    Task.Mimics True Eq (dispatchNoted host id raised) (dispatch host id raised) ∧
    (s.registry.isBound id = true →
      ∃ p ∈ s.registry.bindings, p.id = id ∧ ∃ told : List ClientRegistration,
        told.Perm (concerned s id raised.event) ∧
        (∀ domain, told.filter (·.domain = domain) =
          (concerned s id raised.event).filter (·.domain = domain)) ∧
        (dispatchNoted host id raised).Ensures (Cell.first _ _).Confined
          (fun _ q => q.2.map Telling.told =
            ((s.handlers.global.filter (·.1 == raised.event)).map (·.2) ++
              told.map (·.handler)).map fun handler =>
                (handler, if raised.details.providerName = "" then
                  raised.details.withProviderName p.name else raised.details)) (s, [])) ∧
    (s.registry.isBound id = false →
      (dispatchNoted host id raised).Ensures (Cell.first _ _).Confined
        (fun _ q => q.2 = [] ∧ q.1.registry = s.registry) (s, [])) := by
  refine ⟨dispatchNoted_mimics host id raised, fun hbound => ?_, dispatchNoted_drops⟩
  obtain ⟨p, hp, hid, hname⟩ := exists_nameProvider hbound
  obtain ⟨told, hperm, horder, hrecipients⟩ := recipients_eq s id raised.event
  refine ⟨p, hp, hid, told, hperm, horder, ?_⟩
  rw [← hrecipients, ← hname]
  exact dispatchNoted_tells hbound

end Tells

/-! ### Handlers that get in the way -/

/-- An application with a handler that panics, and one that removes all the registrations. -/
def meddling : Host Unit where
  provider _ _ := NoOp.provider _
  hook _ _ := .silent
  handle handler _ :=
    if handler.number = 1 then .done (some (.text "one"))
    else do
      if handler.number = 2 then Task.modify fun s => { s with handlers := .empty }
      return none
  receive _ _ := .done ()
  journal _ world := world

/-- A provider is bound to one domain.  The handler that panics and the one that removes all the
registrations come first, and still the others are told that the provider is ready: the third one,
which is global, and the fourth one, which is registered for that domain, but not those of other
domains.  Nobody is told so of a provider that is not bound. -/
theorem told_when_handlers_meddle :
    let registry := (Registry.bind (.fresh 0) (.domain "a") ⟨.application 1, "first"⟩).1
    let global := [1, 2, 3].map fun number => (ProviderEvent.ready, HandlerId.mk number)
    let clients := [⟨none, .ready, ⟨5⟩⟩, ⟨some "b", .ready, ⟨6⟩⟩, ⟨some "a", .ready, ⟨4⟩⟩]
    let s : State Unit := { State.fresh () with registry, handlers := ⟨global, clients⟩ }
    let after := fun id => ((dispatchNoted meddling id .ready).run (s, [])).2
    (after (.application 1)).1.handlers = .empty ∧
      (after (.application 1)).2.map Telling.told = ([1, 2, 3, 4].map fun number =>
        (⟨number⟩, EventDetails.empty.withProviderName "first")) ∧
      (after (.application 2)).2 = [] := by
  intro registry global clients s after
  have hrefl : ∀ p : State Unit × List Telling, (Cell.first _ _).Confined p p := fun p => ⟨p.1, rfl⟩
  have hbound : registry.isBound (.application 1) = true := by decide +kernel
  have hunbound : registry.isBound (.application 2) = false := by decide +kernel
  obtain ⟨p, hp, hid, told, hperm, -, htold⟩ :=
    (dispatch_tells_recipients meddling s (.application 1) .ready).2.1 hbound
  have hdropped := (dispatch_tells_recipients meddling s (.application 2) .ready).2.2 hunbound
  have hnames : ∀ p ∈ registry.bindings, p.id = .application 1 → p.name = "first" := by
    decide +kernel
  have hconcerned : concerned s (.application 1) RaisedEvent.ready.event =
      [⟨some "a", .ready, ⟨4⟩⟩] := by decide +kernel
  rw [hconcerned, List.perm_singleton] at hperm
  rw [hperm, hnames p hp hid] at htold
  exact ⟨by decide +kernel, Task.run_of_ensures hrefl htold, (Task.run_of_ensures hrefl hdropped).1⟩

end Api

end FeatureFlags
