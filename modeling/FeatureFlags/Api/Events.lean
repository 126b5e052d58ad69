import FeatureFlags.Api.State

/-!
# Delivering events

An event of a bound provider changes its status and is told to the handlers concerned.
Who is told is fixed before the first handler runs.

## Main definitions

* `Api.dispatch` — an event that reached the registry.
* `Api.deliver` — an event sent through an emitter.
* `Api.addHandler`, `Api.removeHandler` — registration.
-/

namespace FeatureFlags

namespace Api

variable {W : Type}

/-- The report of a handler that panicked. -/
def handlerPanicEntry (event : ProviderEvent) (details : EventDetails) (p : Panic) : LogEntry :=
  .warn "event handler panicked"
    [("event", event.name), ("provider_name", details.providerName), ("panic", p.message)]

/-- Runs one handler; a panic is only reported. -/
def runHandler (host : Host W) (event : ProviderEvent) (details : EventDetails)
    (handler : HandlerId) : Task (State W) Unit := do
  match ← host.handle handler details with
  | none => return
  | some p => Task.log host.log (handlerPanicEntry event details p)

/-! ### Events of registered providers -/

/-- The report of an event of a provider that is not bound. -/
def unboundEntry (event : ProviderEvent) : LogEntry :=
  .debug "event from unbound provider ignored" [("event", event.name)]

/-- The report of a change of status. -/
def statusEntry (event : ProviderEvent) (before after : ProviderStatus) : LogEntry :=
  .debug "provider status changed"
    [("event", event.name), ("from", before.name), ("to", after.name)]

/-- The details with the name of the provider, unless they name one. -/
def nameProvider (registry : Registry) (id : ProviderId) (details : EventDetails) : EventDetails :=
  if details.providerName = "" then
    details.withProviderName ((registry.nameOf? id).getD "")
  else details

/-- Whether a domain is served by an instance, by the bindings as an event finds them. -/
def serves (registry : Registry) (id : ProviderId) : Option String → Bool :=
  let defaultId := registry.defaultProvider.id
  let domains := registry.domains.mapValues (·.id)
  fun domain => (domain.bind domains.find?).getD defaultId == id

/-- Looks up who is to be told of an event: first the global handlers, then those of the clients
whose domain is served. -/
def lookUpRecipients (event : ProviderEvent) (serves : Option String → Bool) :
    Task (State W) (List HandlerId) := do
  let global := (← Task.get).handlers.globalRecipients event
  let clients := (← Task.get).handlers.clientRecipients event serves
  return global ++ clients

/-- Applies an event to the status of its provider and tells the handlers; an event of a
provider that is not bound is dropped. -/
def dispatch (host : Host W) (id : ProviderId) (raised : RaisedEvent) : Task (State W) Unit := do
  let s ← Task.get
  match s.registry.announce id raised.event raised.details.errorCode with
  | none => Task.log host.log (unboundEntry raised.event)
  | some registry =>
    registryCell.modify fun _ => registry
    let before := s.registry.statusOf id
    let after := registry.statusOf id
    if before ≠ after then Task.log host.log (statusEntry raised.event before after)
    let details := nameProvider registry id raised.details
    let recipients ← lookUpRecipients raised.event (serves registry id)
    Task.each (runHandler host raised.event details) recipients

/-! ### Emitters -/

/-- The report of a multi-provider that passes an event about status on. -/
def relayEntry (subProvider : String) (event : ProviderEvent) : LogEntry :=
  .debug "multi-provider status changed" [("provider_name", subProvider), ("event", event.name)]

/-- Sends an event through an emitter, with a bound on the number of relays in a row. -/
def deliverThrough (host : Host W) : Nat → Emitter → RaisedEvent → Task (State W) Unit
  | _, .registry id, raised => dispatch host id raised
  | _, .application number, raised => host.receive number raised
  | 0, .relay _ _, _ => .done ()
  | fuel + 1, .relay id subProvider, raised => do
    let s ← Task.get
    let (relay, passed) := ((relayCell id).get s).receive subProvider raised
    (relayCell id).modify fun _ => relay
    match passed with
    | none => return
    | some passed =>
      if passed.event ≠ .configurationChanged then
        Task.log host.log (relayEntry subProvider passed.event)
      match ((relayCell id).get (← Task.get)).outlet with
      | none => return
      | some emitter => deliverThrough host fuel emitter passed

/-- Sends an event through an emitter.  A relay sends on to the relay of a multi-provider
built after it, so there are no more in a row than there are relays. -/
def deliver (host : Host W) (emitter : Emitter) (raised : RaisedEvent) : Task (State W) Unit := do
  let s ← Task.get
  deliverThrough host (s.relays.length + 1) emitter raised

/-! ### Registration -/

/-- Runs a handler that was just added for providers whose status stands for the event. -/
def runLate (host : Host W) (event : ProviderEvent) (handler : HandlerId)
    (providers : List (ProviderRef × ProviderStatus)) : Task (State W) Unit :=
  Task.each
    (fun (p, _) => runHandler host event (EventDetails.empty.withProviderName p.name) handler)
    (providers.filter fun (_, status) => status.matchingEvent? == some event)

/-- Registers a handler for all providers, or for the provider of a client.  It runs at
once for every such provider whose status already stands for the event. -/
def addHandler (host : Host W) (client : Option Client) (event : ProviderEvent)
    (handler : HandlerId) : Task (State W) Unit := do
  match client with
  | none =>
    Task.modify fun s => { s with handlers := s.handlers.addGlobal event handler }
    let s ← Task.get
    runLate host event handler
      (s.registry.boundProviders.map fun p => (p, s.registry.statusOf p.id))
  | some c =>
    Task.modify fun s => { s with handlers := s.handlers.addClient c.domain event handler }
    let s ← Task.get
    runLate host event handler [s.registry.resolveWithStatus c.domain]

/-- Removes every registration of a handler in a scope. -/
def removeHandler (client : Option Client) (event : ProviderEvent) (handler : HandlerId) :
    Task (State W) Unit :=
  Task.modify fun s =>
    match client with
    | none => { s with handlers := s.handlers.removeGlobal event handler }
    | some c => { s with handlers := s.handlers.removeClient c.domain event handler }

end Api

end FeatureFlags
