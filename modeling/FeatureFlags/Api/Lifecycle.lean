import FeatureFlags.Api.Events

/-!
# Binding providers

A change of bindings is one step of the registry followed by its jobs, one after the
other: the provider that lost its last binding is shut down before the new one is
started.

## Main definitions

* `Api.setProvider` — binds a provider to a slot.
* `Api.clearProviders` — unbinds everything.
* `Api.perform` — one job.
-/

namespace FeatureFlags

namespace Api

variable {W : Type}

/-! ### Jobs -/

/-- The report of how a shutdown ended. -/
def shutDownEntry (name : String) : Outcome Unit → LogEntry
  | .returned () => .debug "provider shut down" [("provider_name", name)]
  | .failed e => .error "provider shutdown failed" [("provider_name", name), ("error", e.render)]
  | .panicked p =>
    .error "provider shutdown panicked" [("provider_name", name), ("panic", p.message)]

/-- What follows a shutdown: it is reported, and the status is forgotten unless the provider
is bound again by then. -/
def concludeShutDown (host : Host W) (p : ProviderRef) (outcome : Outcome Unit) :
    Task (State W) Unit := do
  Task.log host.log (shutDownEntry p.name outcome)
  registryCell.modify fun r => r.release p.id

/-- Shuts a provider down. -/
def shutDownProvider (host : Host W) (p : ProviderRef) : Task (State W) Unit := do
  let provider := host.providerOf (← Task.get) p.id
  provider.detach
  let outcome ← provider.shutDown
  concludeShutDown host p outcome

/-- The report of how a start ended. -/
def startUpEntry (name : String) : Except EvaluationError Unit → LogEntry
  | .ok () => .debug "provider initialized" [("provider_name", name)]
  | .error e =>
    .error "provider initialization failed" [("provider_name", name), ("error", e.render)]

/-- The event of a start that ended. -/
def startUpEvent (name : String) : Except EvaluationError Unit → RaisedEvent
  | .ok () => ⟨.ready, EventDetails.empty.withProviderName name⟩
  | .error e => ⟨.error, (EventDetails.ofError e).withProviderName name⟩

/-- What follows a start: how it ended is reported and announced. -/
def concludeStartUp (host : Host W) (p : ProviderRef) (outcome : Outcome Unit) :
    Task (State W) Unit := do
  let result := outcome.toExceptWith "provider initialize panicked: "
  Task.log host.log (startUpEntry p.name result)
  dispatch host p.id (startUpEvent p.name result)

/-- Starts a provider, with an emitter that leads to the registry. -/
def startUpProvider (host : Host W) (ctx : EvaluationContext) (p : ProviderRef) :
    Task (State W) Unit := do
  let provider := host.providerOf (← Task.get) p.id
  provider.attach (.registry p.id)
  let outcome ← provider.startUp ctx
  concludeStartUp host p outcome

/-- Performs a job. -/
def perform (host : Host W) (ctx : EvaluationContext) : LifecycleJob → Task (State W) Unit
  | .shutDown p => shutDownProvider host p
  | .startUp p => startUpProvider host ctx p

/-! ### Changes of bindings -/

/-- The report of a binding. -/
def boundEntry (slot : Slot) (p : ProviderRef) (starts : Bool) : LogEntry :=
  .debug "provider bound"
    [("domain", Inspect.optional Inspect.text slot.domain?), ("provider_name", p.name),
      ("needs_init", Inspect.bool starts)]

/-- Binds a provider to a slot and performs the jobs that follow from it. -/
def bindProvider (host : Host W) (slot : Slot) (p : ProviderRef) : Task (State W) Unit := do
  let s ← Task.get
  let ctx := s.scope.context
  let (registry, jobs) := s.registry.bind slot p
  registryCell.modify fun _ => registry
  Task.log host.log (boundEntry slot p (jobs.contains (.startUp p)))
  Task.each (perform host ctx) jobs

/-- Binds a provider as the default or to a domain, which must not be empty. -/
def setProvider (host : Host W) (domain : Option String) (p : ProviderRef) :
    Task (State W) (Except UsageError Unit) :=
  match domain with
  | some "" => .done (.error .noDomain)
  | some name => .ok <$> bindProvider host (.domain name) p
  | none => .ok <$> bindProvider host .default p

/-- The report of a reset. -/
def clearedEntry (count : Nat) : LogEntry :=
  .debug "providers cleared" [("count", toString count)]

/-- Unbinds every provider and shuts each one down once. -/
def clearProviders (host : Host W) : Task (State W) Unit := do
  let s ← Task.get
  let (registry, jobs) := s.registry.clear
  registryCell.modify fun _ => registry
  Task.each (perform host .empty) jobs
  Task.log host.log (clearedEntry jobs.length)

/-- The report that an instance ends. -/
def endEntry : LogEntry := .debug "shutting down openfeature api" []

/-- Ends an instance. -/
def shutDown (host : Host W) : Task (State W) Unit := do
  Task.log host.log endEntry
  clearProviders host

/-- The instance as inspection shows it. -/
def inspect (s : State W) : String :=
  Inspect.openRecord "OpenFeature"
    [("default_provider", Inspect.text s.registry.defaultProvider.name),
      ("hooks", toString s.scope.hooks.length)]

end Api

end FeatureFlags
