import FeatureFlags.ProviderEvent

/-!
# Where events go

Providers are told apart by identity, not by name.  An emitter is the handle a provider is
given to announce events with; it says where they go.

## Main definitions

* `ProviderId`, `ProviderRef` — an instance, and an instance with its name.
* `Emitter` — the destination of a provider's events.
* `RaisedEvent` — an event with its details.
-/

namespace FeatureFlags

/-- The identity of a provider instance: a default that a registry made for itself, or an
instance of the application. -/
inductive ProviderId where
  | builtin (generation : Nat)
  | application (number : Nat)
deriving DecidableEq, Inhabited

/-- A provider instance and the name it goes by. -/
structure ProviderRef where
  id : ProviderId
  name : String
deriving DecidableEq, Inhabited

/-- The destination of a provider's events. -/
inductive Emitter where
  /-- The registry, as events of the given instance. -/
  | registry (id : ProviderId)
  /-- The multi-provider of that identity, as events of a sub-provider. -/
  | relay (id : ProviderId) (subProvider : String)
  /-- The application itself. -/
  | application (number : Nat)
deriving DecidableEq, Inhabited

/-- An event with its details. -/
structure RaisedEvent where
  event : ProviderEvent
  details : EventDetails
deriving DecidableEq, Inhabited

namespace RaisedEvent

/-- The provider is ready. -/
def ready : RaisedEvent := ⟨.ready, .empty⟩

/-- The configuration of some flags has changed. -/
def configurationChanged (flags : List String) : RaisedEvent :=
  ⟨.configurationChanged, .ofFlagsChanged flags⟩

/-- The provider has failed, for good if the error is fatal. -/
def error (e : EvaluationError) : RaisedEvent := ⟨.error, .ofError e⟩

/-- The provider serves values that may be outdated. -/
def stale (message : String) : RaisedEvent := ⟨.stale, .ofMessage message⟩

end RaisedEvent

end FeatureFlags
