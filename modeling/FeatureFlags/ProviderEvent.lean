import FeatureFlags.FlagValue

/-!
# Provider events

What a provider announces about itself: that it is ready, has failed, serves stale
values, or that the configuration of flags has changed.
-/

namespace FeatureFlags

/-- What a provider announces. -/
inductive ProviderEvent where
  | ready
  | configurationChanged
  | error
  | stale
deriving DecidableEq, Inhabited

namespace ProviderEvent

/-- The name on the wire. -/
def name : ProviderEvent → String
  | ready => "PROVIDER_READY"
  | configurationChanged => "PROVIDER_CONFIGURATION_CHANGED"
  | error => "PROVIDER_ERROR"
  | stale => "PROVIDER_STALE"

def all : List ProviderEvent := [ready, configurationChanged, error, stale]

/-- The event with a name. -/
def ofName? (s : String) : Option ProviderEvent := all.find? (·.name == s)

end ProviderEvent

/-- What comes with an event. -/
structure EventDetails where
  /-- The name of the provider, filled in on delivery if it is empty. -/
  providerName : String
  /-- The keys of the flags whose configuration changed. -/
  flagsChanged : List String
  message : Option String
  errorCode : Option ErrorCode
  metadata : FlagMetadata
deriving DecidableEq, Inhabited

namespace EventDetails

/-- Details that say nothing. -/
def empty : EventDetails := ⟨"", [], none, none, .empty⟩

instance : EmptyCollection EventDetails := ⟨empty⟩

def withProviderName (d : EventDetails) (name : String) : EventDetails :=
  { d with providerName := name }

/-- Details that list changed flags. -/
def ofFlagsChanged (keys : List String) : EventDetails := { empty with flagsChanged := keys }

/-- Details with a message. -/
def ofMessage (message : String) : EventDetails := { empty with message := some message }

/-- Equality with floats compared as numbers. -/
def equal (a b : EventDetails) : Bool :=
  a.providerName == b.providerName && a.flagsChanged == b.flagsChanged &&
    a.message == b.message && a.errorCode == b.errorCode &&
    FlagMetadata.equal a.metadata b.metadata

/-- Details of a failure. -/
def ofError (e : EvaluationError) : EventDetails :=
  { empty with message := e.message, errorCode := some e.code }

end EventDetails

end FeatureFlags
