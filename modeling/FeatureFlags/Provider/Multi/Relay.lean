import FeatureFlags.Emitter
import FeatureFlags.ProviderStatus
import FeatureFlags.Table

/-!
# The relay of a multi-provider

A multi-provider keeps the status of each sub-provider and their aggregate, the worst of
them.  A change of configuration is passed on; an event about status is passed on if it
changes the aggregate, as the event that the new aggregate stands for.

## Main definitions

* `Relay` — the statuses, the aggregate, and where events go.
* `Relay.setStatus` — records a status without an event.
* `Relay.receive` — takes an event of a sub-provider.
-/

namespace FeatureFlags

namespace Multi

/-- The statuses of the sub-providers and where their events go. -/
structure Relay where
  outlet : Option Emitter
  statuses : Table String ProviderStatus
  aggregate : ProviderStatus
deriving DecidableEq, Inhabited

namespace Relay

/-- The relay of sub-providers that have not started. -/
def ofNames (names : List String) : Relay where
  outlet := none
  statuses := names.map fun name => (name, .notReady)
  aggregate := .notReady

/-- The status recorded for a sub-provider. -/
def statusOf (relay : Relay) (name : String) : ProviderStatus :=
  (Table.find? name relay.statuses).getD .notReady

/-- Records a status and the aggregate that follows. -/
def setStatus (relay : Relay) (name : String) (status : ProviderStatus) : Relay :=
  let statuses := Table.put name status relay.statuses
  { relay with statuses, aggregate := .worst (statuses.map (·.2)) }

/-- Takes an event of a sub-provider; gives the event to pass on, under the name of the
sub-provider. -/
def receive (relay : Relay) (name : String) (raised : RaisedEvent) :
    Relay × Option RaisedEvent :=
  let details := raised.details.withProviderName name
  if raised.event = .configurationChanged then (relay, some ⟨raised.event, details⟩)
  else
    let next := relay.setStatus name ((relay.statusOf name).onEvent raised.event details.errorCode)
    if next.aggregate = relay.aggregate then (next, none)
    else (next, next.aggregate.matchingEvent?.map fun event => ⟨event, details⟩)

end Relay

end Multi

end FeatureFlags
