import FeatureFlags.ProviderEvent

/-!
# Event handlers

Handlers are registered for one event, either for all providers or for those that serve
the domain of a client.  A handler registered twice runs twice, and removing it removes
every registration of it.

## Main definitions

* `EventHandlers` — the registrations, in order.
* `EventHandlers.recipients` — who is to be told of an event.
-/

namespace FeatureFlags

/-- The identity of a handler. -/
structure HandlerId where
  number : Nat
deriving DecidableEq, Inhabited

/-- A registration for a client's domain. -/
structure ClientRegistration where
  domain : Option String
  event : ProviderEvent
  handler : HandlerId
deriving DecidableEq, Inhabited

/-- The registrations, in order. -/
structure EventHandlers where
  global : List (ProviderEvent × HandlerId)
  clients : List ClientRegistration
deriving DecidableEq, Inhabited

namespace EventHandlers

/-- No registrations. -/
def empty : EventHandlers := ⟨[], []⟩

def addGlobal (h : EventHandlers) (event : ProviderEvent) (handler : HandlerId) : EventHandlers :=
  { h with global := h.global ++ [(event, handler)] }

def removeGlobal (h : EventHandlers) (event : ProviderEvent) (handler : HandlerId) :
    EventHandlers :=
  { h with global := h.global.filter fun r => r ≠ (event, handler) }

def addClient (h : EventHandlers) (domain : Option String) (event : ProviderEvent)
    (handler : HandlerId) : EventHandlers :=
  { h with clients := h.clients ++ [⟨domain, event, handler⟩] }

def removeClient (h : EventHandlers) (domain : Option String) (event : ProviderEvent)
    (handler : HandlerId) : EventHandlers :=
  { h with clients := h.clients.filter fun r => r ≠ ⟨domain, event, handler⟩ }

/-- No domain comes before every domain, and domains are in the order of their names. -/
def domainLE : Option String → Option String → Bool
  | none, _ => true
  | some _, none => false
  | some a, some b => a ≤ b

/-- The global handlers of an event. -/
def globalRecipients (h : EventHandlers) (event : ProviderEvent) : List HandlerId :=
  (h.global.filter (·.1 == event)).map (·.2)

/-- The handlers of an event of the clients whose domain is served by the provider concerned,
domain by domain. -/
def clientRecipients (h : EventHandlers) (event : ProviderEvent)
    (serves : Option String → Bool) : List HandlerId :=
  let concerned := h.clients.filter fun r => r.event == event && serves r.domain
  (concerned.mergeSort fun a b => domainLE a.domain b.domain).map (·.handler)

/-- The handlers of an event: the global ones, then those of the clients. -/
def recipients (h : EventHandlers) (event : ProviderEvent) (serves : Option String → Bool) :
    List HandlerId :=
  h.globalRecipients event ++ h.clientRecipients event serves

end EventHandlers

end FeatureFlags
