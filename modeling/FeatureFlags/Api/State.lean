import FeatureFlags.EventHandlers
import FeatureFlags.Provider
import FeatureFlags.Provider.InMemory
import FeatureFlags.Provider.Multi.Relay
import FeatureFlags.Provider.NoOp
import FeatureFlags.Registry

/-!
# The state of an instance

An instance of the library: its registry, its handlers, the hooks and contexts of the
instance and of its clients, the parts of the providers that the library supplies, and
the world of the application.

The behaviour of the application is no part of the state; it is given by a `Host`, which
says what stands behind each identity.

## Main definitions

* `Api.State` — the state of an instance.
* `Host` — the behaviour of the application.
* `Client` — a client of an instance.
-/

namespace FeatureFlags

/-- The identity of a hook. -/
structure HookId where
  number : Nat
deriving DecidableEq, Inhabited

/-- A client: its identity and its domain, unless it uses the default provider. -/
structure Client where
  number : Nat
  domain : Option String
deriving DecidableEq, Inhabited

namespace Api

/-- Hooks and a context, of the instance or of a client. -/
structure Scope where
  hooks : List HookId
  context : EvaluationContext
deriving Inhabited

/-- No hooks and no context. -/
def Scope.empty : Scope := ⟨[], .empty⟩

/-- The state of an instance in a world of type `W`. -/
structure State (W : Type) where
  registry : Registry
  handlers : EventHandlers
  scope : Scope
  clients : Table Nat Scope
  memories : Table ProviderId InMemory
  relays : Table ProviderId Multi.Relay
  world : W

namespace State

variable {W : Type}

/-- An instance that has not been used yet. -/
def fresh (world : W) : State W where
  registry := .fresh 0
  handlers := .empty
  scope := .empty
  clients := []
  memories := []
  relays := []
  world := world

/-- The hooks and the context of a client. -/
def clientScope (s : State W) (client : Client) : Scope :=
  (Table.find? client.number s.clients).getD .empty

/-- Changes the hooks or the context of the instance, or of a client if one is named. -/
def modifyScope (s : State W) (client : Option Client) (f : Scope → Scope) : State W :=
  match client with
  | none => { s with scope := f s.scope }
  | some c => { s with clients := Table.put c.number (f (s.clientScope c)) s.clients }

/-- The hooks and the context of the instance, or of a client if one is named. -/
def scopeOf (s : State W) : Option Client → Scope
  | none => s.scope
  | some c => s.clientScope c

end State

variable {W : Type}

/-- The flags and the emitter of an in-memory provider. -/
def memoryCell (id : ProviderId) : Cell (State W) InMemory where
  get s := (Table.find? id s.memories).getD ⟨.empty, none⟩
  set memory s := { s with memories := Table.put id memory s.memories }

/-- The relay of a multi-provider. -/
def relayCell (id : ProviderId) : Cell (State W) Multi.Relay where
  get s := (Table.find? id s.relays).getD (.ofNames [])
  set relay s := { s with relays := Table.put id relay s.relays }

/-- The registry. -/
def registryCell : Cell (State W) Registry where
  get s := s.registry
  set registry s := { s with registry }

end Api

/-- What stands behind the identities that the application uses, and what is done with
reports. -/
structure Host (W : Type) where
  /-- The provider of an instance number. -/
  provider : Api.State W → Nat → Provider (Api.State W)
  hook : Api.State W → HookId → Hook (Api.State W)
  /-- Runs a handler; gives what it panicked with, if it did. -/
  handle : HandlerId → EventDetails → Task (Api.State W) (Option Panic)
  /-- Takes an event that was sent to the application itself. -/
  receive : Nat → RaisedEvent → Task (Api.State W) Unit
  journal : LogEntry → W → W

namespace Host

variable {W : Type}

/-- Where reports go. -/
def log (host : Host W) : Journal (Api.State W) :=
  fun entry s => { s with world := host.journal entry s.world }

/-- The provider behind an identity. -/
def providerOf (host : Host W) (s : Api.State W) : ProviderId → Provider (Api.State W)
  | .builtin _ => NoOp.provider _
  | .application number => host.provider s number

end Host

end FeatureFlags
