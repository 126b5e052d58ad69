import FeatureFlags.Emitter
import FeatureFlags.ProviderStatus
import FeatureFlags.SortedMap
import FeatureFlags.Table

/-!
# The registry

Which provider serves which domain, and the status of every bound provider.  Each
operation here is one undisturbed step; what a change of bindings asks to be done to
providers is handed out as a list of jobs, to be performed afterwards.

## Main definitions

* `Registry` — bindings and statuses.
* `Registry.bind`, `Registry.clear` — change the bindings and hand out jobs.
* `Registry.release` — forgets the status of a provider that has been shut down.
* `Registry.announce` — applies an event to the status of a bound provider.
* `Registry.resolve`, `Registry.boundProviders` — look-ups.
-/

namespace FeatureFlags

/-- What a provider is bound to. -/
inductive Slot where
  | default
  | domain (name : String)
deriving DecidableEq, Inhabited

/-- The domain of a slot. -/
def Slot.domain? : Slot → Option String
  | default => none
  | domain name => some name

/-- What is to be done to a provider after a change of bindings. -/
inductive LifecycleJob where
  | shutDown (p : ProviderRef)
  | startUp (p : ProviderRef)
deriving DecidableEq, Inhabited

/-- Bindings and statuses. -/
structure Registry where
  /-- How many defaults the registry has made for itself before the last one. -/
  generation : Nat
  defaultProvider : ProviderRef
  domains : SortedMap ProviderRef
  statuses : Table ProviderId ProviderStatus
deriving DecidableEq

namespace Registry

/-- The default that the registry makes for itself. -/
def builtin (generation : Nat) : ProviderRef := ⟨.builtin generation, "No-op Provider"⟩

/-- No bindings but a default of its own, which is ready. -/
def fresh (generation : Nat) : Registry where
  generation := generation
  defaultProvider := builtin generation
  domains := .empty
  statuses := [((builtin generation).id, .ready)]

instance : Inhabited Registry := ⟨fresh 0⟩

/-- Every binding, the default first and the domains in order. -/
def bindings (r : Registry) : List ProviderRef :=
  r.defaultProvider :: r.domains.entries.map (·.2)

/-- Whether an instance is bound anywhere. -/
def isBound (r : Registry) (id : ProviderId) : Bool := r.bindings.any (·.id == id)

/-- The provider of a domain, or the default. -/
def resolve (r : Registry) (domain : Option String) : ProviderRef :=
  (domain.bind r.domains.find?).getD r.defaultProvider

/-- The status of an instance. -/
def statusOf (r : Registry) (id : ProviderId) : ProviderStatus :=
  (Table.find? id r.statuses).getD .notReady

/-- The provider of a domain and its status. -/
def resolveWithStatus (r : Registry) (domain : Option String) : ProviderRef × ProviderStatus :=
  (r.resolve domain, r.statusOf (r.resolve domain).id)

/-- The first binding of every instance among some bindings. -/
def distinct (seen : List ProviderId) : List ProviderRef → List ProviderRef
  | [] => []
  | p :: rest =>
    if seen.contains p.id then distinct seen rest else p :: distinct (p.id :: seen) rest

/-- Every bound instance once, the default first and the others by name. -/
def boundProviders (r : Registry) : List ProviderRef :=
  match distinct [] r.bindings with
  | [] => []
  | p :: rest => p :: rest.mergeSort fun a b => a.name ≤ b.name

/-! ### Changing bindings -/

/-- What a slot is bound to. -/
def occupant? (r : Registry) : Slot → Option ProviderRef
  | .default => some r.defaultProvider
  | .domain name => r.domains.find? name

/-- Binds a slot. -/
def occupy (r : Registry) (slot : Slot) (p : ProviderRef) : Registry :=
  match slot with
  | .default => { r with defaultProvider := p }
  | .domain name => { r with domains := r.domains.insert name p }

/-- The provider that lost its last binding when a slot was bound anew. -/
def orphan? (old : Option ProviderRef) (p : ProviderRef) (after : Registry) : Option ProviderRef :=
  old.filter fun old => old.id != p.id && !after.isBound old.id

/-- Binds a provider.  The provider that lost its last binding is to be shut down; the new
one is to be started, and is not ready, unless it was bound already. -/
def bind (r : Registry) (slot : Slot) (p : ProviderRef) : Registry × List LifecycleJob :=
  let after := r.occupy slot p
  let ended := (orphan? (r.occupant? slot) p after).toList.map .shutDown
  if r.isBound p.id then (after, ended)
  else
    ({ after with statuses := Table.put p.id .notReady after.statuses }, ended ++ [.startUp p])

/-- Unbinds everything; every instance that was bound is to be shut down once. -/
def clear (r : Registry) : Registry × List LifecycleJob :=
  (fresh (r.generation + 1), (distinct [] r.bindings).map .shutDown)

/-- Forgets the status of an instance, unless it has been bound again. -/
def release (r : Registry) (id : ProviderId) : Registry :=
  if r.isBound id then r else { r with statuses := Table.erase id r.statuses }

/-! ### Events -/

/-- The name an instance is bound under. -/
def nameOf? (r : Registry) (id : ProviderId) : Option String :=
  (r.bindings.find? (·.id == id)).map (·.name)

/-- Applies an event to the status of an instance. Nothing happens if it is not bound. -/
def announce (r : Registry) (id : ProviderId) (event : ProviderEvent) (code : Option ErrorCode) :
    Option Registry :=
  if r.isBound id then
    let next := (r.statusOf id).onEvent event code
    some { r with statuses := Table.put id next r.statuses }
  else none

end Registry

end FeatureFlags
