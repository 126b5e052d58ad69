import FeatureFlags.Inspect
import FeatureFlags.LogEntry
import FeatureFlags.Provider
import FeatureFlags.Provider.Multi.Naming
import FeatureFlags.Provider.Multi.Relay
import FeatureFlags.Provider.Multi.Strategy

/-!
# The multi-provider

Several providers behind one.  A lookup asks them in order and takes the first answer that
the strategy accepts, or the last answer if it accepts none; a sub-provider that fails or
panics counts as an answer that is an error.

## Main definitions

* `MultiProvider` — named sub-providers and a strategy.
* `MultiProvider.build` — puts one together from providers that may have been given names.
* `MultiProvider.resolveValue` — the answer to a lookup.
* `MultiProvider.startUp`, `MultiProvider.shutDown` — the joint lifecycle.
* `MultiProvider.toProvider` — the provider they make.
-/

namespace FeatureFlags

/-- A provider under the name it has inside a multi-provider. -/
structure Multi.SubProvider (σ : Type) where
  name : String
  provider : Provider σ

/-- A provider that is to be one of several, and the name it was given if it was given one. -/
structure Multi.Entry (σ : Type) where
  given : Option String
  provider : Provider σ

/-- What is known about the name of an entry. -/
def Multi.Entry.request {σ : Type} (entry : Multi.Entry σ) : Multi.NameRequest :=
  ⟨entry.given, entry.provider.name⟩

/-- Several providers behind one. -/
structure MultiProvider (σ : Type) where
  id : ProviderId
  subs : List (Multi.SubProvider σ)
  strategy : Multi.Strategy σ
  /-- The hooks the sub-providers had when they were put together. -/
  hooks : List (Hook σ)

namespace MultiProvider

open Multi

variable {σ : Type}

/-- The name it goes by. -/
def name : String := "MultiProvider"

/-- Puts providers together, each under a name of its own and with the hooks that it has by
then. -/
def build (id : ProviderId) (entries : List (Entry σ)) (strategy : Strategy σ) :
    Except UsageError (MultiProvider σ) :=
  (assignNames (entries.map Entry.request)).map fun names =>
    { id
      subs := List.zipWith SubProvider.mk names (entries.map (·.provider))
      strategy
      hooks := entries.flatMap (·.provider.hooks) }

/-! ### Lookups -/

/-- The report of a sub-provider that failed. -/
def failureEntry (sub flagKey : String) (e : EvaluationError) : LogEntry :=
  .debug "sub-provider failed, trying next"
    [("provider_name", sub), ("flag_key", flagKey), ("error", e.render)]

/-- Asks one sub-provider; a failure is an answer that carries the default. -/
def consult (journal : Journal σ) (flagKey : String) (defaultValue : FlagValue)
    (ctx : EvaluationContext) (sub : SubProvider σ) : Task σ (Resolution FlagValue) := do
  let outcome ← sub.provider.resolveValue flagKey defaultValue ctx
  match outcome.toExcept with
  | .ok r => return r
  | .error e =>
    Task.log journal (failureEntry sub.name flagKey e)
    return .ofError defaultValue e

/-- The answer of a multi-provider without sub-providers. -/
def noAnswer (defaultValue : FlagValue) : Resolution FlagValue :=
  .ofError defaultValue (.general "No provider returned a result")

/-- Asks one after the other until an answer is accepted; `last` is the answer before. -/
def resolveInTurn (strategy : Strategy σ) (flagKey : String)
    (ask : SubProvider σ → Task σ (Resolution FlagValue)) (last : Resolution FlagValue) :
    List (SubProvider σ) → Task σ (Resolution FlagValue)
  | [] => .done last
  | sub :: rest => do
    let r ← ask sub
    if ← strategy.accepts flagKey sub.name r then return r
    else resolveInTurn strategy flagKey ask r rest

/-- The first of the answers that is accepted; `last` is the answer before. -/
def choose (strategy : Strategy σ) (flagKey : String) (last : Resolution FlagValue) :
    List (SubProvider σ × Resolution FlagValue) → Task σ (Resolution FlagValue)
  | [] => .done last
  | (sub, r) :: rest => do
    if ← strategy.accepts flagKey sub.name r then return r
    else choose strategy flagKey r rest

/-- The answer to a lookup. -/
def resolveValue (journal : Journal σ) (m : MultiProvider σ) (flagKey : String)
    (defaultValue : FlagValue) (ctx : EvaluationContext) : Task σ (Resolution FlagValue) :=
  let ask := consult journal flagKey defaultValue ctx
  match m.strategy.mode with
  | .sequential => resolveInTurn m.strategy flagKey ask (noAnswer defaultValue) m.subs
  | .parallel => do
    let answers ← Task.all (m.subs.map ask)
    choose m.strategy flagKey (noAnswer defaultValue) (m.subs.zip answers)

/-! ### Lifecycle -/

/-- The result of a lifecycle call, a panic as an error. -/
def guarded (o : Outcome Unit) : Except EvaluationError Unit := o.toExceptWith "panicked: "

/-- The status of a sub-provider whose start ended. -/
def startedStatus : Except EvaluationError Unit → ProviderStatus
  | .ok () => .ready
  | .error e => if e.isFatal then .fatal else .error

/-- The clause about a sub-provider that did not start. -/
def startFailure? (sub : String) : Except EvaluationError Unit → Option String
  | .ok () => none
  | .error e => some ("Provider '" ++ sub ++ "' initialization failed: " ++ e.render)

/-- Records how the start of a sub-provider ended. -/
def recordStart (relay : Cell σ Relay) (sub : String) (result : Except EvaluationError Unit) :
    Task σ Unit :=
  relay.modify fun r => r.setStatus sub (startedStatus result)

/-- Starts all sub-providers side by side and records how each one ended, one after the other.
Fails with one clause for each failure. -/
def startUp (relay : Cell σ Relay) (m : MultiProvider σ) (ctx : EvaluationContext) :
    Task σ (Outcome Unit) := do
  let outcomes ← Task.all (m.subs.map fun sub => sub.provider.startUp ctx)
  let ended := (m.subs.map (·.name)).zip (outcomes.map guarded)
  Task.each (fun (sub, result) => recordStart relay sub result) ended
  match ended.filterMap fun (sub, result) => startFailure? sub result with
  | [] => return .returned ()
  | clauses => return .failed (.general (String.intercalate "; " clauses))

/-- The report of a sub-provider that did not shut down. -/
def shutDownEntry (sub : String) (e : EvaluationError) : LogEntry :=
  .error "sub-provider shutdown failed" [("provider_name", sub), ("error", e.render)]

/-- Records that a sub-provider has been shut down, and reports a failure. -/
def finishShutDown (journal : Journal σ) (relay : Cell σ Relay) (sub : String)
    (result : Except EvaluationError Unit) : Task σ Unit := do
  match result with
  | .ok () => pure ()
  | .error e => Task.log journal (shutDownEntry sub e)
  relay.modify fun r => r.setStatus sub .notReady

/-- Shuts all sub-providers down side by side; failures are only reported. -/
def shutDown (journal : Journal σ) (relay : Cell σ Relay) (m : MultiProvider σ) :
    Task σ (Outcome Unit) := do
  let outcomes ← Task.all (m.subs.map fun sub => sub.provider.shutDown)
  Task.each (fun (sub, result) => finishShutDown journal relay sub result)
    ((m.subs.map (·.name)).zip (outcomes.map guarded))
  return .returned ()

/-- The provider, with its relay as a part of the state. -/
def toProvider (journal : Journal σ) (relay : Cell σ Relay) (m : MultiProvider σ) :
    Provider σ where
  name := name
  hooks := m.hooks
  startUp := m.startUp relay
  shutDown := m.shutDown journal relay
  attach emitter := do
    relay.modify fun r => { r with outlet := some emitter }
    Task.each (fun sub => sub.provider.attach (.relay m.id sub.name)) m.subs
  detach := do
    Task.each (fun sub => sub.provider.detach) m.subs
    relay.modify fun r => { r with outlet := none }
  resolve t flagKey defaultValue ctx := do
    let r ← m.resolveValue journal flagKey (.ofCarrier t defaultValue) ctx
    return .ofExcept (r.toCarrier t)

/-- The multi-provider as inspection shows it. -/
def inspect (subNames : List String) (mode : RunMode) (hookCount : Nat) : String :=
  Inspect.record "MultiProvider"
    [("providers", Inspect.list Inspect.text subNames), ("run_mode", mode.inspect),
      ("hooks", toString hookCount)]

/-- The report of a multi-provider that was put together. -/
def builtEntry (subNames : List String) : LogEntry :=
  .debug "multi-provider built" [("providers", Inspect.list Inspect.text subNames)]

end MultiProvider

end FeatureFlags
