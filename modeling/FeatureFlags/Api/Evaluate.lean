import FeatureFlags.Api.State
import FeatureFlags.Evaluation

/-!
# Evaluations through a client

A client reads everything its evaluation depends on in one step and never looks back.

## Main definitions

* `EvaluationOptions` — hooks and hints of one call.
* `Client.evaluation` — what an evaluation depends on, read off the state.
* `Client.evaluate`, `Client.details`, `Client.value` — the calls.
-/

namespace FeatureFlags

/-- Hooks and hints of one call. -/
structure EvaluationOptions where
  hooks : List HookId
  hints : HookHints
deriving Inhabited

namespace EvaluationOptions

/-- No hooks and no hints. -/
def none : EvaluationOptions := ⟨[], .empty⟩

/-- The options as inspection shows them. -/
def inspect (options : EvaluationOptions) : String :=
  Inspect.record "EvaluationOptions"
    [("hooks", toString options.hooks.length),
      ("hook_hints", Inspect.entries Inspect.contextValue options.hints.entries)]

end EvaluationOptions

namespace Client

open Api (State)

variable {W : Type}

/-- What an evaluation depends on. -/
def evaluation (host : Host W) (client : Client) (flagType : FlagType) (flagKey : String)
    (defaultValue : FlagValue) (ctx : EvaluationContext) (options : EvaluationOptions)
    (s : State W) : Evaluation (State W) :=
  let (p, status) := s.registry.resolveWithStatus client.domain
  let provider := host.providerOf s p.id
  let own := s.clientScope client
  { provider
    status
    flagType
    flagKey
    defaultValue
    context := .mergeAll [s.scope.context, own.context, ctx]
    domain := client.domain
    hooks := (s.scope.hooks ++ own.hooks ++ options.hooks).map (host.hook s) ++ provider.hooks
    hints := options.hints }

/-- Evaluates a flag as a flag type. -/
def evaluate (host : Host W) (client : Client) (flagType : FlagType) (flagKey : String)
    (defaultValue : FlagValue) (ctx : EvaluationContext) (options : EvaluationOptions) :
    Task (State W) (Except Panic (EvaluationDetails FlagValue)) :=
  .read fun s =>
    (client.evaluation host flagType flagKey defaultValue ctx options s).run host.log

/-- Evaluates a flag for a default of a flag type's carrier. -/
def details (host : Host W) (client : Client) (t : FlagType) (flagKey : String)
    (defaultValue : t.Carrier) (ctx : EvaluationContext) (options : EvaluationOptions) :
    Task (State W) (Except Panic (EvaluationDetails t.Carrier)) := do
  let result ← client.evaluate host t flagKey (.ofCarrier t defaultValue) ctx options
  return result.map (Evaluation.typedDetails t defaultValue)

/-- The value alone. -/
def value (host : Host W) (client : Client) (t : FlagType) (flagKey : String)
    (defaultValue : t.Carrier) (ctx : EvaluationContext) (options : EvaluationOptions) :
    Task (State W) (Except Panic t.Carrier) := do
  let result ← client.details host t flagKey defaultValue ctx options
  return result.map (·.value)

/-- A client as inspection shows it. -/
def inspect (client : Client) (s : State W) : String :=
  Inspect.openRecord "Client"
    [("metadata", Inspect.record "ClientMetadata"
        [("domain", Inspect.optional Inspect.text client.domain)]),
      ("hooks", toString (s.clientScope client).hooks.length)]

/-- A client that blocks, as inspection shows it. -/
def inspectBlocking (client : Client) (s : State W) : String :=
  Inspect.openRecord "BlockingClient" [("client", client.inspect s)]

end Client

end FeatureFlags
