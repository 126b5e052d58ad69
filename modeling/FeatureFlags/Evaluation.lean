import FeatureFlags.Hook.Chain
import FeatureFlags.Inspect
import FeatureFlags.Provider
import FeatureFlags.ProviderStatus

/-!
# Evaluating a flag

Everything an evaluation depends on is fixed when it starts; after that it only calls the
hooks and the provider.  It never fails: an error gives the caller's default with the
code and message of the first failure.

## Main definitions

* `Evaluation` — what is fixed at the start.
* `Evaluation.accept` — whether a provider's answer stands.
* `Evaluation.attempt` — before hooks, lookup, checks, after hooks.
* `Evaluation.run` — the whole of it, with error and finish hooks.
-/

namespace FeatureFlags

/-- What an evaluation depends on. -/
structure Evaluation (σ : Type) where
  provider : Provider σ
  status : ProviderStatus
  flagType : FlagType
  flagKey : String
  defaultValue : FlagValue
  /-- The contexts of the instance, the client and the call, laid over each other. -/
  context : EvaluationContext
  domain : Option String
  /-- The hooks of the instance, the client, the call and the provider. -/
  hooks : List (Hook σ)
  hints : HookHints

namespace Evaluation

variable {σ : Type}

/-- The error of an evaluation that is not started. -/
def shortCircuitError : ErrorCode → EvaluationError
  | .providerFatal => .of .providerFatal "Provider is in an irrecoverable error state"
  | _ => .of .providerNotReady "Provider is not ready"

/-- The error of a default of another kind than the flag type. -/
def defaultKindError (defaultType flagType : FlagType) : EvaluationError :=
  .general ("Unknown flag type: " ++ defaultType.name ++ " default for " ++ flagType.name ++
    " flag")

/-- What the hooks are told at first. -/
def hookContext (e : Evaluation σ) : HookContext where
  flagKey := e.flagKey
  flagType := e.flagType
  defaultValue := e.defaultValue
  evaluationContext := e.context
  domain := e.domain
  providerName := e.provider.name

/-- The result of a provider's answer, unless it carries an error code or a value that is
not valid for the flag type. -/
def accept (e : Evaluation σ) (r : Resolution FlagValue) :
    Except EvaluationError (EvaluationDetails FlagValue) :=
  match r.error? with
  | some err => .error err
  | none => (r.value.check e.flagType).map fun () => .ofResolution e.flagKey r

/-- What an attempt leaves behind. -/
structure Attempt (σ : Type) where
  chain : HookChain σ
  context : HookContext
  result : Except EvaluationError (EvaluationDetails FlagValue)

/-- The steps that may fail, up to the first failure. -/
def attempt (journal : Journal σ) (e : Evaluation σ) (chain : HookChain σ) :
    Task σ (Attempt σ) :=
  if e.defaultValue.type ≠ e.flagType then
    .done ⟨chain, e.hookContext, .error (defaultKindError e.defaultValue.type e.flagType)⟩
  else do
    let before ← chain.runBefore journal e.hints 0 e.hookContext .empty
    match before.given with
    | .error err => return ⟨before.chain, before.context, .error err⟩
    | .ok given =>
      let outcome ←
        e.provider.resolveValue e.flagKey e.defaultValue (e.context.merge given)
      match outcome.toExcept.bind e.accept with
      | .error err => return ⟨before.chain, before.context, .error err⟩
      | .ok details =>
        let (chain, after) ← before.chain.runAfter e.hints before.context details
        return ⟨chain, before.context, after.map fun () => details⟩

/-- The report of an evaluation that starts. -/
def startEntry (e : Evaluation σ) (hookCount : Nat) : LogEntry :=
  .debug "evaluating flag"
    [("domain", Inspect.optional Inspect.text e.domain), ("flag_key", e.flagKey),
      ("flag_type", e.flagType.name), ("provider_status", e.status.name),
      ("hooks", toString hookCount)]

/-- The report of an evaluation that failed. -/
def failureEntry (e : Evaluation σ) (err : EvaluationError) : LogEntry :=
  .error "flag evaluation failed, returning default"
    [("domain", Inspect.optional Inspect.text e.domain), ("flag_key", e.flagKey),
      ("error_code", err.code.name), ("error", err.render)]

/-- The details of a failed evaluation. -/
def failed (e : Evaluation σ) (err : EvaluationError) : EvaluationDetails FlagValue :=
  .ofError e.flagKey e.defaultValue err

/-- An evaluation with the hooks that take part in it. -/
def runWith (journal : Journal σ) (e : Evaluation σ) (chain : HookChain σ) :
    Task σ (EvaluationDetails FlagValue) := do
  Task.log journal (e.startEntry chain.length)
  match e.status.shortCircuitCode? with
  | some code =>
    let err := shortCircuitError code
    let chain ← chain.runError journal e.hints e.hookContext err
    let _ ← chain.runFinish journal e.hints e.hookContext
    return e.failed err
  | none =>
    let tried ← e.attempt journal chain
    match tried.result with
    | .ok details =>
      let _ ← tried.chain.runFinish journal e.hints tried.context
      return details
    | .error err =>
      Task.log journal (e.failureEntry err)
      let chain ← tried.chain.runError journal e.hints tried.context err
      let _ ← chain.runFinish journal e.hints tried.context
      return e.failed err

/-- A whole evaluation.  Only a hook that panics when asked for its flag types keeps it
from giving details. -/
def run (journal : Journal σ) (e : Evaluation σ) :
    Task σ (Except Panic (EvaluationDetails FlagValue)) :=
  match HookChain.select e.flagType e.hooks with
  | .error p => .done (.error p)
  | .ok chain => .ok <$> e.runWith journal chain

/-- The details for a caller who asked for a flag type: the value in its carrier, and the
caller's default whenever there is an error. -/
def typedDetails (t : FlagType) (fallback : t.Carrier) (d : EvaluationDetails FlagValue) :
    EvaluationDetails t.Carrier :=
  if d.errorCode.isSome then d.withValue fallback
  else
    match FlagValue.toCarrier t d.value with
    | .ok value => d.withValue value
    | .error e => .ofError d.flagKey fallback e

end Evaluation

end FeatureFlags
