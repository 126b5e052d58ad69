import FeatureFlags.Hook
import FeatureFlags.Inspect
import FeatureFlags.LogEntry
import FeatureFlags.Wire.Encode

/-!
# The logging hook

Reports the stages of every evaluation.  The evaluation context is part of a report only
if that was asked for, since it often identifies people.
-/

namespace FeatureFlags

/-- What the logging hook reports. -/
structure LoggingHook where
  includeContext : Bool
deriving DecidableEq, Inhabited

namespace LoggingHook

/-- The fields of a report that do not depend on the stage. -/
def commonFields (ctx : HookContext) : List (String × String) :=
  [("domain", Inspect.optional Inspect.text ctx.domain),
    ("provider_name", ctx.providerName),
    ("flag_key", ctx.flagKey),
    ("default_value", ctx.defaultValue.render)]

/-- The field with the evaluation context. -/
def contextField (hook : LoggingHook) (ctx : HookContext) : String × String :=
  let shown := if hook.includeContext then some ctx.evaluationContext.toJson.render else none
  ("evaluation_context", Inspect.optional Inspect.text shown)

def beforeEntry (hook : LoggingHook) (ctx : HookContext) : LogEntry :=
  .debug "flag evaluation starting"
    (("stage", "before") :: commonFields ctx ++ [hook.contextField ctx])

def afterEntry (hook : LoggingHook) (ctx : HookContext) (details : EvaluationDetails FlagValue) :
    LogEntry :=
  .debug "flag evaluated"
    (("stage", "after") :: commonFields ctx ++
      [("reason", Inspect.optional Inspect.reason details.reason),
        ("variant", Inspect.optional Inspect.text details.variant),
        ("value", details.value.render),
        hook.contextField ctx])

def errorEntry (hook : LoggingHook) (ctx : HookContext) (e : EvaluationError) : LogEntry :=
  .error "flag evaluation failed"
    (("stage", "error") :: commonFields ctx ++
      [("error_code", e.code.name),
        ("error_message", Inspect.optional Inspect.text e.message),
        hook.contextField ctx])

/-- The hook, reporting to a journal. -/
def toHook {σ : Type} (journal : Journal σ) (hook : LoggingHook) : Hook σ where
  supports _ := .ok true
  before ctx _ data := do
    Task.log journal (hook.beforeEntry ctx)
    return (data, .returned none)
  after ctx details _ data := do
    Task.log journal (hook.afterEntry ctx details)
    return (data, .returned ())
  error ctx e _ data := do
    Task.log journal (hook.errorEntry ctx e)
    return (data, .returned ())
  finish _ _ data := return (data, .returned ())

end LoggingHook

end FeatureFlags
