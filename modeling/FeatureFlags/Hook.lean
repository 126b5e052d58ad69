import FeatureFlags.Hook.Data
import FeatureFlags.Outcome
import FeatureFlags.Resolution
import FeatureFlags.Task

/-!
# Hooks

A hook takes part in an evaluation at four stages.  A stage gives back the hook's scratch
space together with how it ended, so that what it stored is kept even when it fails or
panics.

## Main definitions

* `HookContext` — what a stage is told about the evaluation.
* `Hook` — the four stages and the flag types they apply to.
* `Hook.silent` — the hook that does nothing.
-/

namespace FeatureFlags

/-- Values a caller passes to all hooks of one evaluation. -/
abbrev HookHints := SortedMap ContextValue

/-- What a stage is told about the evaluation.  Only the evaluation context changes in its
course, while the before-hooks run. -/
structure HookContext where
  flagKey : String
  flagType : FlagType
  defaultValue : FlagValue
  evaluationContext : EvaluationContext
  /-- The domain of the client, unless it uses the default provider. -/
  domain : Option String
  providerName : String
deriving Inhabited

/-- The context with more attributes laid over its evaluation context. -/
def HookContext.extend (ctx : HookContext) (more : EvaluationContext) : HookContext :=
  { ctx with evaluationContext := ctx.evaluationContext.merge more }

/-- A hook whose stages work on a state of type `σ`. -/
structure Hook (σ : Type) where
  /-- Whether the hook takes part in evaluations of a flag type. -/
  supports : FlagType → Except Panic Bool
  /-- Before the lookup; may give more context. -/
  before : HookContext → HookHints → HookData →
    Task σ (HookData × Outcome (Option EvaluationContext))
  /-- After a lookup that succeeded. -/
  after : HookContext → EvaluationDetails FlagValue → HookHints → HookData →
    Task σ (HookData × Outcome Unit)
  /-- After a failure. -/
  error : HookContext → EvaluationError → HookHints → HookData → Task σ (HookData × Outcome Unit)
  /-- At the very end, in any case. -/
  finish : HookContext → HookHints → HookData → Task σ (HookData × Outcome Unit)

/-- The hook that takes part in everything and does nothing. -/
def Hook.silent {σ : Type} : Hook σ where
  supports _ := .ok true
  before _ _ data := .done (data, .returned none)
  after _ _ _ data := .done (data, .returned ())
  error _ _ _ data := .done (data, .returned ())
  finish _ _ data := .done (data, .returned ())

end FeatureFlags
