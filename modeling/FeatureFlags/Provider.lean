import FeatureFlags.Emitter
import FeatureFlags.Hook

/-!
# Providers

What the library asks of a provider: a name, hooks, a lifecycle, and a resolver for each
flag type.
-/

namespace FeatureFlags

/-- A provider whose callbacks work on a state of type `σ`. -/
structure Provider (σ : Type) where
  name : String
  /-- Hooks that run innermost. -/
  hooks : List (Hook σ)
  startUp : EvaluationContext → Task σ (Outcome Unit)
  shutDown : Task σ (Outcome Unit)
  attach : Emitter → Task σ Unit
  detach : Task σ Unit
  resolve : (t : FlagType) → String → t.Carrier → EvaluationContext →
    Task σ (Outcome (Resolution t.Carrier))

namespace Provider

variable {σ : Type}

/-- Resolves a flag as the type of its default. -/
def resolveValue (p : Provider σ) (flagKey : String) (defaultValue : FlagValue)
    (ctx : EvaluationContext) : Task σ (Outcome (Resolution FlagValue)) := do
  let outcome ← p.resolve defaultValue.type flagKey defaultValue.payload ctx
  return outcome.map (Resolution.map (FlagValue.ofCarrier defaultValue.type))

end Provider

end FeatureFlags
