import FeatureFlags.Resolution
import FeatureFlags.Task

/-!
# Choosing among answers

A strategy says whether the sub-providers of a multi-provider are asked one after the
other or all at once, and which answer is taken: the first one it accepts, in the order of
the sub-providers.
-/

namespace FeatureFlags

namespace Multi

/-- How sub-providers are asked. -/
inductive RunMode where
  /-- One after the other, until an answer is accepted. -/
  | sequential
  /-- All at once; the choice is made when all have answered. -/
  | parallel
deriving DecidableEq, Inhabited

/-- The name of a mode as inspection shows it. -/
def RunMode.inspect : RunMode → String
  | sequential => "Sequential"
  | parallel => "Parallel"

/-- How a multi-provider chooses an answer. -/
structure Strategy (σ : Type) where
  mode : RunMode
  /-- Whether the answer of a sub-provider about a flag is accepted. -/
  accepts : (flagKey subProvider : String) → Resolution FlagValue → Task σ Bool

namespace Strategy

/-- Asks one after the other for the first answer that is no error. -/
def firstMatch (σ : Type) : Strategy σ := ⟨.sequential, fun _ _ r => .done (!r.isError)⟩

/-- Asks all at once for the first answer that is no error. -/
def firstSuccessful (σ : Type) : Strategy σ := ⟨.parallel, fun _ _ r => .done (!r.isError)⟩

end Strategy

end Multi

end FeatureFlags
