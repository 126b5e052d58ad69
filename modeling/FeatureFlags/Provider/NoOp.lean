import FeatureFlags.Provider

/-!
# The no-op provider

The provider every instance starts with: it answers every lookup with the caller's
default.
-/

namespace FeatureFlags

namespace NoOp

/-- The name it goes by. -/
def name : String := "No-op Provider"

/-- The answer to every lookup. -/
def answer {α : Type} (defaultValue : α) : Resolution α :=
  { Resolution.ofValue defaultValue with
    variant := some "Passed in default"
    reason := some .default }

/-- The provider. -/
def provider (σ : Type) : Provider σ where
  name := name
  hooks := []
  startUp _ := .done (.returned ())
  shutDown := .done (.returned ())
  attach _ := .done ()
  detach := .done ()
  resolve _ _ defaultValue _ := .done (.returned (answer defaultValue))

end NoOp

end FeatureFlags
