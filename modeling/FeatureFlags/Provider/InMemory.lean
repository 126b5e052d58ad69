import FeatureFlags.Inspect
import FeatureFlags.LogEntry
import FeatureFlags.Provider

/-!
# The in-memory provider

Serves flags from a map.  A flag has named variants and serves its default variant, unless
a function of the evaluation context decides.

## Main definitions

* `FlagDefinition`, `MemoryFlag` — a flag, without and with such a function.
* `InMemory` — the flags and the emitter of one provider.
* `InMemory.provider` — the provider over a part of the state.
* `InMemory.updateFlags` — replaces the flags and announces it.
-/

namespace FeatureFlags

/-- The named variants of a flag and the one served by default. -/
structure FlagDefinition where
  defaultVariant : String
  variants : SortedMap FlagValue
  metadata : FlagMetadata
deriving Inhabited

namespace FlagDefinition

/-- The error of a flag whose default variant does not exist. -/
def missingVariantError (flag : FlagDefinition) : EvaluationError :=
  .general ("Default variant '" ++ flag.defaultVariant ++ "' has no value")

/-- The answer that does not depend on the context. -/
def staticResolution (flag : FlagDefinition) : Except EvaluationError (Resolution FlagValue) :=
  match flag.variants.find? flag.defaultVariant with
  | none => .error flag.missingVariantError
  | some value =>
    .ok { Resolution.ofValue value with
      variant := some flag.defaultVariant
      reason := some .static
      metadata := flag.metadata }

end FlagDefinition

/-- A flag, perhaps with a function that answers in place of the default variant. -/
structure MemoryFlag extends FlagDefinition where
  evaluator : Option (FlagDefinition → EvaluationContext → Except Panic (Resolution FlagValue))
deriving Inhabited

namespace MemoryFlag

/-- The answer for a context. -/
def resolve (flag : MemoryFlag) (ctx : EvaluationContext) : Outcome (Resolution FlagValue) :=
  match flag.evaluator with
  | none => .ofExcept flag.staticResolution
  | some evaluator =>
    match evaluator flag.toFlagDefinition ctx with
    | .ok r => .returned r
    | .error p => .panicked p

/-- The flag as inspection shows it. -/
def inspect (flag : MemoryFlag) : String :=
  Inspect.record "InMemoryFlag"
    [("default_variant", Inspect.text flag.defaultVariant),
      ("variants", Inspect.entries Inspect.flagValue flag.variants.entries),
      ("flag_metadata", Inspect.entries Inspect.metadataValue flag.metadata.entries),
      ("context_evaluator", Inspect.bool flag.evaluator.isSome)]

end MemoryFlag

/-- The flags of an in-memory provider and where its events go. -/
structure InMemory where
  flags : SortedMap MemoryFlag
  emitter : Option Emitter
deriving Inhabited

namespace InMemory

/-- The name it goes by. -/
def name : String := "In-Memory Provider"

/-- The error of a lookup of an unknown flag. -/
def notFoundError (flagKey : String) : EvaluationError :=
  .of .flagNotFound ("Flag '" ++ flagKey ++ "' not found")

/-- The answer for a flag and a context, as a value of a flag type. -/
def resolve (memory : InMemory) (t : FlagType) (flagKey : String) (ctx : EvaluationContext) :
    Outcome (Resolution t.Carrier) :=
  match memory.flags.find? flagKey with
  | none => .failed (notFoundError flagKey)
  | some flag =>
    match flag.resolve ctx with
    | .returned r => .ofExcept (r.toCarrier t)
    | .failed e => .failed e
    | .panicked p => .panicked p

/-- The provider whose flags and emitter are a part of the state. -/
def provider {σ : Type} (cell : Cell σ InMemory) : Provider σ where
  name := name
  hooks := []
  startUp _ := .done (.returned ())
  shutDown := .done (.returned ())
  attach emitter := cell.modify fun memory => { memory with emitter := some emitter }
  detach := cell.modify fun memory => { memory with emitter := none }
  resolve t flagKey _ ctx := .read fun s => .done ((cell.get s).resolve t flagKey ctx)

/-- The report of a replacement of all flags. -/
def replacedEntry (keys : List String) : LogEntry :=
  .debug "in-memory flags replaced" [("flags_changed", Inspect.list Inspect.text keys)]

/-- Replaces all flags and announces the new keys if an emitter is attached. -/
def updateFlags {σ : Type} (journal : Journal σ) (cell : Cell σ InMemory)
    (deliver : Emitter → RaisedEvent → Task σ Unit) (flags : SortedMap MemoryFlag) :
    Task σ Unit := do
  cell.modify fun memory => { memory with flags }
  Task.log journal (replacedEntry flags.keys)
  let s ← Task.get
  match (cell.get s).emitter with
  | none => return
  | some emitter => deliver emitter (.configurationChanged flags.keys)

end InMemory

end FeatureFlags
