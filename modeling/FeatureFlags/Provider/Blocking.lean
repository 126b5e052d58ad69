import FeatureFlags.Inspect
import FeatureFlags.LogEntry
import FeatureFlags.Provider

/-!
# Providers that block

A provider may be written against blocking calls: its callbacks are plain state transitions,
each of which is left to a thread of its own while the caller waits.  It implements only the
resolvers it has a use for, and a panic of its own becomes an error.

## Main definitions

* `BlockingProvider` — the callbacks of such a provider.
* `BlockingProvider.toProvider` — the provider it makes.
-/

namespace FeatureFlags

/-- A provider whose callbacks block. -/
structure BlockingProvider (σ : Type) where
  name : String
  hooks : List (Hook σ)
  startUp : EvaluationContext → σ → Outcome Unit × σ
  shutDown : σ → Outcome Unit × σ
  attach : Emitter → σ → σ
  detach : σ → σ
  /-- The resolvers there are. -/
  resolve : (t : FlagType) →
    Option (String → t.Carrier → EvaluationContext → σ → Outcome (Resolution t.Carrier) × σ)

namespace BlockingProvider

variable {σ α : Type}

/-- The error of a flag type that has no resolver. -/
def notImplementedError (t : FlagType) : EvaluationError :=
  .general (t.word ++ " resolution is not implemented by this provider")

/-- What is said about a call that panicked.  The number of the thread's task is not
shown. -/
def panicText : Panic → String
  | .text m => "task # panicked with message " ++ Inspect.text m
  | .textless => "task # panicked"

/-- The report of a call that panicked. -/
def panicEntry (name operation : String) (p : Panic) : LogEntry :=
  .error "blocking provider task failed"
    [("provider_name", name), ("operation", operation), ("error", panicText p)]

/-- What becomes of a call that has ended: a panic is reported and becomes an error. -/
def conclude (journal : Journal σ) (name operation : String) :
    Outcome α → Task σ (Outcome α)
  | .panicked p => do
    Task.log journal (panicEntry name operation p)
    return .failed (.general ("blocking " ++ operation ++ " task failed: " ++ panicText p))
  | outcome => return outcome

/-- Makes one call, on a thread of its own. -/
def call (journal : Journal σ) (name operation : String) (f : σ → Outcome α × σ) :
    Task σ (Outcome α) := do
  let outcome ← Task.onThread f
  conclude journal name operation outcome

/-- The provider, reporting to a journal. -/
def toProvider (journal : Journal σ) (p : BlockingProvider σ) : Provider σ where
  name := p.name
  hooks := p.hooks
  startUp ctx := call journal p.name "initialize" (p.startUp ctx)
  shutDown := call journal p.name "shutdown" p.shutDown
  attach emitter := Task.modify (p.attach emitter)
  detach := Task.modify p.detach
  resolve t flagKey defaultValue ctx :=
    match p.resolve t with
    | none => .done (.failed (notImplementedError t))
    | some f => call journal p.name "resolve" (f flagKey defaultValue ctx)

end BlockingProvider

end FeatureFlags
