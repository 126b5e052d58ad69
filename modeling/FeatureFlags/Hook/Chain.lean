import FeatureFlags.Hook
import FeatureFlags.LogEntry

/-!
# The hooks of one evaluation

The hooks that take part in an evaluation, each with its own scratch space.  The before
stage runs from the first hook to the last, the other stages from the last to the first.
In the before and after stages the first failure ends the stage; in the error and finish
stages failures are reported and passed over.

## Main definitions

* `HookChain` — hooks with their scratch spaces, in before order.
* `HookChain.select` — the hooks that support a flag type.
* `HookChain.runBefore`, `HookChain.runAfter`, `HookChain.runError`,
  `HookChain.runFinish` — the stages.
-/

namespace FeatureFlags

/-- One position in a chain of hooks. -/
structure HookChain.Entry (σ : Type) where
  hook : Hook σ
  data : HookData

/-- The hooks of one evaluation, in before order. -/
abbrev HookChain (σ : Type) := List (HookChain.Entry σ)

namespace HookChain

variable {σ : Type}

/-- The hooks that support a flag type, each with an empty scratch space. -/
def select (flagType : FlagType) : List (Hook σ) → Except Panic (HookChain σ)
  | [] => .ok []
  | hook :: rest =>
    match hook.supports flagType with
    | .error p => .error p
    | .ok supported =>
      match select flagType rest with
      | .error p => .error p
      | .ok chain => .ok (if supported then ⟨hook, .empty⟩ :: chain else chain)

/-! ### Before -/

/-- What the before stage leaves behind. -/
structure BeforeRun (σ : Type) where
  chain : HookChain σ
  /-- The context with what the hooks gave laid over it. -/
  context : HookContext
  /-- What the hooks gave, laid over each other, or the first failure. -/
  given : Except EvaluationError EvaluationContext

/-- The report of a hook that gave context. -/
def gaveContextEntry (index : Nat) (ctx : HookContext) : LogEntry :=
  .debug "before hook returned context"
    [("hook_index", toString index), ("flag_key", ctx.flagKey)]

/-- The before stage from a position on.  Each hook sees what the hooks before it gave. -/
def runBefore (journal : Journal σ) (hints : HookHints) (index : Nat) (ctx : HookContext)
    (given : EvaluationContext) : HookChain σ → Task σ (BeforeRun σ)
  | [] => .done ⟨[], ctx, .ok given⟩
  | entry :: rest => do
    let (data, outcome) ← entry.hook.before ctx hints entry.data
    match outcome.toExcept with
    | .error e => return ⟨{ entry with data } :: rest, ctx, .error e⟩
    | .ok none =>
      let after ← runBefore journal hints (index + 1) ctx given rest
      return { after with chain := { entry with data } :: after.chain }
    | .ok (some more) =>
      Task.log journal (gaveContextEntry index ctx)
      let after ← runBefore journal hints (index + 1) (ctx.extend more) (given.merge more) rest
      return { after with chain := { entry with data } :: after.chain }

/-! ### After -/

/-- The after stage: the hooks behind a position run before it. -/
def runAfter (hints : HookHints) (ctx : HookContext) (details : EvaluationDetails FlagValue) :
    HookChain σ → Task σ (HookChain σ × Except EvaluationError Unit)
  | [] => .done ([], .ok ())
  | entry :: rest => do
    let (rest, result) ← runAfter hints ctx details rest
    match result with
    | .error e => return (entry :: rest, .error e)
    | .ok () =>
      let (data, outcome) ← entry.hook.after ctx details hints entry.data
      return ({ entry with data } :: rest, outcome.toExcept)

/-! ### Error and finish -/

/-- The report of a stage whose failure is passed over. -/
def passedOver? (stage : String) (index : Nat) (ctx : HookContext) :
    Outcome Unit → Option LogEntry
  | .returned () => none
  | .failed e =>
    some (.warn "hook failed, ignoring"
      [("stage", stage), ("hook_index", toString index), ("flag_key", ctx.flagKey),
        ("error", e.render)])
  | .panicked p =>
    some (.warn "hook panicked, ignoring"
      [("stage", stage), ("hook_index", toString index), ("flag_key", ctx.flagKey),
        ("panic", p.message)])

/-- Keeps a report if there is one. -/
def report (journal : Journal σ) : Option LogEntry → Task σ Unit
  | none => .done ()
  | some entry => Task.log journal entry

/-- A stage in which every hook runs whatever the others do, from the last to the first. -/
def runAll (journal : Journal σ) (stage : String) (ctx : HookContext)
    (call : Hook σ → HookData → Task σ (HookData × Outcome Unit)) (index : Nat) :
    HookChain σ → Task σ (HookChain σ)
  | [] => .done []
  | entry :: rest => do
    let rest ← runAll journal stage ctx call (index + 1) rest
    let (data, outcome) ← call entry.hook entry.data
    report journal (passedOver? stage index ctx outcome)
    return { entry with data } :: rest

/-- The error stage. -/
def runError (journal : Journal σ) (hints : HookHints) (ctx : HookContext) (e : EvaluationError)
    (chain : HookChain σ) : Task σ (HookChain σ) :=
  runAll journal "error" ctx (fun hook data => hook.error ctx e hints data) 0 chain

/-- The finish stage. -/
def runFinish (journal : Journal σ) (hints : HookHints) (ctx : HookContext)
    (chain : HookChain σ) : Task σ (HookChain σ) :=
  runAll journal "finally_after" ctx (fun hook data => hook.finish ctx hints data) 0 chain

end HookChain

end FeatureFlags
