import FeatureFlags.Api.Evaluate
import FeatureFlags.Hook.Logging
import FeatureFlags.Provider.Multi

/-!
# Scripts of applications

A scenario is an application written down as data: what its providers, hooks and handlers
do when they are called, and the steps that use an instance of the library.

## Main definitions

* `Action`, `Script` — what a callback does, call by call.
* `ProviderScript`, `HookScript`, `HandlerScript` — the parts of an application.
* `Call` — a step that may suspend.
* `Step` — a step.
* `Scenario` — the steps of an application.
-/

namespace FeatureFlags

/-! ### Callbacks -/

/-- What one call of a callback does: steps, then suspensions, then how it ends. -/
structure Action (S : Type) where
  steps : List S
  gate : Option String
  yields : Option Nat
  panic : Option Panic
  error : Option EvaluationError
  /-- What a before-hook gives. -/
  context : Option EvaluationContext
  /-- What a resolver answers, if it does not answer with the default. -/
  answer : Option (Resolution FlagValue)
deriving Inhabited

namespace Action

variable {S α : Type}

/-- The action that does nothing. -/
def nothing : Action S := ⟨[], none, none, none, none, none, none⟩

/-- How the action ends if it ends well with a value. -/
def outcome (a : Action S) (value : α) : Outcome α :=
  match a.panic, a.error with
  | some p, _ => .panicked p
  | none, some e => .failed e
  | none, none => .returned value

/-- Whether the action was given something to wait for. -/
def waits (a : Action S) : Bool := a.gate.isSome || a.yields.isSome

end Action

/-- The actions of the calls of a callback, in order; the last one is repeated. -/
abbrev Script (S : Type) := List (Action S)

/-- The action of the call after a number of calls. -/
def Script.action {S : Type} (script : Script S) (calls : Nat) : Action S :=
  (script[calls]?.or script.getLast?).getD .nothing

/-! ### In-memory flags -/

/-- How a flag is decided from the evaluation context. -/
inductive EvaluatorScript where
  | fixed (r : Resolution FlagValue)
  | panic (p : Panic)
  /-- The targeting key as the value. -/
  | targetingKey
  /-- The context as the value. -/
  | context
  /-- The answer that does not depend on the context. -/
  | static
  /-- One of two variants, by the value of an attribute. -/
  | switch (name : String) (equals : ContextValue) (whenEqual otherwise : String)
deriving Inhabited

namespace EvaluatorScript

/-- The answer with a variant chosen by name. -/
def answerVariant (flag : FlagDefinition) (name : String) : Resolution FlagValue :=
  match flag.variants.find? name with
  | none => .ofError (.bool false) (.of .parseError ("no variant " ++ name))
  | some value =>
    { Resolution.ofValue value with
      variant := some name
      reason := some .targetingMatch
      metadata := flag.metadata }

/-- The function of flag and context. -/
def evaluate (script : EvaluatorScript) (flag : FlagDefinition) (ctx : EvaluationContext) :
    Except Panic (Resolution FlagValue) :=
  match script with
  | fixed r => .ok r
  | panic p => .error p
  | targetingKey =>
    .ok { Resolution.ofValue (.string (ctx.effectiveKey?.getD "(none)")) with
      reason := some .targetingMatch }
  | context => .ok { Resolution.ofValue (.string ctx.toJson.render) with reason := some .split }
  | static =>
    .ok (match flag.staticResolution with
      | .ok r => r
      | .error e => .ofError (.bool false) e)
  | switch name equals whenEqual otherwise =>
    let isEqual := ((ctx.attribute? name).map fun v => v.equal equals).getD false
    .ok (answerVariant flag (if isEqual then whenEqual else otherwise))

end EvaluatorScript

/-! ### Providers, hooks, handlers -/

/-- What a scripted provider does. -/
structure CallbackScript (S : Type) where
  name : String
  hooks : List String
  flags : List (String × List (Action S))
  startUp : List (Action S)
  shutDown : List (Action S)
  onAttach : List S
  /-- Whether it goes on emitting when it has been detached. -/
  keepsEmitter : Bool
deriving Inhabited

/-- How a multi-provider chooses. -/
inductive StrategyScript where
  | firstMatch
  | firstSuccessful
  /-- Takes the answers of the sub-providers of these names. -/
  | accepting (mode : Multi.RunMode) (names : List String)
deriving Inhabited

/-- A provider of an application. -/
inductive ProviderScript (S : Type) where
  | noOp
  | memory (flags : SortedMap MemoryFlag)
  /-- A provider whose callbacks may suspend. -/
  | suspending (script : CallbackScript S)
  /-- A provider whose callbacks block, with resolvers for some flag types; without a
  lifecycle if it is bare. -/
  | blocking (script : CallbackScript S) (types : List FlagType) (bare : Bool)
  /-- Providers, new no-op ones where none is named, under names of their own or not. -/
  | multi (entries : List (Option String × Option String)) (strategy : StrategyScript)
deriving Inhabited

/-- The stages of a hook. -/
inductive Stage where
  | before
  | after
  | error
  | finish
deriving DecidableEq, Inhabited

/-- The name of a stage in a trace. -/
def Stage.name : Stage → String
  | before => "before"
  | after => "after"
  | error => "error"
  | finish => "finally"

/-- What a scripted hook does at each stage. -/
structure StageScripts (S : Type) where
  before : List (Action S)
  after : List (Action S)
  error : List (Action S)
  finish : List (Action S)
deriving Inhabited

/-- The script of a stage. -/
def StageScripts.at {S : Type} (scripts : StageScripts S) : Stage → Script S
  | .before => scripts.before
  | .after => scripts.after
  | .error => scripts.error
  | .finish => scripts.finish

/-- A hook of an application. -/
inductive HookScript (S : Type) where
  | logging (hook : LoggingHook)
  | silent
  /-- A hook that takes part in the evaluations of some flag types, or panics when it is
  asked for them. -/
  | scripted (verbose : Bool) (supports : Except Panic (List FlagType)) (stages : StageScripts S)

instance {S : Type} : Inhabited (HookScript S) := ⟨.silent⟩

/-- An event handler of an application: its steps run in its first calls only. -/
structure HandlerScript (S : Type) where
  steps : List S
  times : Nat
  panic : Option Panic
deriving Inhabited

/-! ### Steps -/

/-- What an evaluation is asked for. -/
inductive EvaluationMode where
  | details
  | value
  /-- As a flag type that the default need not have. -/
  | raw
deriving DecidableEq, Inhabited

/-- An evaluation through a client. -/
structure EvaluationCall where
  client : String
  flagKey : String
  flagType : FlagType
  defaultValue : FlagValue
  context : EvaluationContext
  hooks : List String
  hints : HookHints
  mode : EvaluationMode
deriving Inhabited

/-- A step that may suspend. -/
inductive Call where
  | setProvider (provider domain : Option String)
  | clear
  | shutDown
  | evaluate (call : EvaluationCall)
  /-- A lookup at a provider itself. -/
  | resolve (provider flagKey : String) (defaultValue : FlagValue) (ctx : EvaluationContext)
  /-- The start of a provider itself. -/
  | startUp (provider : String) (ctx : EvaluationContext)
  /-- The shutdown of a provider itself. -/
  | shutDownProvider (provider : String)
  /-- An evaluation through a client that blocks. -/
  | blockingEvaluate (call : EvaluationCall)
  /-- What a client that blocks tells about itself. -/
  | blockingInfo (client : String)
deriving Inhabited

/-- What is inspected. -/
inductive Subject where
  | api
  | client (id : String)
  | multi (provider : String)
  | flag (flag : MemoryFlag)
  | hookData (keys : List String)
  | slot (provider : String)
  | options (hooks : List String) (hints : HookHints)
deriving Inhabited

/-- A step of an application. A client named by a step stands for the instance if it is
absent. -/
inductive Step where
  | provider (id : String) (script : ProviderScript Step)
  | hook (id : String) (script : HookScript Step)
  | handler (id : String) (script : HandlerScript Step)
  | client (id : String) (domain : Option String)
  | cloneClient (id source : String)
  | addHooks (client : Option String) (hooks : List String)
  | clearHooks (client : Option String)
  | hookCount (client : Option String)
  | setContext (client : Option String) (ctx : EvaluationContext)
  | getContext (client : Option String)
  | status (domain : Option String)
  | clientStatus (client : String)
  | bound (domain : Option String)
  | addHandler (client : Option String) (event : ProviderEvent) (handler : String)
  | removeHandler (client : Option String) (event : ProviderEvent) (handler : String)
  | emit (provider : String) (raised : RaisedEvent)
  | updateFlags (provider : String) (flags : SortedMap MemoryFlag)
  | flagKeys (provider : String)
  | staticResolution (flag : FlagDefinition)
  | attach (provider : String)
  | detach (provider : String)
  /-- An event sent to the application itself. -/
  | raise (raised : RaisedEvent)
  | release (gate : String) (permits : Nat)
  | counts (provider : String)
  | setProviderHooks (provider : String) (hooks : List String)
  | providerHookCount (provider : String)
  | inspect (subject : Subject)
  /-- Runs a call to its end. -/
  | call (call : Call)
  /-- Makes a task of a call and polls it once. -/
  | start (task : String) (call : Call)
  | poll (task : String)
  /-- Polls a task a number of times at most. -/
  | finish (task : String)
deriving Inhabited

/-- The steps of an application. -/
structure Scenario where
  /-- Steps that are not answered. -/
  setup : List Step
  steps : List Step
  /-- The least level of the reports that are traced, if any are. -/
  logs : Option LogLevel
deriving Inhabited

end FeatureFlags
