import FeatureFlags.Scenario.World
import FeatureFlags.Provider.Blocking

/-!
# What scripted callbacks do

The providers, hooks and handlers of an application, acting out their scripts.  The steps
inside a script are run by a function that is passed in.

## Main definitions

* `Scripted.act` — one call of a script.
* `Scripted.providerAt`, `Scripted.hookAt`, `Scripted.handle` — the parts of an
  application.
-/

namespace FeatureFlags

/-- The state of an instance that a scripted application uses. -/
abbrev ScriptedState := Api.State World

namespace Scripted

/-! ### The world as a part of the state -/

/-- Reads and changes the memory of the application. -/
def withWorld {α : Type} (f : World → α × World) : Task ScriptedState α :=
  Task.atomically fun s => ((f s.world).1, { s with world := (f s.world).2 })

def modifyWorld (f : World → World) : Task ScriptedState Unit :=
  Task.modify fun s => { s with world := f s.world }

def trace (entry : TraceEntry) : Task ScriptedState Unit := modifyWorld (·.trace entry)

/-! ### Waiting -/

/-- Waits until a ticket has been granted a permit, for a number of polls at most. -/
def awaitTicket (name : String) (ticket : Ticket) : Nat → Task ScriptedState Unit
  | 0 => .done ()
  | patience + 1 => .suspend <| .read fun s =>
    let gate := s.world.gate name
    if gate.granted.contains ticket then
      modifyWorld (·.setGate name { gate with granted := gate.granted.erase ticket })
    else awaitTicket name ticket patience

/-- Takes a permit of a gate, waiting for one if there is none. -/
def passGate (name : String) : Task ScriptedState Unit := do
  let ticket ← withWorld fun w =>
    let (gate, ticket) := (w.gate name).enter w.running
    (ticket, w.setGate name gate)
  match ticket with
  | none => return
  | some ticket =>
    let s ← Task.get
    awaitTicket name ticket s.world.patience

/-! ### Actions -/

/-- Runs a step of a callback; an answer that says something is traced. -/
def runInner (runStep : Step → Task ScriptedState Reply) (step : Step) :
    Task ScriptedState Unit := do
  match ← runStep step with
  | .nothing => return
  | r => trace (.inner r)

/-- Waits for what an action names. -/
def wait (a : Action Step) : Task ScriptedState Unit := do
  match a.gate with
  | none => pure ()
  | some name => passGate name
  Task.yields (a.yields.getD 0)

/-- One call of a script: its steps, and then, if it may suspend, what it waits for. An entry
tells that it went on afterwards. -/
def act (runStep : Step → Task ScriptedState Reply) (suspends : Bool)
    (wentOn : Option TraceEntry) (key : ScriptKey) (script : Script Step) :
    Task ScriptedState (Action Step) := do
  let a ← withWorld fun w => w.nextAction key script
  Task.each (runInner runStep) a.steps
  if suspends && a.waits then
    wait a
    match wentOn with
    | none => pure ()
    | some entry => trace entry
  return a

/-! ### Providers -/

/-- What a scenario calls a provider. -/
def label (p : KnownProvider) : String := p.id.getD p.name

variable (runStep : Step → Task ScriptedState Reply) (suspends : Bool) (number : Nat)
  (name : String) (script : CallbackScript Step)

def startUp (ctx : EvaluationContext) : Task ScriptedState (Outcome Unit) := do
  modifyWorld (·.modifyProvider number fun p => { p with startUps := p.startUps + 1 })
  trace (.startUp name ctx)
  let a ← act runStep suspends (some (.wentOn name .startUp)) (.startUp number) script.startUp
  return a.outcome ()

def shutDown : Task ScriptedState (Outcome Unit) := do
  modifyWorld (·.modifyProvider number fun p => { p with shutDowns := p.shutDowns + 1 })
  trace (.shutDown name)
  let a ← act runStep suspends (some (.wentOn name .shutDown)) (.shutDown number) script.shutDown
  return a.outcome ()

def attach (emitter : Emitter) : Task ScriptedState Unit := do
  let s ← Task.get
  trace (.attached name (s.world.provider number).emitter.isSome)
  modifyWorld (·.modifyProvider number fun p => { p with emitter := some emitter })
  Task.each (runInner runStep) script.onAttach

def detach : Task ScriptedState Unit := do
  let s ← Task.get
  trace (.detached name (s.world.provider number).emitter.isSome)
  if !script.keepsEmitter then
    modifyWorld (·.modifyProvider number fun p => { p with emitter := none })

/-- The answer of a script as one of a flag type; an object resolver answers with any JSON
data. -/
def answerAs (t : FlagType) (r : Resolution FlagValue) :
    Except EvaluationError (Resolution t.Carrier) :=
  match FlagValue.payloadAs? t r.value with
  | some value => .ok (r.withValue value)
  | none => r.toCarrier t

def resolve (t : FlagType) (flagKey : String) (defaultValue : t.Carrier)
    (ctx : EvaluationContext) : Task ScriptedState (Outcome (Resolution t.Carrier)) := do
  modifyWorld (·.modifyProvider number fun p => { p with resolves := p.resolves + 1 })
  trace (.resolve name flagKey (.ofCarrier t defaultValue) ctx)
  match Table.find? flagKey script.flags with
  | none => return .failed (.of .flagNotFound ("no flag " ++ flagKey))
  | some flag =>
    let a ← act runStep suspends (some (.wentOn name .resolve)) (.flag number flagKey) flag
    match a.outcome () with
    | .panicked p => return .panicked p
    | .failed e => return .failed e
    | .returned () =>
      match a.answer with
      | none => return .returned (.ofValue defaultValue)
      | some r => return .ofExcept (answerAs t r)

/-- A provider whose callbacks may suspend. -/
def suspendingProvider (hooks : List (Hook ScriptedState)) : Provider ScriptedState where
  name := script.name
  hooks := hooks
  startUp := startUp runStep true number name script
  shutDown := shutDown runStep true number name script
  attach := attach runStep number name script
  detach := detach number name script
  resolve := resolve runStep true number name script

/-- A provider whose callbacks run to their end. -/
def blockingProvider (types : List FlagType) (bare : Bool) (hooks : List (Hook ScriptedState)) :
    BlockingProvider ScriptedState where
  name := script.name
  hooks := hooks
  startUp ctx s :=
    if bare then (.returned (), s) else (startUp runStep false number name script ctx).run s
  shutDown s :=
    if bare then (.returned (), s) else (shutDown runStep false number name script).run s
  attach emitter s :=
    if bare then s else ((attach runStep number name script emitter).run s).2
  detach s := if bare then s else ((detach number name script).run s).2
  resolve t :=
    if types.contains t then
      some fun flagKey defaultValue ctx s =>
        (resolve runStep false number name script t flagKey defaultValue ctx).run s
    else none

end Scripted

namespace Scripted

/-! ### Hooks -/

/-- The stages that a hook has noted in its scratch space. -/
def stagesSeen (data : HookData) : List String :=
  match data.find? "stages" with
  | some (.value (.list items)) => items.filterMap (·.asString?)
  | _ => []

/-- Notes a stage in the scratch space. -/
def noteStage (stage : Stage) (data : HookData) : HookData :=
  data.insert "stages"
    (.value (.list ((stagesSeen data ++ [stage.name]).map .string)))

/-- One stage of a scripted hook. -/
def runStage (runStep : Step → Task ScriptedState Reply) (id : HookId) (name : String)
    (verbose : Bool) (stages : StageScripts Step) (stage : Stage) (ctx : HookContext)
    (hints : HookHints) (argument : StageArgument) (data : HookData) :
    Task ScriptedState (HookData × Action Step) := do
  if verbose then trace (.verboseStage name stage ctx hints (stagesSeen data) argument)
  else trace (.stage name stage)
  let a ← act runStep true none (.stage id stage) (stages.at stage)
  return (noteStage stage data, a)

/-- The hook of an identity. -/
def hookAt (journal : Journal ScriptedState) (runStep : Step → Task ScriptedState Reply)
    (s : ScriptedState) (id : HookId) : Hook ScriptedState :=
  match s.world.hooks[id.number]? with
  | none => Hook.silent
  | some known =>
    match known.script with
    | .silent => Hook.silent
    | .logging hook => hook.toHook journal
    | .scripted verbose supports stages =>
      let run := runStage runStep id known.id verbose stages
      { supports := fun t => supports.map fun types => types.contains t
        before := fun ctx hints data => do
          let (data, a) ← run .before ctx hints .nothing data
          return (data, a.outcome a.context)
        after := fun ctx details hints data => do
          let (data, a) ← run .after ctx hints (.details details) data
          return (data, a.outcome ())
        error := fun ctx e hints data => do
          let (data, a) ← run .error ctx hints (.error e) data
          return (data, a.outcome ())
        finish := fun ctx hints data => do
          let (data, a) ← run .finish ctx hints .nothing data
          return (data, a.outcome ()) }

/-! ### Multi-providers -/

/-- The strategy of a script; one that names sub-providers traces what it is offered. -/
def strategy : StrategyScript → Multi.Strategy ScriptedState
  | .firstMatch => .firstMatch _
  | .firstSuccessful => .firstSuccessful _
  | .accepting mode names =>
    { mode
      accepts := fun flagKey sub r => do
        let accepted := names.contains sub
        trace (.offered sub flagKey r accepted)
        return accepted }

/-- The provider of a number.  A multi-provider is built from providers defined before it,
so they nest no deeper than there are providers. -/
def providerAt (journal : Journal ScriptedState) (runStep : Step → Task ScriptedState Reply)
    (s : ScriptedState) : Nat → Nat → Provider ScriptedState
  | fuel, number =>
    let known := s.world.provider number
    let hooks := known.hooks.map (hookAt journal runStep s)
    match known.kind with
    | .noOp => NoOp.provider _
    | .memory => InMemory.provider (Api.memoryCell (.application number))
    | .suspending script => suspendingProvider runStep number (label known) script hooks
    | .blocking script types bare =>
      (blockingProvider runStep number (label known) script types bare hooks).toProvider journal
    | .multi subs chooser =>
      match fuel with
      | 0 => NoOp.provider _
      | fuel + 1 =>
        MultiProvider.toProvider journal (Api.relayCell (.application number))
          { id := .application number
            subs := subs.map fun (name, sub) => ⟨name, providerAt journal runStep s fuel sub⟩
            strategy := strategy chooser
            hooks }

/-! ### Handlers -/

/-- Runs a handler: its steps in its first calls, then its panic. -/
def handle (runStep : Step → Task ScriptedState Reply) (id : HandlerId)
    (details : EventDetails) : Task ScriptedState (Option Panic) := do
  let s ← Task.get
  match s.world.handlerUses[id.number]? with
  | none => return none
  | some handlerUse =>
    trace (.handled handlerUse.handler handlerUse.scope handlerUse.event details)
    match Table.find? handlerUse.handler s.world.handlers with
    | none => return none
    | some known =>
      let again := { known with calls := known.calls + 1 }
      modifyWorld fun w => { w with handlers := Table.put handlerUse.handler again w.handlers }
      if known.calls < known.script.times then
        Task.each (runInner runStep) known.script.steps
      return known.script.panic

/-! ### The application -/

/-- The application, with the function that runs the steps of its callbacks. -/
def host (runStep : Step → Task ScriptedState Reply) : Host World :=
  let journal : Journal ScriptedState := fun entry s => { s with world := s.world.record entry }
  { provider := fun s number => providerAt journal runStep s s.world.providers.length number
    hook := hookAt journal runStep
    handle := handle runStep
    receive := fun _ raised => trace (.received raised)
    journal := World.record }

end Scripted

end FeatureFlags
