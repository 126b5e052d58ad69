import FeatureFlags.Api.Evaluate
import FeatureFlags.Api.Lifecycle
import FeatureFlags.Scenario.Behaviour

/-!
# What steps do

Every step of an application is a task over the state that ends with an answer.  Only a
call of the library or of a provider may suspend.

## Main definitions

* `Scripted.perform` — a call.
* `Scripted.answer` — any other step.
* `Scripted.application` — an application whose callbacks may contain steps.
-/

namespace FeatureFlags

namespace Scripted

/-! ### Kinds of steps -/

/-- A step that only looks. -/
def look (f : ScriptedState → Reply) : Task ScriptedState Reply := .read fun s => .done (f s)

/-- A step that only changes the state. -/
def change (f : ScriptedState → ScriptedState) : Task ScriptedState Reply := do
  Task.modify f
  return .nothing

/-- A step that only changes the memory of the application. -/
def remember (f : World → World) : Task ScriptedState Reply := do
  modifyWorld f
  return .nothing

/-! ### Definitions -/

/-- The provider of each entry of a multi-provider; where none is named, a new no-op one. -/
def entryNumbers (w : World) : List (Option String × Option String) → List Nat × World
  | [] => ([], w)
  | (some id, _) :: rest =>
    let (numbers, after) := entryNumbers w rest
    (w.providerNumber id :: numbers, after)
  | (none, _) :: rest =>
    let (numbers, after) := entryNumbers (w.addProvider none NoOp.name .noOp []) rest
    (w.providers.length :: numbers, after)

/-- Puts a multi-provider together, unless its entries cannot be named. -/
def defineMulti (host : Host World) (id : String) (entries : List (Option String × Option String))
    (chooser : StrategyScript) : Task ScriptedState Reply := do
  let numbers ← withWorld fun w => entryNumbers w entries
  let s ← Task.get
  let entry := fun (number : Nat) (entry : Option String × Option String) =>
    Multi.Entry.mk entry.2 (host.provider s number)
  let instanceId := ProviderId.application s.world.providers.length
  match MultiProvider.build instanceId (List.zipWith entry numbers entries) (strategy chooser) with
  | .error e => return .refused e
  | .ok m =>
    let names := m.subs.map (·.name)
    let kind := ProviderKind.multi (names.zip numbers) chooser
    -- hooks are remembered by their identities
    let hooks := numbers.flatMap fun number => (s.world.provider number).hooks
    modifyWorld (·.addProvider (some id) MultiProvider.name kind hooks)
    (Api.relayCell instanceId).modify fun _ => .ofNames names
    Task.log host.log (MultiProvider.builtEntry names)
    return .texts names

/-- Defines a provider. -/
def define (host : Host World) (id : String) : ProviderScript Step → Task ScriptedState Reply
  | .noOp => remember (·.addProvider (some id) NoOp.name .noOp [])
  | .memory flags => change fun s =>
    { s with
      world := s.world.addProvider (some id) InMemory.name .memory []
      memories := Table.put (.application s.world.providers.length) ⟨flags, none⟩ s.memories }
  | .suspending script => remember fun w =>
    w.addProvider (some id) script.name (.suspending script) (w.hookIds script.hooks)
  | .blocking script types bare => remember fun w =>
    w.addProvider (some id) script.name (.blocking script types bare) (w.hookIds script.hooks)
  | .multi entries chooser => defineMulti host id entries chooser

/-- The client of a name. -/
def shown (id : String) : Task ScriptedState Reply :=
  look fun s => .client (s.world.client id).domain

/-! ### Scopes and handlers -/

/-- The client that a step names; the instance if it names none. -/
def clientOf (s : ScriptedState) (id : Option String) : Option Client := id.map s.world.client

/-- Changes the hooks or the context of the instance, or of a client. -/
def changeScope (id : Option String) (f : ScriptedState → Api.Scope → Api.Scope) :
    Task ScriptedState Reply :=
  change fun s => s.modifyScope (clientOf s id) (f s)

/-- Looks at the hooks or the context of the instance, or of a client. -/
def lookAtScope (id : Option String) (f : Api.Scope → Reply) : Task ScriptedState Reply :=
  look fun s => f (s.scopeOf (clientOf s id))

/-- The identity of a handler in the scope of the instance or of a client, with that client. -/
def handlerIn (id : Option String) (event : ProviderEvent) (handler : String) :
    Task ScriptedState (Option Client × HandlerId) := do
  let client := clientOf (← Task.get) id
  let handlerId ← withWorld fun w =>
    let (w, handlerId) := w.handlerUse ⟨handler, client.map (·.domain), event⟩
    (handlerId, w)
  return (client, handlerId)

/-! ### Providers -/

/-- The provider of a name. -/
def providerNamed (host : Host World) (s : ScriptedState) (id : String) :
    Provider ScriptedState :=
  host.provider s (s.world.providerNumber id)

/-- What is known of the provider of a name. -/
def known (s : ScriptedState) (id : String) : KnownProvider :=
  s.world.provider (s.world.providerNumber id)

/-- Where the flags of an in-memory provider are. -/
def memoryOf (s : ScriptedState) (id : String) : Cell ScriptedState InMemory :=
  Api.memoryCell (.application (s.world.providerNumber id))

/-- Emits through the slot of a provider; tells whether an emitter was attached. -/
def emit (host : Host World) (id : String) (raised : RaisedEvent) : Task ScriptedState Reply := do
  match (known (← Task.get) id).emitter with
  | none => return .bool false
  | some emitter =>
    Api.deliver host emitter raised
    return .bool true

/-- What is known of a slot, as inspection shows it. -/
def inspectSlot (emitter : Option Emitter) : String :=
  Inspect.record "EmitterSlot"
    [("emitter", Inspect.record "Mutex"
      [("data", Inspect.optional (fun _ => Inspect.openRecord "ProviderEventEmitter" []) emitter)])]

/-- A multi-provider as inspection shows it. -/
def inspectMulti (host : Host World) (s : ScriptedState) (id : String) : String :=
  match (known s id).kind with
  | .multi subs chooser =>
    MultiProvider.inspect (subs.map (·.1)) (strategy chooser).mode
      (providerNamed host s id).hooks.length
  | _ => ""

/-- The scratch space of a hook as inspection shows it: its names alone. -/
def inspectHookData (data : HookData) : String :=
  Inspect.record "HookData" [("keys", Inspect.list Inspect.text data.keys)]

/-- What inspection shows of a subject. -/
def inspect (host : Host World) (s : ScriptedState) : Subject → Reply
  | .api => .text (Api.inspect s)
  | .client id => .text ((s.world.client id).inspect s)
  | .multi id => .text (inspectMulti host s id)
  | .flag flag => .text flag.inspect
  | .hookData keys => .text (inspectHookData (.ofList (keys.map fun key => (key, .bool true))))
  | .slot id => .text (inspectSlot (known s id).emitter)
  | .options hooks hints =>
    let options : EvaluationOptions := ⟨s.world.hookIds hooks, hints⟩
    .options options.inspect options.hooks.length hints

/-! ### Calls -/

/-- The answer of a call that may have panicked. -/
def replyOr {α : Type} (reply : α → Reply) : Except Panic α → Reply
  | .ok a => reply a
  | .error p => .panicked p

/-- The answer of a callback that was called directly. -/
def replyOf {α : Type} (reply : α → Reply) : Outcome α → Reply
  | .returned a => reply a
  | .failed e => .failed e
  | .panicked p => .panicked p

/-- The answer of a lifecycle callback that was called directly. -/
def lifecycleReply : Outcome Unit → Reply := replyOf fun () => .text "ok"

/-- Evaluates a flag through a client. -/
def evaluate (host : Host World) (call : EvaluationCall) : Task ScriptedState Reply := do
  let w := (← Task.get).world
  let client := w.client call.client
  let options : EvaluationOptions := ⟨w.hookIds call.hooks, call.hints⟩
  let t := call.flagType
  match call.mode, FlagValue.payloadAs? t call.defaultValue with
  | .details, some fallback =>
    let result ← client.details host t call.flagKey fallback call.context options
    return replyOr (fun d => .details (d.map (FlagValue.ofCarrier t))) result
  | .value, some fallback =>
    let result ← client.value host t call.flagKey fallback call.context options
    return replyOr (fun v => .value (.ofCarrier t v)) result
  | _, _ =>
    let result ← client.evaluate host t call.flagKey call.defaultValue call.context options
    return replyOr .details result

/-- The provider a call binds: a new no-op one if it names none. -/
def providerToBind (w : World) : Option String → ProviderRef × World
  | some id => (w.providerRef (w.providerNumber id), w)
  | none =>
    let after := w.addProvider none NoOp.name .noOp []
    (after.providerRef w.providers.length, after)

/-- Makes a call. -/
def perform (host : Host World) : Call → Task ScriptedState Reply
  | .setProvider provider domain => do
    let p ← withWorld fun w => providerToBind w provider
    match ← Api.setProvider host domain p with
    | .ok () => return .nothing
    | .error e => return .refused e
  | .clear => do
    Api.clearProviders host
    return .nothing
  | .shutDown => do
    Api.shutDown host
    return .nothing
  | .evaluate call => evaluate host call
  | .resolve provider flagKey defaultValue ctx => do
    let p := providerNamed host (← Task.get) provider
    return replyOf .resolution (← p.resolveValue flagKey defaultValue ctx)
  | .startUp provider ctx => do
    let p := providerNamed host (← Task.get) provider
    return lifecycleReply (← p.startUp ctx)
  | .shutDownProvider provider => do
    let p := providerNamed host (← Task.get) provider
    return lifecycleReply (← p.shutDown)
  | .blockingEvaluate call => Task.atomically fun s => (evaluate host call).run s
  | .blockingInfo id => look fun s =>
    let client := s.world.client id
    let status := (s.registry.resolveWithStatus client.domain).2
    .blocking status client.domain (client.inspectBlocking s)

/-! ### Steps -/

/-- The answer to a step that is not about tasks. -/
def answer (host : Host World) : Step → Task ScriptedState Reply
  | .provider id script => define host id script
  | .hook id script => remember (·.addHook id script)
  | .handler id script => remember (·.addHandler id script)
  | .client id domain => do
    modifyWorld (·.addClient id domain)
    shown id
  | .cloneClient id source => do
    modifyWorld (·.cloneClient id source)
    shown id
  | .addHooks client hooks => changeScope client fun s scope =>
    { scope with hooks := scope.hooks ++ s.world.hookIds hooks }
  | .clearHooks client => changeScope client fun _ scope => { scope with hooks := [] }
  | .hookCount client => lookAtScope client fun scope => .number scope.hooks.length
  | .setContext client ctx => changeScope client fun _ scope => { scope with context := ctx }
  | .getContext client => lookAtScope client fun scope => .context scope.context
  | .status domain => look fun s => .text (s.registry.resolveWithStatus domain).2.name
  | .clientStatus client => look fun s =>
    .text (s.registry.resolveWithStatus (s.world.client client).domain).2.name
  | .bound domain => look fun s =>
    let (p, status) := s.registry.resolveWithStatus domain
    .bound (s.world.idsOf p.id) p.name status
  | .addHandler client event handler => do
    let (client, id) ← handlerIn client event handler
    Api.addHandler host client event id
    return .nothing
  | .removeHandler client event handler => do
    let (client, id) ← handlerIn client event handler
    Api.removeHandler client event id
    return .nothing
  | .emit provider raised => emit host provider raised
  | .updateFlags provider flags => do
    let memory := memoryOf (← Task.get) provider
    InMemory.updateFlags host.log memory (Api.deliver host) flags
    return .nothing
  | .flagKeys provider => look fun s => .texts ((memoryOf s provider).get s).flags.keys
  | .staticResolution flag => look fun _ =>
    match flag.staticResolution with
    | .ok r => .resolution r
    | .error e => .failed e
  | .attach provider => do
    (providerNamed host (← Task.get) provider).attach (.application 0)
    return .nothing
  | .detach provider => do
    (providerNamed host (← Task.get) provider).detach
    return .nothing
  | .raise raised => do
    host.receive 0 raised
    return .nothing
  | .release gate permits => remember fun w => w.setGate gate ((w.gate gate).addPermits permits)
  | .counts provider => look fun s =>
    let p := known s provider
    .counts p.startUps p.shutDowns p.resolves p.emitter.isSome
  | .setProviderHooks provider hooks => remember fun w =>
    w.modifyProvider (w.providerNumber provider) fun p => { p with hooks := w.hookIds hooks }
  | .providerHookCount provider => look fun s =>
    .number (providerNamed host s provider).hooks.length
  | .inspect subject => look fun s => inspect host s subject
  | .call _ | .start _ _ | .poll _ | .finish _ => .done .nothing

/-! ### Applications -/

/-- An application in which callbacks call steps that call callbacks, to a depth. -/
def application : Nat → Host World
  | 0 => host fun _ => .done .nothing
  | depth + 1 => host (answer (application depth))

end Scripted

end FeatureFlags
