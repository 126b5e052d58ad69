import FeatureFlags.Scenario.Script

/-!
# The world of a scripted application

What an application remembers between calls: its providers, hooks, handlers and clients by
the names the scenario gives them, how often each script was called, the gates that
callbacks wait at, and the trace of the step in progress.

## Main definitions

* `TraceEntry`, `Reply` — what is observed of a step.
* `Gate` — permits, and who waits for one.
* `World` — the memory of an application.
-/

namespace FeatureFlags

/-! ### What is observed -/

/-- The answer to a step. -/
inductive Reply where
  | nothing
  | bool (b : Bool)
  | number (n : Nat)
  | text (s : String)
  | texts (items : List String)
  | context (ctx : EvaluationContext)
  | value (v : FlagValue)
  | details (d : EvaluationDetails FlagValue)
  | resolution (r : Resolution FlagValue)
  | failed (e : EvaluationError)
  | refused (e : UsageError)
  | panicked (p : Panic)
  | client (domain : Option String)
  | bound (ids : List String) (name : String) (status : ProviderStatus)
  | counts (startUps shutDowns resolves : Nat) (attached : Bool)
  | options (shown : String) (hookCount : Nat) (hints : HookHints)
  | blocking (status : ProviderStatus) (domain : Option String) (shown : String)
  /-- A task that has ended with an answer. -/
  | ready (r : Reply)
deriving Inhabited

/-- The answer of a task that has ended; a panic is passed on as it is. -/
def Reply.ofTask : Reply → Reply
  | panicked p => panicked p
  | r => ready r

/-- What a stage of a hook is given besides the context. -/
inductive StageArgument where
  | nothing
  | details (d : EvaluationDetails FlagValue)
  | error (e : EvaluationError)
deriving Inhabited

/-- A lifecycle call or lookup that may have waited. -/
inductive Waited where
  | startUp
  | shutDown
  | resolve
deriving DecidableEq, Inhabited

/-- One thing that happened during a step. -/
inductive TraceEntry where
  /-- A step of a callback gave an answer. -/
  | inner (r : Reply)
  | attached (provider : String) (before : Bool)
  | detached (provider : String) (before : Bool)
  | startUp (provider : String) (ctx : EvaluationContext)
  | shutDown (provider : String)
  | resolve (provider : String) (flagKey : String) (defaultValue : FlagValue)
      (ctx : EvaluationContext)
  /-- A callback went on after it had waited. -/
  | wentOn (provider : String) (call : Waited)
  | offered (subProvider flagKey : String) (r : Resolution FlagValue) (accepted : Bool)
  | stage (hook : String) (stage : Stage)
  | verboseStage (hook : String) (stage : Stage) (ctx : HookContext) (hints : HookHints)
      (seen : List String) (argument : StageArgument)
  /-- A handler ran, in the scope of the instance or of a client's domain. -/
  | handled (handler : String) (scope : Option (Option String)) (event : ProviderEvent)
      (details : EventDetails)
  | received (raised : RaisedEvent)
  | logged (entry : LogEntry)
deriving Inhabited

/-- The provider that an entry names. -/
def TraceEntry.provider? : TraceEntry → Option String
  | attached p _ => some p
  | detached p _ => some p
  | startUp p _ => some p
  | shutDown p => some p
  | resolve p _ _ _ => some p
  | wentOn p _ => some p
  | _ => none

/-- The report of an entry. -/
def TraceEntry.log? : TraceEntry → Option LogEntry
  | logged entry => some entry
  | _ => none

/-! ### Gates -/

/-- A place in the queue of a gate, and the task it belongs to. -/
structure Ticket where
  number : Nat
  holder : Nat
deriving DecidableEq, Inhabited

/-- Permits, and who waits for one in order of arrival. -/
structure Gate where
  permits : Nat
  waiting : List Ticket
  /-- Tickets that have been given a permit and not been used. -/
  granted : List Ticket
  nextTicket : Nat
deriving Inhabited

namespace Gate

/-- A gate without permits. -/
def closed : Gate := ⟨0, [], [], 0⟩

/-- Adds one permit: it goes to who has waited longest, or stays. -/
def addPermit (gate : Gate) : Gate :=
  match gate.waiting with
  | [] => { gate with permits := gate.permits + 1 }
  | ticket :: rest => { gate with waiting := rest, granted := ticket :: gate.granted }

/-- Adds permits. -/
def addPermits (gate : Gate) : Nat → Gate
  | 0 => gate
  | n + 1 => addPermits gate.addPermit n

/-- Takes a permit if there is one, and otherwise a ticket for the task that asks. -/
def enter (gate : Gate) (holder : Nat) : Gate × Option Ticket :=
  if 0 < gate.permits then ({ gate with permits := gate.permits - 1 }, none)
  else
    let ticket := ⟨gate.nextTicket, holder⟩
    ({ gate with waiting := gate.waiting ++ [ticket], nextTicket := gate.nextTicket + 1 },
      some ticket)

/-- Takes a task out of the queue; the permits it was given and did not use go to those
behind it. -/
def abandon (gate : Gate) (holder : Nat) : Gate :=
  let others := fun (ticket : Ticket) => ticket.holder != holder
  let unused := gate.granted.filter fun ticket => ticket.holder == holder
  let rest :=
    { gate with waiting := gate.waiting.filter others, granted := gate.granted.filter others }
  rest.addPermits unused.length

end Gate

/-! ### The memory -/

/-- What kind of provider stands behind a number. -/
inductive ProviderKind where
  | noOp
  | memory
  | suspending (script : CallbackScript Step)
  | blocking (script : CallbackScript Step) (types : List FlagType) (bare : Bool)
  | multi (subs : List (String × Nat)) (strategy : StrategyScript)
deriving Inhabited

/-- A provider of the application. -/
structure KnownProvider where
  /-- What the scenario calls it, if it was defined there. -/
  id : Option String
  name : String
  kind : ProviderKind
  hooks : List HookId
  emitter : Option Emitter
  startUps : Nat
  shutDowns : Nat
  resolves : Nat
deriving Inhabited

/-- A hook of the application. -/
structure KnownHook where
  id : String
  script : HookScript Step
deriving Inhabited

/-- A handler of the application and how often it ran. -/
structure KnownHandler where
  script : HandlerScript Step
  calls : Nat
deriving Inhabited

/-- What a handler identity stands for: a handler in a scope, for an event. -/
structure HandlerUse where
  handler : String
  scope : Option (Option String)
  event : ProviderEvent
deriving DecidableEq, Inhabited

/-- Which script was called. -/
inductive ScriptKey where
  | startUp (provider : Nat)
  | shutDown (provider : Nat)
  | flag (provider : Nat) (flagKey : String)
  | stage (hook : HookId) (stage : Stage)
deriving DecidableEq, Inhabited

/-- The memory of an application. -/
structure World where
  providers : List KnownProvider
  providerNumbers : Table String Nat
  hooks : List KnownHook
  hookNumbers : Table String HookId
  handlers : Table String KnownHandler
  handlerUses : List HandlerUse
  clients : Table String Client
  /-- How many clients were made. -/
  clientCount : Nat
  calls : Table ScriptKey Nat
  gates : Table String Gate
  /-- The number of the task that is polled; steps run to their end count as number 0. -/
  running : Nat
  logs : Option LogLevel
  /-- The trace of the step in progress, the last entry first. -/
  traced : List TraceEntry
  /-- How many polls a scenario can make. -/
  patience : Nat
deriving Inhabited

namespace World

/-- Nothing has been defined. -/
def empty (logs : Option LogLevel) (patience : Nat) : World where
  providers := []
  providerNumbers := []
  hooks := []
  hookNumbers := []
  handlers := []
  handlerUses := []
  clients := []
  clientCount := 0
  calls := []
  gates := []
  running := 0
  logs := logs
  traced := []
  patience := patience

/-- Adds an entry to the trace. -/
def trace (w : World) (entry : TraceEntry) : World := { w with traced := entry :: w.traced }

/-- Whether reports of a level are traced. -/
def keeps (w : World) (level : LogLevel) : Bool :=
  match w.logs with
  | none => false
  | some .debug => true
  | some .warn => level != .debug
  | some .error => level == .error

/-- Traces a report if its level is kept. -/
def record (entry : LogEntry) (w : World) : World :=
  if w.keeps entry.level then w.trace (.logged entry) else w

/-! ### Providers -/

/-- The provider of a number. -/
def provider (w : World) (number : Nat) : KnownProvider := w.providers[number]?.getD default

/-- The provider that the scenario calls by a name. -/
def providerNumber? (w : World) (id : String) : Option Nat := Table.find? id w.providerNumbers

/-- The number of a provider that the scenario calls by a name. -/
def providerNumber (w : World) (id : String) : Nat := (w.providerNumber? id).getD 0

/-- The identity and name of a provider. -/
def providerRef (w : World) (number : Nat) : ProviderRef :=
  ⟨.application number, (w.provider number).name⟩

def modifyProvider (w : World) (number : Nat) (f : KnownProvider → KnownProvider) : World :=
  { w with providers := w.providers.modify number f }

/-- Adds a provider that has not been called. -/
def addProvider (w : World) (id : Option String) (name : String) (kind : ProviderKind)
    (hooks : List HookId) : World :=
  let number := w.providers.length
  { w with
    providers := w.providers ++ [⟨id, name, kind, hooks, none, 0, 0, 0⟩]
    providerNumbers := match id with
      | none => w.providerNumbers
      | some id => Table.put id number w.providerNumbers }

/-- The names of the providers that are a given instance, in order. -/
def idsOf (w : World) (instanceId : ProviderId) : List String :=
  let ids := w.providerNumbers.filter fun e => .application e.2 == instanceId
  (ids.map (·.1)).mergeSort (· ≤ ·)

/-! ### Hooks, handlers, clients -/

/-- The hooks that the scenario calls by names. -/
def hookIds (w : World) (ids : List String) : List HookId :=
  ids.filterMap fun id => Table.find? id w.hookNumbers

def addHook (w : World) (id : String) (script : HookScript Step) : World :=
  { w with
    hooks := w.hooks ++ [⟨id, script⟩]
    hookNumbers := Table.put id ⟨w.hooks.length⟩ w.hookNumbers }

/-- The identity of a handler in a scope, for an event; a new one if there is none. -/
def handlerUse (w : World) (handlerUse : HandlerUse) : World × HandlerId :=
  match w.handlerUses.findIdx? (· == handlerUse) with
  | some number => (w, ⟨number⟩)
  | none =>
    ({ w with handlerUses := w.handlerUses ++ [handlerUse] }, ⟨w.handlerUses.length⟩)

def addHandler (w : World) (id : String) (script : HandlerScript Step) : World :=
  { w with handlers := Table.put id ⟨script, 0⟩ w.handlers }

def client (w : World) (id : String) : Client := (Table.find? id w.clients).getD ⟨0, none⟩

/-- Adds a client of its own under a name; an empty domain is none. -/
def addClient (w : World) (id : String) (domain : Option String) : World :=
  { w with
    clients := Table.put id ⟨w.clientCount, domain.filter (· != "")⟩ w.clients
    clientCount := w.clientCount + 1 }

/-- Puts a client under another name as well. -/
def cloneClient (w : World) (id source : String) : World :=
  { w with clients := Table.put id (w.client source) w.clients }

/-! ### Scripts and gates -/

/-- The action of the next call of a script. -/
def nextAction (w : World) (key : ScriptKey) (script : Script Step) : Action Step × World :=
  let calls := (Table.find? key w.calls).getD 0
  (script.action calls, { w with calls := Table.put key (calls + 1) w.calls })

def gate (w : World) (name : String) : Gate := (Table.find? name w.gates).getD .closed

def setGate (w : World) (name : String) (gate : Gate) : World :=
  { w with gates := Table.put name gate w.gates }

/-- Takes a task out of the queues of all gates. -/
def abandon (w : World) (holder : Nat) : World :=
  { w with gates := w.gates.map fun (name, gate) => (name, gate.abandon holder) }

end World

end FeatureFlags
