import FeatureFlags.Scenario.Steps

/-!
# Running a scenario

The steps run one after the other.  A call may be started as a task and polled later, so
that other steps run while it waits.  Each step is answered, together with the trace of
what happened in its course.

When all providers end at once, the order among them is of no concern: the trace of such
a step is put in groups, in the order of the providers' names, with the reports behind it.

## Main definitions

* `Session` — the state of an instance and the tasks that wait.
* `Closing.arrange` — the trace of a step that ends all providers.
* `Session.run` — one step.
* `Scenario.run` — the answers to the steps of a scenario.
-/

namespace FeatureFlags

/-- What was observed of a step. -/
structure Observation where
  reply : Reply
  trace : List TraceEntry
deriving Inhabited

/-- A task that has been started and waits. -/
structure StartedTask where
  /-- Tasks are numbered from 1 on in the order in which they are started. -/
  number : Nat
  rest : Task ScriptedState Reply

/-- An instance in use: its state and the tasks that wait. -/
structure Session where
  state : ScriptedState
  tasks : Table String StartedTask
  /-- How many tasks have been started. -/
  started : Nat

namespace Session

/-! ### Tasks -/

/-- How often a task is polled to finish it. -/
def finishPolls : Nat := 64

/-- How deep callbacks may nest. -/
def depth : Nat := 1000

/-- The application of a scenario. -/
def host : Host World := Scripted.application depth

/-- Changes the memory of the application. -/
def modifyWorld (session : Session) (f : World → World) : Session :=
  { session with state := { session.state with world := f session.state.world } }

/-- Polls a task a number of times at most; it is gone when it has ended. -/
def poll (session : Session) (times : Nat) (name : String) : Reply × Session :=
  match Table.find? name session.tasks with
  | none => (.text "no task", session)
  | some task =>
    let running := session.modifyWorld fun w => { w with running := task.number }
    match task.rest.pollTimes times running.state with
    | (.finished r, state) =>
      (.ofTask r, { session with state, tasks := Table.erase name session.tasks })
    | (.waiting rest, state) =>
      let tasks := Table.put name { task with rest } session.tasks
      (.text "pending", { session with state, tasks })

/-- Drops the task of a name, which leaves the queues it waits in. -/
def abandon (session : Session) (name : String) : Session :=
  match Table.find? name session.tasks with
  | none => session
  | some task =>
    let freed := session.modifyWorld (·.abandon task.number)
    { freed with tasks := Table.erase name session.tasks }

/-- Starts a task under a name, in place of the one there, and polls it once. -/
def start (session : Session) (name : String) (call : Call) : Reply × Session :=
  let free := session.abandon name
  let number := free.started + 1
  let tasks := Table.put name ⟨number, Scripted.perform host call⟩ free.tasks
  { free with tasks, started := number }.poll 1 name

/-- Runs a step to its end. -/
def complete (session : Session) (task : Task ScriptedState Reply) : Reply × Session :=
  let alone := session.modifyWorld fun w => { w with running := 0 }
  let (r, state) := task.run alone.state
  (r, { session with state })

/-- The answer to a step. -/
def answer (session : Session) : Step → Reply × Session
  | .call call => session.complete (Scripted.perform host call)
  | .start name call => session.start name call
  | .poll name => session.poll 1 name
  | .finish name => session.poll finishPolls name
  | step => session.complete (Scripted.answer host step)

end Session

/-! ### When all providers end -/

namespace Closing

/-- The name of the group of a provider: that of the multi-provider which has it as a
sub-provider, the last one defined if there are several, and otherwise its own. -/
def groupOf (w : World) (name : String) : String :=
  let holds := fun (known : KnownProvider) =>
    match known.kind with
    | .multi subs _ => subs.any fun (_, sub) => (w.provider sub).id == some name
    | _ => false
  match (w.providers.filter holds).getLast? with
  | some multi => Scripted.label multi
  | none => name

/-- The name of the default provider, if the scenario gave it one. -/
def defaultName? (s : ScriptedState) : Option String :=
  match s.registry.defaultProvider.id with
  | .builtin _ => none
  | .application number => (s.world.provider number).id

/-- One group comes first, the others by name. -/
def groupLE (first : Option String) (a b : String) : Bool :=
  some a = first || some b ≠ first && a ≤ b

/-- Each entry with the name of its group.  An entry that names no provider belongs where
the entry before it belongs. -/
def grouped (groupOf : String → String) (current : String) :
    List TraceEntry → List (String × TraceEntry)
  | [] => []
  | entry :: rest =>
    let group := (entry.provider?.map groupOf).getD current
    (group, entry) :: grouped groupOf group rest

/-- A report as it is written. -/
def reportText (entry : LogEntry) : String :=
  (Json.object (entry.toMap.mapValues Json.string).entries).render

/-- Reports in the order of their texts. -/
def reportLE (a b : LogEntry) : Bool := reportText a ≤ reportText b

/-- Whether a report is the last one of a reset. -/
def isLast (entry : LogEntry) : Bool := entry.message == (Api.clearedEntry 0).message

/-- The trace of a step that ended all providers, from the state before it. -/
def arrange (before : ScriptedState) (trace : List TraceEntry) : List TraceEntry :=
  let reports := trace.filterMap (·.log?)
  let others := trace.filter fun entry => entry.log?.isNone
  let inGroups := (grouped (groupOf before.world) "" others).mergeSort fun a b =>
    groupLE (defaultName? before) a.1 b.1
  let sorted := (reports.filter fun entry => !isLast entry).mergeSort reportLE
  inGroups.map (·.2) ++ (sorted ++ reports.filter isLast).map .logged

end Closing

/-- Whether a step ends all providers. -/
def Step.endsAll : Step → Bool
  | .call .clear => true
  | .call .shutDown => true
  | _ => false

namespace Session

/-- Forgets the trace of the step before. -/
def freshTrace (session : Session) : Session :=
  session.modifyWorld fun w => { w with traced := [] }

/-- Runs a step and observes it. -/
def run (session : Session) (step : Step) : Observation × Session :=
  let before := session.freshTrace
  let (reply, after) := before.answer step
  let trace := after.state.world.traced.reverse
  (⟨reply, if step.endsAll then Closing.arrange before.state trace else trace⟩, after)

/-- Runs steps one after the other. -/
def runAll (session : Session) : List Step → List Observation × Session
  | [] => ([], session)
  | step :: rest =>
    let (observed, session) := session.run step
    let (others, session) := session.runAll rest
    (observed :: others, session)

end Session

namespace Scenario

/-- More polls than the steps of a scenario can make. -/
def patience (scenario : Scenario) : Nat :=
  Session.finishPolls * (scenario.setup.length + scenario.steps.length + 1)

/-- An instance that has not been used. -/
def start (scenario : Scenario) : Session :=
  ⟨Api.State.fresh (World.empty scenario.logs scenario.patience), [], 0⟩

/-- The answers to the steps of a scenario, after its setup. -/
def run (scenario : Scenario) : List Observation :=
  let ready := (scenario.start.runAll scenario.setup).2
  (ready.runAll scenario.steps).1

end Scenario

end FeatureFlags
