import FeatureFlags.Proofs.Annals.Ledger
import FeatureFlags.Proofs.Lifecycle.Debts
import FeatureFlags.Proofs.Lifecycle.Usage

/-!
# Calls that keep the annals

A call is run on a state that also holds the annals of its registry.  Whatever it changes in the
registry it puts down in the same step, and otherwise it is the call it was.

What the callbacks of an application change in the registry is known to the application alone.  It
is *told* by versions of the callbacks that make the same moves and put down every event that they
announce; a chronicle has such a version of each of them.  Nothing is asked of the callbacks but
that they change the registry by announcing events.

## Main definitions

* `Annals.Kept` — the state of an instance and the annals of its registry.
* `Annals.Told` — a version of a callback that puts down the events it announces.
* `Annals.Chronicle` — a told version of every callback of an application.
* `Annals.Chronicle.dispatch`, `Annals.Chronicle.bindProvider`,
  `Annals.Chronicle.clearProviders` — the calls, with the annals kept.

## Main results

* `Annals.Chronicle.bindProvider_mimics`, `Annals.Chronicle.clearProviders_mimics`,
  `Annals.Chronicle.dispatch_mimics` — **the calls make the moves they make without annals.**
* `Annals.Chronicle.dispatch_puts`, `Annals.Chronicle.advance_bindProvider`,
  `Annals.Chronicle.advance_clearProviders` — **every change that a call makes is put down.**
-/

namespace FeatureFlags

open Api (State)

namespace Annals

variable {W α : Type}

/-- The state of an instance together with the annals of its registry. -/
abbrev Kept (W : Type) := State W × Annals

/-- The registry with its annals. -/
def ledger (k : Kept W) : Ledger := (k.1.registry, k.2)

/-! ### Callbacks that are told -/

/-- An event that is applied, and put down. -/
inductive Announcing : Ledger → Ledger → Prop where
  | intro {r after : Registry} {annals : Annals} {id : ProviderId} {event : ProviderEvent}
      {code : Option ErrorCode} (h : r.announce id event code = some after) :
      Announcing (r, annals) (after, annals ++ [.announced id event code])

/-- A version of a callback that makes the same moves, changes the registry by announcing events
alone, and puts each of them down. -/
structure Told (t : Task (Kept W) α) (u : Task (State W) α) : Prop where
  mimics : Task.Mimics False Eq t u
  candid : t.Guarantees fun k k' => Relation.ReflTransGen Announcing (ledger k) (ledger k')

/-- A told version of every callback of an application that a change of bindings may run. -/
structure Chronicle (host : Host W) where
  attach : State W → ProviderId → Emitter → Task (Kept W) Unit
  startUp : State W → ProviderId → EvaluationContext → Task (Kept W) (Outcome Unit)
  detach : State W → ProviderId → Task (Kept W) Unit
  shutDown : State W → ProviderId → Task (Kept W) (Outcome Unit)
  handle : HandlerId → EventDetails → Task (Kept W) (Option Panic)
  attach_told : ∀ s id emitter,
    Told (attach s id emitter) ((host.providerOf s id).attach emitter)
  startUp_told : ∀ s id ctx, Told (startUp s id ctx) ((host.providerOf s id).startUp ctx)
  detach_told : ∀ s id, Told (detach s id) (host.providerOf s id).detach
  shutDown_told : ∀ s id, Told (shutDown s id) (host.providerOf s id).shutDown
  handle_told : ∀ handler details, Told (handle handler details) (host.handle handler details)

/-- What is changed is put down, as long as nothing that was put down at the start is lost. -/
def Puts (start : Annals) (k k' : Kept W) : Prop := start <+: k.2 → Steps (ledger k) (ledger k')

/-! ### The calls -/

namespace Chronicle

variable {host : Host W} (c : Chronicle host)

/-- A report. -/
def log (_ : Chronicle host) (entry : LogEntry) : Task (Kept W) Unit :=
  (Task.log host.log entry).within (.first _ _)

/-- Runs one handler; a panic is only reported. -/
def runHandler (event : ProviderEvent) (details : EventDetails) (handler : HandlerId) :
    Task (Kept W) Unit := do
  match ← c.handle handler details with
  | none => return
  | some p => c.log (Api.handlerPanicEntry event details p)

/-- Applies an event to the status of its provider, puts down an entry, and tells the handlers; an
event of a provider that is not bound is dropped. -/
def dispatch (id : ProviderId) (raised : RaisedEvent) (entry : Entry) : Task (Kept W) Unit := do
  let k ← Task.get
  match k.1.registry.announce id raised.event raised.details.errorCode with
  | none => c.log (Api.unboundEntry raised.event)
  | some registry =>
    Task.modify fun k => ({ k.1 with registry }, k.2 ++ [entry])
    let before := k.1.registry.statusOf id
    let after := registry.statusOf id
    if before ≠ after then c.log (Api.statusEntry raised.event before after)
    let details := Api.nameProvider registry id raised.details
    let recipients ← (Api.lookUpRecipients raised.event (Api.serves registry id)).within
      (.first _ _)
    Task.each (c.runHandler raised.event details) recipients

/-- Shuts a provider down. -/
def shutDownProvider (p : ProviderRef) : Task (Kept W) Unit := do
  let k ← Task.get
  c.detach k.1 p.id
  let outcome ← c.shutDown k.1 p.id
  (Api.concludeShutDown host p outcome).within (.first _ _)

/-- Starts a provider, at the beginning of one of its lifetimes. -/
def startUpProvider (ctx : EvaluationContext) (p : ProviderRef) (lifetime : Nat) :
    Task (Kept W) Unit := do
  let k ← Task.get
  c.attach k.1 p.id (.registry p.id)
  let outcome ← c.startUp k.1 p.id ctx
  let result := outcome.toExceptWith "provider initialize panicked: "
  c.log (Api.startUpEntry p.name result)
  c.dispatch p.id (Api.startUpEvent p.name result) (.reported p.id lifetime result)

/-- Performs a job that was handed out when some annals had come about. -/
def perform (ctx : EvaluationContext) (annals : Annals) : LifecycleJob → Task (Kept W) Unit
  | .shutDown p => c.shutDownProvider p
  | .startUp p => c.startUpProvider ctx p (lifetimes p.id annals)

/-- Binds a provider to a slot and performs the jobs that follow from it. -/
def bindProvider (slot : Slot) (p : ProviderRef) : Task (Kept W) Unit := do
  let k ← Task.get
  let ctx := k.1.scope.context
  let (registry, jobs) := k.1.registry.bind slot p
  let annals := k.2 ++ rebound k.1.registry registry
  Task.modify fun k => ({ k.1 with registry }, annals)
  c.log (Api.boundEntry slot p (jobs.contains (.startUp p)))
  Task.each (c.perform ctx annals) jobs

/-- Unbinds every provider and shuts each one down once, in some order of the jobs. -/
def clearProviders (arrange : List LifecycleJob → List LifecycleJob) : Task (Kept W) Unit := do
  let k ← Task.get
  let (registry, jobs) := k.1.registry.clear
  let annals := k.2 ++ cleared k.1.registry registry
  Task.modify fun k => ({ k.1 with registry }, annals)
  Task.each (c.perform .empty annals) (arrange jobs)
  c.log (Api.clearedEntry jobs.length)

/-! ### Keeping the annals changes nothing -/

section Mimics

open FeatureFlags.Task (Mimics mimics_each mimics_get mimics_modify mimics_within)

theorem log_mimics (entry : LogEntry) : Mimics False Eq (c.log entry) (Task.log host.log entry) :=
  mimics_within _

/-- A report, if there is one, and then something else. -/
theorem report_mimics {reported : Prop} [Decidable reported] {entry : LogEntry}
    {t : Task (Kept W) Unit} {u : Task (State W) Unit} (h : Mimics False Eq t u) :
    Mimics False Eq (if reported then (c.log entry).bind fun _ => t else t)
      (if reported then (Task.log host.log entry).bind fun _ => u else u) := by
  split
  · exact (c.log_mimics entry).bind fun _ _ _ => h
  · exact h

theorem runHandler_mimics (event : ProviderEvent) (details : EventDetails) (handler : HandlerId) :
    Mimics False Eq (c.runHandler event details handler)
      (Api.runHandler host event details handler) := by
  refine (c.handle_told handler details).mimics.bind ?_
  rintro (_ | p) _ rfl
  · exact .done rfl
  · exact c.log_mimics _

/-- An event does the same whatever is put down about it. -/
theorem dispatch_mimics (id : ProviderId) (raised : RaisedEvent) (entry : Entry) :
    Mimics False Eq (c.dispatch id raised entry) (Api.dispatch host id raised) := by
  refine mimics_get fun k => ?_
  cases k.1.registry.announce id raised.event raised.details.errorCode with
  | none => exact c.log_mimics _
  | some registry =>
    refine (mimics_modify (fun s : State W => { s with registry })
      fun k => k.2 ++ [entry]).bind fun _ _ _ => ?_
    refine c.report_mimics (Mimics.bind (mimics_within _) ?_)
    rintro recipients _ rfl
    exact mimics_each (c.runHandler_mimics raised.event _) recipients

theorem shutDownProvider_mimics (p : ProviderRef) :
    Mimics False Eq (c.shutDownProvider p) (Api.shutDownProvider host p) := by
  refine mimics_get fun k => ?_
  refine (c.detach_told k.1 p.id).mimics.bind fun _ _ _ => ?_
  refine (c.shutDown_told k.1 p.id).mimics.bind ?_
  rintro outcome _ rfl
  exact mimics_within _

theorem startUpProvider_mimics (ctx : EvaluationContext) (p : ProviderRef) (lifetime : Nat) :
    Mimics False Eq (c.startUpProvider ctx p lifetime) (Api.startUpProvider host ctx p) := by
  refine mimics_get fun k => ?_
  refine (c.attach_told k.1 p.id _).mimics.bind fun _ _ _ => ?_
  refine (c.startUp_told k.1 p.id ctx).mimics.bind ?_
  rintro outcome _ rfl
  exact (c.log_mimics _).bind fun _ _ _ => c.dispatch_mimics _ _ _

theorem perform_mimics (ctx : EvaluationContext) (annals : Annals) (job : LifecycleJob) :
    Mimics False Eq (c.perform ctx annals job) (Api.perform host ctx job) := by
  cases job with
  | shutDown p => exact c.shutDownProvider_mimics p
  | startUp p => exact c.startUpProvider_mimics ctx p _

/-- **A call that binds a provider makes the moves it makes without annals.** -/
theorem bindProvider_mimics (slot : Slot) (p : ProviderRef) :
    Mimics False Eq (c.bindProvider slot p) (Api.bindProvider host slot p) := by
  refine mimics_get fun k => ?_
  refine (mimics_modify (fun s : State W => { s with registry := _ }) _).bind fun _ _ _ => ?_
  refine (c.log_mimics _).bind fun _ _ _ => ?_
  exact mimics_each (c.perform_mimics _ _) _

/-- **A reset makes the moves it makes without annals.** -/
theorem clearProviders_mimics (arrange : List LifecycleJob → List LifecycleJob) :
    Mimics False Eq (c.clearProviders arrange) (Api.clearInOrder host arrange) := by
  refine mimics_get fun k => ?_
  refine (mimics_modify (fun s : State W => { s with registry := _ }) _).bind fun _ _ _ => ?_
  refine (mimics_each (c.perform_mimics _ _) _).bind fun _ _ _ => ?_
  exact c.log_mimics _

end Mimics

/-! ### Every change is put down -/

section Puts

open FeatureFlags.Task (Guarantees guarantees_done guarantees_each guarantees_get_bind
  guarantees_read)

variable {start : Annals}

/-- What a callback that is told changes is put down. -/
theorem told_puts {t : Task (Kept W) α} {u : Task (State W) α} (h : Told t u) :
    t.Guarantees (Puts start) := by
  refine h.candid.mono fun k k' hk _ => Relation.ReflTransGen.mono ?_ _ _ hk
  rintro _ _ ⟨hannounce⟩
  exact .announced hannounce

theorem log_puts (entry : LogEntry) : (c.log entry).Guarantees (Puts start) :=
  fun _ => ⟨fun _ => .refl, guarantees_done _⟩

theorem report_puts {reported : Prop} [Decidable reported] {entry : LogEntry}
    {t : Task (Kept W) Unit} (h : t.Guarantees (Puts start)) :
    Guarantees (Puts start) (if reported then (c.log entry).bind fun _ => t else t) := by
  split
  · exact (c.log_puts entry).bind fun _ => h
  · exact h

theorem runHandler_puts (event : ProviderEvent) (details : EventDetails) (handler : HandlerId) :
    (c.runHandler event details handler).Guarantees (Puts start) := by
  refine (told_puts (c.handle_told handler details)).bind ?_
  rintro (_ | p)
  · exact guarantees_done _
  · exact c.log_puts _

/-- What an event changes is put down, if its entry says what it changes. -/
theorem dispatch_puts {id : ProviderId} {raised : RaisedEvent} {entry : Entry}
    (hentry : ∀ {r annals after}, r.announce id raised.event raised.details.errorCode = some after →
      start <+: annals → Step (r, annals) (after, annals ++ [entry])) :
    (c.dispatch id raised entry).Guarantees (Puts start) := by
  intro k
  unfold dispatch
  simp only [Task.get, Task.bind_def, Task.bind_read, Task.bind_done, Task.GuaranteesFrom]
  cases hannounce : k.1.registry.announce id raised.event raised.details.errorCode with
  | none => exact c.log_puts _ k
  | some registry =>
    refine ⟨fun hstart => .single (hentry hannounce hstart), c.report_puts ?_⟩
    -- the recipients are looked up, which changes nothing, and then they are told
    refine guarantees_read fun _ => guarantees_read fun _ => ?_
    exact guarantees_each fun handler _ => c.runHandler_puts _ _ handler

theorem shutDownProvider_puts (p : ProviderRef) :
    (c.shutDownProvider p).Guarantees (Puts start) := by
  refine guarantees_get_bind fun k => ?_
  refine (told_puts (c.detach_told k.1 p.id)).bind fun _ => ?_
  refine (told_puts (c.shutDown_told k.1 p.id)).bind fun outcome => ?_
  -- a report, and then the release
  exact fun _ => ⟨fun _ => .refl,
    fun _ => ⟨fun _ => .single (.released p.id), guarantees_done _⟩⟩

/-- A start that was begun for a lifetime is put down for that lifetime. -/
theorem startUpProvider_puts (ctx : EvaluationContext) (p : ProviderRef) {lifetime : Nat}
    (hlifetime : lifetime ≤ lifetimes p.id start) :
    (c.startUpProvider ctx p lifetime).Guarantees (Puts start) := by
  refine guarantees_get_bind fun k => ?_
  refine (told_puts (c.attach_told k.1 p.id _)).bind fun _ => ?_
  refine (told_puts (c.startUp_told k.1 p.id ctx)).bind fun outcome => ?_
  refine (c.log_puts _).bind fun _ => c.dispatch_puts ?_
  intro r annals after hannounce hstart
  have hevent := Lifecycle.startUpEvent_eq p.name
    (outcome.toExceptWith "provider initialize panicked: ")
  obtain ⟨hevent, hcode⟩ := Prod.mk.inj hevent
  rw [hevent, hcode] at hannounce
  exact .reported (hlifetime.trans (lifetimes_mono hstart)) hannounce

theorem perform_puts (ctx : EvaluationContext) (job : LifecycleJob) :
    (c.perform ctx start job).Guarantees (Puts start) := by
  cases job with
  | shutDown p => exact c.shutDownProvider_puts p
  | startUp p => exact c.startUpProvider_puts ctx p (Nat.le_refl _)

/-- **A call that binds a provider changes the bindings in its first step**, and puts down whatever
it changes afterwards. -/
theorem advance_bindProvider (slot : Slot) (p : ProviderRef) (k : Kept W) :
    let changed := (k.1.registry.bind slot p).1
    let annals := k.2 ++ rebound k.1.registry changed
    ∃ rest, (c.bindProvider slot p).advance k = (rest, { k.1 with registry := changed }, annals) ∧
      rest.Guarantees (Puts annals) := by
  intro changed annals
  refine ⟨(c.log _).bind fun _ => Task.each (c.perform _ annals) (k.1.registry.bind slot p).2,
    rfl, ?_⟩
  exact (c.log_puts _).bind fun _ => guarantees_each fun job _ => c.perform_puts _ job

/-- **A reset changes the bindings in its first step**, and puts down whatever it changes
afterwards. -/
theorem advance_clearProviders (arrange : List LifecycleJob → List LifecycleJob) (k : Kept W) :
    let changed := k.1.registry.clear.1
    let annals := k.2 ++ cleared k.1.registry changed
    ∃ rest, (c.clearProviders arrange).advance k =
        (rest, { k.1 with registry := changed }, annals) ∧
      rest.Guarantees (Puts annals) := by
  intro changed annals
  refine ⟨(Task.each (c.perform .empty annals) (arrange k.1.registry.clear.2)).bind fun _ =>
    c.log _, rfl, ?_⟩
  exact (guarantees_each fun job _ => c.perform_puts _ job).bind fun _ => c.log_puts _

end Puts

end Chronicle

end Annals

end FeatureFlags
