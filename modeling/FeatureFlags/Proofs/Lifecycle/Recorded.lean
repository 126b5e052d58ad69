import FeatureFlags.Proofs.Lifecycle.System
import FeatureFlags.Proofs.Lifecycle.Usage

/-!
# Writing down what a call does

A call that binds a provider, or resets the registry, is run on a state that also holds what
has happened.  The call itself is unchanged: only what it does to providers is written down
around each callback, and the change of bindings together with the step that makes it.

## Main definitions

* `Lifecycle.Recorded` — the state of an instance and what has happened.
* `Lifecycle.bindRecorded`, `Lifecycle.clearRecorded` — the calls, with what they do written
  down.
* `Lifecycle.Records` — what is written down is what the calls do.

## Main results

* `Lifecycle.records` — **the calls make the same moves whether they are written down or not.**
-/

namespace FeatureFlags

namespace Lifecycle

open Api (State)

variable {W : Type}

/-- The state of an instance together with what has happened. -/
abbrev Recorded (W : Type) := State W × History

/-! ### Calls with what they do written down -/

/-- Writes down that a duty is done. -/
def record (duty : Duty) : Task (Recorded W) Unit :=
  Task.modify fun p => (p.1, p.2 ++ [.did duty])

/-- Shuts a provider down, at the end of one of its lifetimes. -/
def shutDownRecorded (host : Host W) (p : ProviderRef) (lifetime : Nat) :
    Task (Recorded W) Unit := do
  let provider := host.providerOf (← Task.get).1 p.id
  record ⟨.detach, p.id, lifetime⟩
  provider.detach.within (.first _ _)
  record ⟨.shutDown, p.id, lifetime⟩
  let outcome ← provider.shutDown.within (.first _ _)
  record ⟨.ended, p.id, lifetime⟩
  (Api.concludeShutDown host p outcome).within (.first _ _)

/-- Starts a provider, at the beginning of one of its lifetimes. -/
def startUpRecorded (host : Host W) (ctx : EvaluationContext) (p : ProviderRef)
    (lifetime : Nat) : Task (Recorded W) Unit := do
  let provider := host.providerOf (← Task.get).1 p.id
  record ⟨.attach, p.id, lifetime⟩
  (provider.attach (.registry p.id)).within (.first _ _)
  record ⟨.startUp, p.id, lifetime⟩
  let outcome ← (provider.startUp ctx).within (.first _ _)
  record ⟨.started, p.id, lifetime⟩
  (Api.concludeStartUp host p outcome).within (.first _ _)

/-- Performs a job that was handed out when a history had come about, for the last lifetime
begun by then. -/
def performRecorded (host : Host W) (ctx : EvaluationContext) (history : History) :
    LifecycleJob → Task (Recorded W) Unit
  | .shutDown p => shutDownRecorded host p (lifetimes history p.id)
  | .startUp p => startUpRecorded host ctx p (lifetimes history p.id)

/-- Binds a provider to a slot and performs the jobs that follow from it. -/
def bindRecorded (host : Host W) (slot : Slot) (p : ProviderRef) : Task (Recorded W) Unit := do
  let (s, before) ← Task.get
  let ctx := s.scope.context
  let (registry, jobs) := s.registry.bind slot p
  let history := before ++ System.changes s.registry registry
  Task.modify fun q => ({ q.1 with registry }, history)
  (Task.log host.log (Api.boundEntry slot p (jobs.contains (.startUp p)))).within (.first _ _)
  Task.each (performRecorded host ctx history) jobs

/-- Unbinds every provider and shuts each one down once, in some order of the jobs. -/
def clearRecorded (host : Host W) (arrange : List LifecycleJob → List LifecycleJob) :
    Task (Recorded W) Unit := do
  let (s, before) ← Task.get
  let (registry, jobs) := s.registry.clear
  let history := before ++ System.changes s.registry registry
  Task.modify fun q => ({ q.1 with registry }, history ++ creation registry.defaultProvider.id)
  Task.each (performRecorded host .empty history) (arrange jobs)
  (Task.log host.log (Api.clearedEntry jobs.length)).within (.first _ _)

/-! ### Writing down changes nothing -/

/-- What is written down is what the calls on an instance do: each of them makes the same moves
whether it is written down or not. -/
structure Records (host : Host W) : Prop where
  bind : ∀ slot p,
    Task.Mimics True Eq (bindRecorded host slot p) (Api.bindProvider host slot p)
  /-- The bindings may be gone through in any order. -/
  clear : ∀ arrange,
    Task.Mimics True Eq (clearRecorded host arrange) (Api.clearInOrder host arrange)
  reset : Task.Mimics True Eq (clearRecorded host id) (Api.clearProviders host)

open FeatureFlags.Task (Mimics mimics_each mimics_get mimics_modify mimics_within)

/-- A callback before which something is written down. -/
theorem mimics_recorded {α β γ : Type} {rel : β → γ → Prop} (t : Task (State W) α)
    {f : α → Task (Recorded W) β} {g : α → Task (State W) γ} (first : Duty)
    (hfg : ∀ a, Mimics True rel (f a) (g a)) :
    Mimics True rel ((record first).bind fun _ => (t.within (.first _ _)).bind f)
      (t.bind g) := by
  refine .aside trivial ((mimics_within t).bind ?_)
  rintro a _ rfl
  exact hfg a

theorem shutDownRecorded_mimics (host : Host W) (p : ProviderRef) (lifetime : Nat) :
    Mimics True Eq (shutDownRecorded host p lifetime) (Api.shutDownProvider host p) := by
  refine mimics_get fun q => ?_
  apply mimics_recorded
  intro _
  apply mimics_recorded
  intro outcome
  exact .aside trivial (mimics_within _)

theorem startUpRecorded_mimics (host : Host W) (ctx : EvaluationContext) (p : ProviderRef)
    (lifetime : Nat) :
    Mimics True Eq (startUpRecorded host ctx p lifetime) (Api.startUpProvider host ctx p) := by
  refine mimics_get fun q => ?_
  apply mimics_recorded
  intro _
  apply mimics_recorded
  intro outcome
  exact .aside trivial (mimics_within _)

theorem performRecorded_mimics (host : Host W) (ctx : EvaluationContext) (history : History)
    (job : LifecycleJob) :
    Mimics True Eq (performRecorded host ctx history job) (Api.perform host ctx job) := by
  cases job with
  | shutDown p => exact shutDownRecorded_mimics host p _
  | startUp p => exact startUpRecorded_mimics host ctx p _

/-- **A call that binds a provider makes the same moves whether it is written down or not.** -/
theorem bindRecorded_mimics (host : Host W) (slot : Slot) (p : ProviderRef) :
    Mimics True Eq (bindRecorded host slot p) (Api.bindProvider host slot p) := by
  refine mimics_get fun q => ?_
  refine (mimics_modify (fun s : State W => { s with registry := _ }) _).bind fun _ _ _ => ?_
  refine (mimics_within _).bind fun _ _ _ => ?_
  exact mimics_each (performRecorded_mimics host _ _) _

/-- **A reset makes the same moves whether it is written down or not.** -/
theorem clearRecorded_mimics (host : Host W)
    (arrange : List LifecycleJob → List LifecycleJob) :
    Mimics True Eq (clearRecorded host arrange) (Api.clearInOrder host arrange) := by
  refine mimics_get fun q => ?_
  refine (mimics_modify (fun s : State W => { s with registry := _ }) _).bind fun _ _ _ => ?_
  refine (mimics_each (performRecorded_mimics host _ _) _).bind fun _ _ _ => ?_
  exact mimics_within _

theorem records (host : Host W) : Records host where
  bind := bindRecorded_mimics host
  clear := clearRecorded_mimics host
  reset := by
    rw [← Api.clearInOrder_id]
    exact clearRecorded_mimics host id

end Lifecycle

end FeatureFlags
