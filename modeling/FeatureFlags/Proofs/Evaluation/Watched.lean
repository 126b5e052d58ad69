import FeatureFlags.Api.Evaluate
import FeatureFlags.Proofs.Task.Ensures

/-!
# Watching an evaluation

An evaluation is watched by running it on a state that also holds the calls made so far:
its hooks and its resolver work on their own part of that state, and each of their calls is
noted with what it was given and how it ended.  The evaluation itself is the same function;
only the callbacks handed to it are wrapped.

While an evaluation waits, the others may do what they like to the state it works on.  The
notes are about this evaluation alone, so nobody else adds to them.

## Main definitions

* `Evaluation.Call` — a call that an evaluation makes.
* `Hook.watched`, `Provider.watched`, `Evaluation.watched` — callbacks that are noted.
* `Evaluation.Watched.Ensures` — what a task on a watched state ensures.
* `Evaluation.Makes` — a task that makes exactly one call.
-/

namespace FeatureFlags

namespace Outcome

variable {α : Type}

/-- The error that a callback ended with; a panic is an error of no special kind with its
text. -/
def failure? : Outcome α → Option EvaluationError
  | returned _ => none
  | failed e => some e
  | panicked p => some (.general p.message)

/-- Whatever did not fail has returned. -/
theorem toExcept_eq_ok_iff {o : Outcome α} {a : α} : o.toExcept = .ok a ↔ o = .returned a := by
  cases o <;> simp [toExcept, toExceptWith]

theorem toExcept_eq_error_iff {o : Outcome α} {e : EvaluationError} :
    o.toExcept = .error e ↔ o.failure? = some e := by
  cases o <;> simp [toExcept, toExceptWith, failure?]

theorem toExcept_map {β : Type} (f : α → β) (o : Outcome α) :
    (o.map f).toExcept = o.toExcept.map f := by
  cases o <;> rfl

theorem failure?_eq_none_of_toExcept {o : Outcome α} {a : α} (h : o.toExcept = .ok a) :
    o.failure? = none := by
  rw [toExcept_eq_ok_iff.mp h]
  rfl

end Outcome

namespace Evaluation

/-! ### Calls -/

/-- A call of one stage of a hook: the position of the hook among the hooks of the
evaluation, what the stage was told, and the scratch space as it found and as it left it. -/
structure Visit where
  position : Nat
  context : HookContext
  hints : HookHints
  found : HookData
  left : HookData

/-- A call that an evaluation makes, with how it ended. -/
inductive Call where
  | before (visit : Visit) (outcome : Outcome (Option EvaluationContext))
  | lookup (flagKey : String) (defaultValue : FlagValue) (ctx : EvaluationContext)
      (outcome : Outcome (Resolution FlagValue))
  | after (visit : Visit) (details : EvaluationDetails FlagValue) (outcome : Outcome Unit)
  | error (visit : Visit) (e : EvaluationError) (outcome : Outcome Unit)
  | finish (visit : Visit) (outcome : Outcome Unit)

/-- Which callback is called: a stage of the hook at a position, or the resolver. -/
inductive Step where
  | before (position : Nat)
  | lookup
  | after (position : Nat)
  | error (position : Nat)
  | finish (position : Nat)
deriving DecidableEq

/-- Which callback a call is a call of. -/
def Call.step : Call → Step
  | before visit _ => .before visit.position
  | lookup _ _ _ _ => .lookup
  | after visit _ _ => .after visit.position
  | error visit _ _ => .error visit.position
  | finish visit _ => .finish visit.position

/-- A state together with the calls made so far. -/
abbrev Watched (σ : Type) := σ × List Call

variable {σ α β : Type}

/-- Notes a call. -/
def note (call : Call) : Task (Watched σ) Unit := Task.modify fun p => (p.1, p.2 ++ [call])

end Evaluation

/-! ### Callbacks that are noted -/

open Evaluation (Watched note)

variable {σ : Type}

/-- A hook whose calls are noted, for a position. -/
def Hook.watched (hook : Hook σ) (position : Nat) : Hook (Watched σ) where
  supports := hook.supports
  before ctx hints data := do
    let (left, outcome) ← (hook.before ctx hints data).within (.first _ _)
    note (.before ⟨position, ctx, hints, data, left⟩ outcome)
    return (left, outcome)
  after ctx details hints data := do
    let (left, outcome) ← (hook.after ctx details hints data).within (.first _ _)
    note (.after ⟨position, ctx, hints, data, left⟩ details outcome)
    return (left, outcome)
  error ctx e hints data := do
    let (left, outcome) ← (hook.error ctx e hints data).within (.first _ _)
    note (.error ⟨position, ctx, hints, data, left⟩ e outcome)
    return (left, outcome)
  finish ctx hints data := do
    let (left, outcome) ← (hook.finish ctx hints data).within (.first _ _)
    note (.finish ⟨position, ctx, hints, data, left⟩ outcome)
    return (left, outcome)

/-- The hooks of a list, each watched at its position. -/
def Hook.watchedAll (hooks : List (Hook σ)) : List (Hook (Watched σ)) :=
  hooks.zipIdx.map fun (hook, position) => hook.watched position

/-- A provider whose lookups are noted. -/
def Provider.watched (p : Provider σ) : Provider (Watched σ) where
  name := p.name
  hooks := Hook.watchedAll p.hooks
  startUp ctx := (p.startUp ctx).within (.first _ _)
  shutDown := p.shutDown.within (.first _ _)
  attach emitter := (p.attach emitter).within (.first _ _)
  detach := p.detach.within (.first _ _)
  resolve t flagKey defaultValue ctx := do
    let outcome ← (p.resolve t flagKey defaultValue ctx).within (.first _ _)
    note (.lookup flagKey (.ofCarrier t defaultValue) ctx
      (outcome.map (Resolution.map (FlagValue.ofCarrier t))))
    return outcome

/-- A journal on a watched state. -/
def Journal.watched (journal : Journal σ) : Journal (Watched σ) :=
  fun entry p => (journal entry p.1, p.2)

namespace Evaluation

variable {α β : Type}

/-- An evaluation whose calls are noted. -/
def watched (e : Evaluation σ) : Evaluation (Watched σ) where
  provider := e.provider.watched
  status := e.status
  flagType := e.flagType
  flagKey := e.flagKey
  defaultValue := e.defaultValue
  context := e.context
  domain := e.domain
  hooks := Hook.watchedAll e.hooks
  hints := e.hints

/-! ### Watched tasks -/

/-- Started in a state and with some calls made, a task ends with a property, whatever the
others do to the state while it waits. -/
def Watched.Ensures (t : Task (Watched σ) α) (Q : α → Watched σ → Prop) (p : Watched σ) : Prop :=
  Task.Ensures (Cell.first σ (List Call)).Confined t Q p

theorem Watched.ensures_bind (t : Task (Watched σ) α) (f : α → Task (Watched σ) β)
    (Q : β → Watched σ → Prop) (p : Watched σ) :
    Watched.Ensures (t.bind f) Q p ↔
      Watched.Ensures t (fun a p => Watched.Ensures (f a) Q p) p :=
  Task.ensures_bind t f Q p

@[simp] theorem Watched.ensures_done (a : α) (Q : α → Watched σ → Prop) (p : Watched σ) :
    Watched.Ensures (.done a) Q p ↔ Q a p := Iff.rfl

theorem Watched.Ensures.mono {t : Task (Watched σ) α} {Q P : α → Watched σ → Prop}
    {p : Watched σ} (h : Watched.Ensures t Q p) (hQP : ∀ a p, Q a p → P a p) :
    Watched.Ensures t P p :=
  Task.Ensures.mono h hQP

/-- A report is no call. -/
@[simp] theorem Watched.ensures_log (journal : Journal σ) (entry : LogEntry)
    (Q : Unit → Watched σ → Prop) (p : Watched σ) :
    Watched.Ensures (Task.log journal.watched entry) Q p ↔ Q () (journal entry p.1, p.2) :=
  Iff.rfl

/-- A task that makes exactly one call, and of which only this is known: how the call and
the value are related. -/
def Makes (t : Task (Watched σ) α) (rel : Call → α → Prop) : Prop :=
  ∀ (Q : α → Watched σ → Prop) (p : Watched σ),
    (∀ call a s, rel call a → Q a (s, p.2 ++ [call])) → Watched.Ensures t Q p

/-- A task over the state of the evaluation, with its call noted at its end. -/
theorem makes_note (t : Task σ α) (describe : α → Call) :
    Makes (((t.within (Cell.first σ (List Call))).bind fun a =>
        (note (describe a)).bind fun _ => .done a))
      (fun call a => call = describe a) := by
  intro Q p hQ
  rw [Watched.ensures_bind, Watched.Ensures, Task.ensures_within (Cell.lawful_first _ _)]
  exact Task.ensures_of_forall (fun a s => hQ (describe a) a s rfl) t p.1

theorem makes_before (hook : Hook σ) (position : Nat) (ctx : HookContext) (hints : HookHints)
    (data : HookData) :
    Makes ((hook.watched position).before ctx hints data) fun call ended =>
      call = .before ⟨position, ctx, hints, data, ended.1⟩ ended.2 :=
  makes_note (hook.before ctx hints data) _

theorem makes_after (hook : Hook σ) (position : Nat) (ctx : HookContext)
    (details : EvaluationDetails FlagValue) (hints : HookHints) (data : HookData) :
    Makes ((hook.watched position).after ctx details hints data) fun call ended =>
      call = .after ⟨position, ctx, hints, data, ended.1⟩ details ended.2 :=
  makes_note (hook.after ctx details hints data) _

theorem makes_error (hook : Hook σ) (position : Nat) (ctx : HookContext) (e : EvaluationError)
    (hints : HookHints) (data : HookData) :
    Makes ((hook.watched position).error ctx e hints data) fun call ended =>
      call = .error ⟨position, ctx, hints, data, ended.1⟩ e ended.2 :=
  makes_note (hook.error ctx e hints data) _

theorem makes_finish (hook : Hook σ) (position : Nat) (ctx : HookContext) (hints : HookHints)
    (data : HookData) :
    Makes ((hook.watched position).finish ctx hints data) fun call ended =>
      call = .finish ⟨position, ctx, hints, data, ended.1⟩ ended.2 :=
  makes_note (hook.finish ctx hints data) _

/-- A lookup is one call of the resolver for the type of the default. -/
theorem makes_lookup (p : Provider σ) (flagKey : String) (defaultValue : FlagValue)
    (ctx : EvaluationContext) :
    Makes (p.watched.resolveValue flagKey defaultValue ctx) fun call outcome =>
      call = .lookup flagKey defaultValue ctx outcome := by
  intro Q s hQ
  rw [Provider.resolveValue, Task.bind_def, Watched.ensures_bind]
  refine makes_note (p.resolve defaultValue.type flagKey defaultValue.payload ctx) _ _ s ?_
  rintro call outcome s' rfl
  -- the default went to the resolver as a payload and is noted as the value it stands for
  rw [FlagValue.ofCarrier_payload]
  exact hQ _ _ s' rfl

end Evaluation

end FeatureFlags
