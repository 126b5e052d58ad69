import FeatureFlags.Proofs.Evaluation.Course
import FeatureFlags.Proofs.Evaluation.Mimicked

/-!
# Watching changes nothing

An evaluation behaves the same whether it is watched or not: the notes are never read.  So
whatever a watched evaluation ensures of its result and of the state, the evaluation
ensures on its own.

## Main definitions

* `Client.Reads` — what an evaluation through a client depends on.

## Main results

* `Evaluation.refusal?_eq` — why an evaluation is not attempted.
* `Evaluation.run_follows` — **an evaluation follows the watched one.**
* `Client.evaluate_follows` — the same through a client.
-/

namespace FeatureFlags

open FeatureFlags.Task (Follows Mimics mimics_note)

variable {σ : Type}

namespace Evaluation

/-! ### Watched callbacks -/

theorem mimics_watched (hook : Hook σ) (position : Nat) : (hook.watched position).Mimics hook where
  supports := rfl
  before ctx hints data := mimics_note (hook.before ctx hints data) _
  after ctx details hints data := mimics_note (hook.after ctx details hints data) _
  error ctx err hints data := mimics_note (hook.error ctx err hints data) _
  finish ctx hints data := mimics_note (hook.finish ctx hints data) _

theorem mimics_watchedAll (hooks : List (Hook σ)) (start : Nat) :
    List.Forall₂ Hook.Mimics
      ((hooks.zipIdx start).map fun (hook, position) => hook.watched position) hooks := by
  induction hooks generalizing start with
  | nil => exact List.Forall₂.nil
  | cons hook rest ih => exact List.Forall₂.cons (mimics_watched hook start) (ih (start + 1))

/-! ### Watched evaluations -/

/-- **A watched evaluation makes the moves of the evaluation.** -/
theorem run_mimics (journal : Journal σ) (e : Evaluation σ) :
    Mimics True Eq (e.watched.run journal.watched) (e.run journal) := by
  have hresolve : ∀ t flagKey defaultValue ctx,
      Mimics True Eq (e.provider.watched.resolve t flagKey defaultValue ctx)
        (e.provider.resolve t flagKey defaultValue ctx) :=
    fun t flagKey defaultValue ctx => mimics_note (e.provider.resolve t flagKey defaultValue ctx) _
  exact withCallbacks_mimics journal _ rfl hresolve (mimics_watchedAll e.hooks 0)

/-- **An evaluation follows the watched one.** -/
theorem run_follows (journal : Journal σ) (e : Evaluation σ) :
    Follows Eq (e.watched.run journal.watched) (e.run journal) :=
  (run_mimics journal e).follows

/-! ### What an evaluation depends on -/

/-- **Why an evaluation is not attempted**: the status is `notReady` or `fatal`, or else the default
is of another kind than the flag type. -/
theorem refusal?_eq (e : Evaluation σ) :
    e.refusal? =
      if e.status = .notReady then some ⟨.providerNotReady, some "Provider is not ready"⟩
      else if e.status = .fatal then
        some ⟨.providerFatal, some "Provider is in an irrecoverable error state"⟩
      else if e.defaultValue.type ≠ e.flagType then
        some ⟨.general, some ("Unknown flag type: " ++ e.defaultValue.type.name ++
          " default for " ++ e.flagType.name ++ " flag")⟩
      else none := by
  rw [refusal?]
  cases e.status with
  | notReady => rfl
  | ready => rfl
  | error => rfl
  | stale => rfl
  | fatal => rfl

end Evaluation

namespace Client

open Api (State)
open Evaluation (Watched)
open FeatureFlags.Task (Follows)

variable {W : Type} (host : Host W) (client : Client) (flagType : FlagType) (flagKey : String)
  (defaultValue : FlagValue) (ctx : EvaluationContext) (options : EvaluationOptions)

/-- An evaluation through a client is one of what was asked for, and depends on one state: on the
instance that the domain resolves to, and its status; on the contexts of the instance, the client
and the call, each laid over those before; and on their hooks, followed by those of the provider.
It is refused for a status of `notReady` or `fatal`, and else for a default of another kind than the
flag type. -/
structure Reads (s : State W) (e : Evaluation (State W)) : Prop where
  flagType : e.flagType = flagType
  flagKey : e.flagKey = flagKey
  defaultValue : e.defaultValue = defaultValue
  domain : e.domain = client.domain
  hints : e.hints = options.hints
  provider : e.provider = host.providerOf s (s.registry.resolve client.domain).id
  status : e.status = s.registry.statusOf (s.registry.resolve client.domain).id
  context : e.context = .mergeAll [s.scope.context, (s.clientScope client).context, ctx]
  hooks : e.hooks =
    (s.scope.hooks ++ (s.clientScope client).hooks ++ options.hooks).map (host.hook s) ++
      e.provider.hooks
  refusal : e.refusal? =
    if e.status = .notReady then some ⟨.providerNotReady, some "Provider is not ready"⟩
    else if e.status = .fatal then
      some ⟨.providerFatal, some "Provider is in an irrecoverable error state"⟩
    else if e.defaultValue.type ≠ e.flagType then
      some ⟨.general, some ("Unknown flag type: " ++ e.defaultValue.type.name ++
        " default for " ++ e.flagType.name ++ " flag")⟩
    else none

theorem reads_evaluation (s : State W) :
    client.Reads host flagType flagKey defaultValue ctx options s
      (client.evaluation host flagType flagKey defaultValue ctx options s) where
  flagType := rfl
  flagKey := rfl
  defaultValue := rfl
  domain := rfl
  hints := rfl
  provider := rfl
  status := rfl
  context := rfl
  hooks := rfl
  refusal := Evaluation.refusal?_eq _

/-- **An evaluation through a client follows the watched one**, so everything that is
ensured of the result with its calls noted is ensured of the result. -/
theorem evaluate_follows :
    Follows Eq (client.evaluateWatched host flagType flagKey defaultValue ctx options)
      (client.evaluate host flagType flagKey defaultValue ctx options) := by
  intro Q p h
  exact (client.evaluation host flagType flagKey defaultValue ctx options p.1).run_follows
    host.log Q p h

/-- Whatever its hooks and its provider do, an evaluation through a client gives details for
the flag it was asked for: an answer of the provider that is valid for the flag type, or the
caller's default with an error. -/
theorem evaluate_gives_answer_or_default (s : State W) :
    (client.evaluate host flagType flagKey defaultValue ctx options).Ensures (fun _ _ => True)
      (fun result _ => ∀ details, result = .ok details →
        (∃ r : Resolution FlagValue, r.flaw? flagType = none ∧
          details = .ofResolution flagKey r) ∨
        ∃ err, details = .ofError flagKey defaultValue err) s := by
  refine client.evaluate_follows host flagType flagKey defaultValue ctx options _ (s, []) ?_
  refine (client.evaluateWatched_course host flagType flagKey defaultValue ctx options s).mono ?_
  rintro result q hq _ rfl details rfl
  exact hq.of_ok.answer_or_default

end Client

end FeatureFlags
