import FeatureFlags.Proofs.Evaluation.Course

/-!
# Evaluations that are not started

An evaluation reads the status of its provider once, at its beginning.  If that is one in which
evaluations are not started, it gives the default with the error of that status, and no resolver is
called, whatever becomes of the provider meanwhile.

## Main definitions

* `Api.ShortCircuits` — no evaluation that begins now and is served by an instance is started.

## Main results

* `Api.shortCircuits_of_status` — **the status of the instance decides.**
-/

namespace FeatureFlags

namespace Evaluation

variable {σ : Type}

/-- An evaluation that is refused gives the default with the error, and makes no lookup. -/
theorem Course.of_refusal {e : Evaluation σ} {positions : List Nat} {calls : List Call}
    {details : EvaluationDetails FlagValue} {err : EvaluationError}
    (h : Course e positions calls details) (hrefusal : e.refusal? = some err) :
    details = e.failed err ∧ ∀ call ∈ calls, call.step ≠ .lookup := by
  cases h with
  | refused hstart hclosing =>
    obtain rfl := Option.some.inj (hstart.symm.trans hrefusal)
    exact ⟨rfl, not_lookup_of_not_decisive hclosing.not_decisive⟩
  | beforeFailed hstart => exact absurd (hstart.symm.trans hrefusal) (Option.some_ne_none _).symm
  | lookupFailed hstart => exact absurd (hstart.symm.trans hrefusal) (Option.some_ne_none _).symm
  | afterFailed hstart => exact absurd (hstart.symm.trans hrefusal) (Option.some_ne_none _).symm
  | succeeded hstart => exact absurd (hstart.symm.trans hrefusal) (Option.some_ne_none _).symm

end Evaluation

namespace Api

open Evaluation (Call Watched)

variable {W : Type}

/-- No evaluation that begins now, in whatever way, and is served by an instance is started: it
gives the default with the error of a code, and calls no resolver. -/
def ShortCircuits (host : Host W) (s : State W) (id : ProviderId) (code : ErrorCode) : Prop :=
  ∀ client : Client, (s.registry.resolve client.domain).id = id →
    ∀ (flagType : FlagType) (flagKey : String) (defaultValue : FlagValue)
      (ctx : EvaluationContext) (options : EvaluationOptions),
      let e := client.evaluation host flagType flagKey defaultValue ctx options s
      Watched.Ensures (client.evaluateWatched host flagType flagKey defaultValue ctx options)
        (fun result q => e.Settles
          (fun details calls =>
            details = .ofError flagKey defaultValue (Evaluation.shortCircuitError code) ∧
              ∀ call ∈ calls, call.step ≠ .lookup) result q.2) (s, [])

/-- **The status of the instance decides.** -/
theorem shortCircuits_of_status {s : State W} {id : ProviderId} {code : ErrorCode}
    (h : (s.registry.statusOf id).shortCircuitCode? = some code) (host : Host W) :
    ShortCircuits host s id code := by
  intro client hid flagType flagKey defaultValue ctx options e
  have hstatus : e.status.shortCircuitCode? = some code := by
    have hread : e.status = s.registry.statusOf (s.registry.resolve client.domain).id := rfl
    rw [hread, hid, h]
  have hrefusal : e.refusal? = some (Evaluation.shortCircuitError code) := by
    rw [Evaluation.refusal?, hstatus]
  refine (client.evaluateWatched_course host flagType flagKey defaultValue ctx options s).mono ?_
  intro result q hsettles
  exact hsettles.mono fun details hcourse => hcourse.of_refusal hrefusal

end Api

end FeatureFlags
