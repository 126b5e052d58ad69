import FeatureFlags.Proofs.Evaluation.Answered
import FeatureFlags.Proofs.Task.Values

/-!
# Details for a flag type

A caller who asks for a flag type gets its details in the carrier of that type: the value is taken
out of the untyped details, and the caller's own default is put in where there is an error.  There
is a way out for details without an error whose value does not fit the carrier.  It is never
taken, because an evaluation gives an answer that it has checked for the flag type, or the default
with an error; so the typed details are the untyped ones, seen from the carrier.

This is a matter of the values that an evaluation can end with, wherever they come from, and not
of one of its runs: seen as a value again, the typed call is the untyped one.

## Main definitions

* `Evaluation.Conclusive` — details that an evaluation can end with.
* `EvaluationDetails.untyped` — details with the value of a carrier seen as a flag value.

## Main results

* `Evaluation.run_conclusive` — every evaluation ends with an answer that fits or an error.
* `Evaluation.untyped_typedDetails` — such details survive the way into the carrier and back.
* `Client.untyped_details` — **the typed call, seen as a value, is the untyped call.**
-/

namespace FeatureFlags

namespace EvaluationDetails

/-- Details with the value of a carrier seen as a flag value. -/
def untyped {t : FlagType} (details : EvaluationDetails t.Carrier) : EvaluationDetails FlagValue :=
  details.map (.ofCarrier t)

end EvaluationDetails

namespace Evaluation

variable {σ : Type}

/-! ### What an evaluation can end with -/

/-- Details that an evaluation can end with: an answer without a flaw, or the default with an
error. -/
def Conclusive (e : Evaluation σ) (details : EvaluationDetails FlagValue) : Prop :=
  (∃ r : Resolution FlagValue, r.flaw? e.flagType = none ∧
      details = .ofResolution e.flagKey r) ∨
    ∃ err, details = .ofError e.flagKey e.defaultValue err

variable (journal : Journal σ) (e : Evaluation σ)

/-- An attempt that succeeds does so with an answer without a flaw. -/
theorem attempt_conclusive (chain : HookChain σ) :
    (e.attempt journal chain).AllValues fun tried =>
      ∀ details, tried.result = .ok details → e.Conclusive details := by
  rw [attempt]
  split
  · exact fun details h => absurd h (by simp)
  refine Task.allValues_bind fun before => ?_
  cases before.given with
  | error err => exact fun details h => absurd h (by simp)
  | ok given =>
    refine Task.allValues_bind fun outcome => ?_
    cases haccept : outcome.toExcept.bind e.accept with
    | error err => exact fun details h => absurd h (by simp)
    | ok details =>
      refine Task.allValues_bind fun after => ?_
      obtain ⟨r, -, hflaw, rfl⟩ := returned_of_accept_ok haccept
      intro details h
      -- the after stage may fail, but it does not change the details
      cases hafter : after.2 with
      | error err =>
        rw [hafter] at h
        exact absurd h (by simp [Except.map])
      | ok =>
        rw [hafter] at h
        exact .inl ⟨r, hflaw, (Except.ok.inj h).symm⟩

theorem runWith_conclusive (chain : HookChain σ) :
    (e.runWith journal chain).AllValues e.Conclusive := by
  have hfailed : ∀ err, e.Conclusive (e.failed err) := fun err => .inr ⟨err, rfl⟩
  rw [runWith]
  refine Task.allValues_bind fun _ => ?_
  cases e.status.shortCircuitCode? with
  | some code =>
    refine Task.allValues_bind fun _ => Task.allValues_bind fun _ => ?_
    exact hfailed (shortCircuitError code)
  | none =>
    refine (attempt_conclusive journal e chain).bind fun tried htried => ?_
    cases hresult : tried.result with
    | ok details => exact Task.allValues_bind fun _ => htried details hresult
    | error err =>
      refine Task.allValues_bind fun _ => Task.allValues_bind fun _ => ?_
      exact Task.allValues_bind fun _ => hfailed err

/-- **Every evaluation ends with an answer without a flaw, or with an error**, unless a hook panics
when it is asked for its flag types. -/
theorem run_conclusive :
    (e.run journal).AllValues fun result => ∀ details, result = .ok details →
      e.Conclusive details := by
  rw [run]
  cases HookChain.select e.flagType e.hooks with
  | error panic => exact fun details h => absurd h (by simp)
  | ok chain =>
    refine (runWith_conclusive journal e chain).bind fun details hdetails => ?_
    intro _ h
    rwa [← Except.ok.inj h]

/-! ### Into the carrier and back -/

variable {e} {fallback : e.flagType.Carrier} {details : EvaluationDetails FlagValue}

/-- **What an evaluation ends with survives the way into the carrier and back.** -/
theorem untyped_typedDetails (hdefault : e.defaultValue = .ofCarrier e.flagType fallback)
    (h : e.Conclusive details) : (typedDetails e.flagType fallback details).untyped = details := by
  rcases h with ⟨r, hflaw, rfl⟩ | ⟨err, rfl⟩
  · obtain ⟨hcode, hcheck⟩ := Resolution.flaw?_eq_none_iff.mp hflaw
    obtain ⟨answer, rfl, htyped⟩ := typedDetails_ofResolution fallback e.flagKey hcode
      (FlagValue.check_eq_ok_iff.mp hcheck)
    rw [htyped]
    rfl
  · rw [typedDetails_ofError, hdefault]
    rfl

/-- Without an error, the value is one of the carrier. -/
theorem Conclusive.exists_carrier (h : e.Conclusive details) (hcode : details.errorCode = none) :
    ∃ value, FlagValue.toCarrier e.flagType details.value = .ok value := by
  rcases h with ⟨r, hflaw, rfl⟩ | ⟨err, rfl⟩
  · have hcheck := (Resolution.flaw?_eq_none_iff.mp hflaw).2
    obtain ⟨value, hvalue, -⟩ := FlagValue.toCarrier_of_valid (FlagValue.check_eq_ok_iff.mp hcheck)
    exact ⟨value, hvalue⟩
  · exact absurd hcode (Option.some_ne_none err.code)

end Evaluation

/-! ### Through a client -/

namespace Client

variable {W : Type} (host : Host W) (client : Client) (t : FlagType) (flagKey : String)
  (fallback : t.Carrier) (ctx : EvaluationContext) (options : EvaluationOptions)

/-- Whatever an evaluation for a default of a carrier ends with: its details survive the way into
the carrier and back, and without an error their value is one of the carrier. -/
theorem evaluate_conclusive :
    (client.evaluate host t flagKey (.ofCarrier t fallback) ctx options).AllValues fun result =>
      ∀ details, result = .ok details →
        (Evaluation.typedDetails t fallback details).untyped = details ∧
          (details.errorCode = none →
            ∃ value, FlagValue.toCarrier t details.value = .ok value) := by
  intro s
  let e := client.evaluation host t flagKey (.ofCarrier t fallback) ctx options s
  refine (Evaluation.run_conclusive host.log e).mono fun result hresult details hdetails => ?_
  have hconclusive := hresult details hdetails
  exact ⟨Evaluation.untyped_typedDetails rfl hconclusive, hconclusive.exists_carrier⟩

/-- **The typed call, seen as a value, is the untyped call**: the same task, so that it calls the
same callbacks and ends with the same details in every field, in every state and whatever others
do meanwhile.  No evaluation ends with details that have no error and a value that the carrier
refuses. -/
theorem untyped_details :
    ((fun result => result.map EvaluationDetails.untyped) <$>
        client.details host t flagKey fallback ctx options) =
      client.evaluate host t flagKey (.ofCarrier t fallback) ctx options ∧
    (client.evaluate host t flagKey (.ofCarrier t fallback) ctx options).AllValues
      fun result => ∀ details, result = .ok details → details.errorCode = none →
        ∃ value, FlagValue.toCarrier t details.value = .ok value := by
  have hends := client.evaluate_conclusive host t flagKey fallback ctx options
  refine ⟨?_, hends.mono fun result h details hdetails => (h details hdetails).2⟩
  have htyped : client.details host t flagKey fallback ctx options =
      (fun result => result.map (Evaluation.typedDetails t fallback)) <$>
        client.evaluate host t flagKey (.ofCarrier t fallback) ctx options := rfl
  rw [htyped, Functor.map_map]
  refine hends.map_eq_self fun result h => ?_
  cases result with
  | error panic => rfl
  | ok untyped => exact congrArg Except.ok (h untyped rfl).1

end Client

end FeatureFlags
