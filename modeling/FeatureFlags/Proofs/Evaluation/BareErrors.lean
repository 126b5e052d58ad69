import FeatureFlags.Proofs.Evaluation.Verdict
import FeatureFlags.Proofs.Multi.Fallback

/-!
# What the reason ERROR tells the caller

An answer can report an error by its code, or by its reason alone.  The strategies of a
multi-provider pass over both.  An evaluation looks at the code only: an answer that has the
reason ERROR and no code is given as it is, and the caller is told of an error without a code,
with a value that need not be the default.  In every other case details with the reason ERROR are
those of an evaluation that failed.

## Main definitions

* `Resolution.IsBareError` — an answer that reports an error by its reason alone.
* `EvaluationDetails.ErrorMeansFailure` — the reason ERROR comes with a code and the default.
* `Evaluation.GivesBareError` — an evaluation without a failure whose answer is a bare error.
* `Evaluation.TellsErrors` — what details have to do with bare errors.

## Main results

* `Evaluation.Course.tellsErrors`, `Evaluation.Course.typed_tellsErrors` — details for a caller, of
  a value as it is and in a carrier.
* `Client.reason_error_means_failure_iff` — **the reason ERROR means failure, exactly if the answer
  is no bare error.**
-/

namespace FeatureFlags

/-- An answer that reports an error by its reason alone. -/
def Resolution.IsBareError {α : Type} (r : Resolution α) : Prop :=
  r.reason = some .error ∧ r.errorCode = none

/-- Details with the reason ERROR carry an error code and the default of the caller. -/
def EvaluationDetails.ErrorMeansFailure {α : Type} (details : EvaluationDetails α)
    (fallback : α) : Prop :=
  details.reason = some .error → details.errorCode.isSome ∧ details.value = fallback

namespace Evaluation

variable {σ α : Type} {e : Evaluation σ} {calls : List Call}

/-- No call failed, and the answer of the resolver is a bare error. -/
def GivesBareError (e : Evaluation σ) (calls : List Call) : Prop :=
  e.firstFailure? calls = none ∧ ∃ r ∈ answers calls, r.IsBareError

/-- The reason ERROR means failure unless the answer is a bare error; and then the caller is given
that answer, whose value is put into the form of the caller's own. -/
def TellsErrors (e : Evaluation σ) (calls : List Call) (put : α → FlagValue) (fallback : α)
    (details : EvaluationDetails α) : Prop :=
  (details.ErrorMeansFailure fallback ↔ ¬e.GivesBareError calls) ∧
    (e.GivesBareError calls → ∃ r : Resolution α, r.IsBareError ∧ r.map put ∈ answers calls ∧
      details = .ofResolution e.flagKey r)

/-- Details of a failure say so, and with a failure there is no bare error. -/
theorem tellsErrors_of_failure {err : EvaluationError} (h : e.firstFailure? calls = some err)
    (put : α → FlagValue) (fallback : α) :
    e.TellsErrors calls put fallback (.ofError e.flagKey fallback err) := by
  have hnone : ¬e.GivesBareError calls := by
    rintro ⟨hfirst, -⟩
    rw [h] at hfirst
    exact Option.some_ne_none err hfirst
  exact ⟨⟨fun _ => hnone, fun _ _ => ⟨rfl, rfl⟩⟩, fun hbare => absurd hbare hnone⟩

/-- An answer without an error code is given with its reason. -/
theorem tellsErrors_of_answer {put : α → FlagValue} {r : Resolution α}
    (h : e.firstFailure? calls = none) (hanswers : answers calls = [r.map put])
    (hcode : r.errorCode = none) (fallback : α) :
    e.TellsErrors calls put fallback (.ofResolution e.flagKey r) := by
  have hbare : e.GivesBareError calls ↔ r.reason = some .error := by
    constructor
    · rintro ⟨-, other, hother, hreason, -⟩
      rw [hanswers, List.mem_singleton] at hother
      rw [hother] at hreason
      exact hreason
    · intro hreason
      exact ⟨h, _, by rw [hanswers]; exact List.mem_cons_self, hreason, hcode⟩
  refine ⟨?_, fun hgives => ⟨r, ⟨hbare.mp hgives, hcode⟩, ?_, rfl⟩⟩
  · rw [hbare]
    constructor
    · intro hmeans hreason
      have hsome : r.errorCode.isSome := (hmeans hreason).1
      rw [hcode] at hsome
      exact Bool.false_ne_true hsome
    · exact fun hne hreason => absurd hreason hne
  · rw [hanswers]
    exact List.mem_cons_self

/-- A verdict is told by a failure or by an answer without a code. -/
theorem Verdict.failure_or_answer {details : EvaluationDetails FlagValue}
    (h : e.Verdict details calls) :
    (∃ err, e.firstFailure? calls = some err ∧
        details = .ofError e.flagKey e.defaultValue err) ∨
      e.firstFailure? calls = none ∧ ∃ r, answers calls = [r] ∧ r.errorCode = none ∧
        r.value.isValidFor e.flagType ∧ details = .ofResolution e.flagKey r := by
  unfold Verdict at h
  cases hfirst : e.firstFailure? calls with
  | some err =>
    rw [hfirst] at h
    exact .inl ⟨err, rfl, h⟩
  | none =>
    rw [hfirst] at h
    obtain ⟨r, hanswers, hcode, hcheck, -, hdetails⟩ := h
    refine .inr ⟨rfl, r, hanswers, hcode, FlagValue.check_eq_ok_iff.mp hcheck, ?_⟩
    rw [hdetails, EvaluationDetails.ofResolution, hcode]

section Course

variable {positions : List Nat} {details : EvaluationDetails FlagValue}

/-- The details of an evaluation. -/
theorem Course.tellsErrors (h : Course e positions calls details) :
    e.TellsErrors (decisive calls) id e.defaultValue details := by
  rcases h.verdict.2.failure_or_answer with
    ⟨err, hfirst, rfl⟩ | ⟨hfirst, r, hanswers, hcode, -, rfl⟩
  · exact tellsErrors_of_failure hfirst id e.defaultValue
  · have hanswers' : answers (decisive calls) = [r.map id] := hanswers
    exact tellsErrors_of_answer hfirst hanswers' hcode e.defaultValue

/-- The details for a caller who asked for a flag type. -/
theorem Course.typed_tellsErrors (h : Course e positions calls details)
    (fallback : e.flagType.Carrier) :
    e.TellsErrors (decisive calls) (.ofCarrier e.flagType) fallback
      (typedDetails e.flagType fallback details) := by
  rcases h.verdict.2.failure_or_answer with
    ⟨err, hfirst, rfl⟩ | ⟨hfirst, r, hanswers, hcode, hvalid, rfl⟩
  · rw [typedDetails_ofError]
    exact tellsErrors_of_failure hfirst _ fallback
  · obtain ⟨answer, rfl, hdetails⟩ :=
      typedDetails_ofResolution fallback e.flagKey hcode hvalid
    rw [hdetails]
    exact tellsErrors_of_answer hfirst hanswers hcode fallback

end Course

end Evaluation

/-! ### Through a client -/

namespace Client

open Api (State)
open Evaluation (Watched decisive typedDetails)
open FeatureFlags.Task (Follows)

/-- Details for a caller who asked for a flag type are the same whether the calls of the
evaluation are noted or not. -/
theorem detailsWatched_follows {W : Type} (host : Host W) (client : Client) (t : FlagType)
    (flagKey : String) (fallback : t.Carrier) (ctx : EvaluationContext)
    (options : EvaluationOptions) :
    Follows Eq (client.detailsWatched host t flagKey fallback ctx options)
      (client.details host t flagKey fallback ctx options) := by
  refine Task.follows_bind (client.evaluate_follows host t flagKey _ ctx options) ?_
  rintro result _ rfl
  exact Task.follows_done rfl

/-- **The reason ERROR means failure, exactly if the answer is no bare error**: the details of an
evaluation that have it carry an error code and the caller's default, unless nothing failed and the
resolver answered with that reason and without a code.  In that case the caller is given the
answer, without a code and with its own value.  It is the same for a caller who asked for a flag
type, and whether the calls of the evaluation are noted or not. -/
theorem reason_error_means_failure_iff {W : Type} (host : Host W) (client : Client)
    (flagKey : String) (ctx : EvaluationContext) (options : EvaluationOptions) (s : State W) :
    (∀ (flagType : FlagType) (defaultValue : FlagValue),
      let e := client.evaluation host flagType flagKey defaultValue ctx options s
      Follows Eq (client.evaluateWatched host flagType flagKey defaultValue ctx options)
          (client.evaluate host flagType flagKey defaultValue ctx options) ∧
        Watched.Ensures (client.evaluateWatched host flagType flagKey defaultValue ctx options)
          (fun result q => e.Gives (e.TellsErrors (decisive q.2) id defaultValue) result)
          (s, [])) ∧
      ∀ (t : FlagType) (fallback : t.Carrier),
        let e := client.evaluation host t flagKey (.ofCarrier t fallback) ctx options s
        Follows Eq (client.detailsWatched host t flagKey fallback ctx options)
            (client.details host t flagKey fallback ctx options) ∧
          Watched.Ensures (client.detailsWatched host t flagKey fallback ctx options)
            (fun result q => e.Gives
              (e.TellsErrors (decisive q.2) (.ofCarrier t) fallback) result) (s, []) := by
  refine ⟨fun flagType defaultValue => ?_, fun t fallback => ?_⟩
  · refine ⟨client.evaluate_follows host flagType flagKey defaultValue ctx options, ?_⟩
    have hcourse := client.evaluateWatched_course host flagType flagKey defaultValue ctx options s
    refine hcourse.mono fun result q hsettles => ?_
    have hgives := hsettles.gives id fun details h => h.tellsErrors
    rwa [show result.map id = result by cases result <;> rfl] at hgives
  · refine ⟨client.detailsWatched_follows host t flagKey fallback ctx options, ?_⟩
    have hcourse :=
      client.evaluateWatched_course host t flagKey (.ofCarrier t fallback) ctx options s
    refine (Task.ensures_map _ _ _ _).mpr (hcourse.mono fun result q hsettles => ?_)
    exact hsettles.gives _ fun details h => h.typed_tellsErrors fallback

/-! ### Bare errors of the library's providers -/

section BareErrors

/-- The answer `true` with the reason ERROR and no error code. -/
def bareError : Resolution Bool := { Resolution.ofValue true with reason := some .error }

/-- A sub-provider that answers lookups of booleans with it, and others with the default. -/
def bareErrorProvider : Multi.SubProvider (State Unit) where
  name := "bare"
  provider :=
    { NoOp.provider (State Unit) with
      resolve := fun
        | .boolean, _, _, _ => .done (.returned bareError)
        | _, _, fallback, _ => .done (.returned (.ofValue fallback)) }

/-- A flag in memory whose evaluator answers with it. -/
def bareErrorFlag : InMemory where
  flags := SortedMap.empty.insert "flag"
    { defaultVariant := "on", variants := .empty, metadata := .empty,
      evaluator := some fun _ _ => .ok (bareError.map .bool) }
  emitter := none

/-- An instance that holds the flag as its application's provider, ready. -/
def servedFromMemory : State Unit :=
  (Api.memoryCell (.application 0)).set bareErrorFlag served

/-- What a client of the default provider gets for a boolean flag with the default `false`. -/
def booleanDetails (host : Host Unit) (s : State Unit) : Except Panic (EvaluationDetails Bool) :=
  (((Client.mk 0 none).details host .boolean "flag" false .empty .none).run s).1

/-- A bare error is given to a caller whose default is another value: from a provider of the
application, from a multi-provider of it, and from the evaluator of a flag in memory. -/
theorem bare_error_is_given :
    booleanDetails (soleHost bareErrorProvider.provider) served =
        .ok (.ofResolution "flag" bareError) ∧
      booleanDetails (inTurnHost [bareErrorProvider]) served =
        .ok (.ofResolution "flag" bareError) ∧
      booleanDetails (soleHost (InMemory.provider (Api.memoryCell (.application 0))))
        servedFromMemory = .ok (.ofResolution "flag" bareError) ∧
      ¬(EvaluationDetails.ofResolution "flag" bareError).ErrorMeansFailure false :=
  ⟨rfl, rfl, rfl, fun h => absurd (h rfl).1 Bool.false_ne_true⟩

end BareErrors

end Client

end FeatureFlags
