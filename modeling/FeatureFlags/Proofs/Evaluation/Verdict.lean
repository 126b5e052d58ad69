import FeatureFlags.Proofs.Evaluation.Unwatched

/-!
# The verdict of an evaluation

What an evaluation gives is settled by its first failure: why it was refused, or else the
first of its calls that failed.  Only if there is none does the caller get the answer of
the provider.  The calls of the error and finish stages settle nothing.

## Main definitions

* `Evaluation.firstFailure?` — the first failure in the order of the evaluation.
* `Evaluation.answers` — what the resolver returned.
* `Evaluation.decisive` — the calls that can settle the verdict.
* `Evaluation.pipeline` — the order in which they are made.
* `Evaluation.Verdict` — the details that go with some calls.

## Main results

* `Client.evaluate_gives_verdict` — **every evaluation gives its verdict.**
-/

namespace FeatureFlags

namespace Evaluation

/-! ### Decisive calls -/

/-- The calls that can settle the verdict. -/
def decisive (calls : List Call) : List Call := calls.filter fun call => call.step.isDecisive

/-- The decisive callbacks in the order of the evaluation, for the hooks that take part. -/
def pipeline (hs : List Nat) : List Step :=
  hs.map Step.before ++ ([Step.lookup] ++ hs.reverse.map Step.after)

/-- What a call of the resolver returned. -/
def Call.answer? : Call → Option (Resolution FlagValue)
  | .lookup _ _ _ (.returned r) => some r
  | _ => none

/-- What the resolver returned. -/
def answers (calls : List Call) : List (Resolution FlagValue) := calls.filterMap Call.answer?

variable {σ : Type}

/-- The first failure of an evaluation: why it was refused, or else the failure of the first
call that failed. -/
def firstFailure? (e : Evaluation σ) (calls : List Call) : Option EvaluationError :=
  e.refusal? <|> calls.findSome? (Call.failure? e.flagType)

/-- The details that go with the calls of an evaluation.  With a failure they are the
caller's default with the code and the message of the first one; without one they are the
only answer of the resolver, which is valid for the flag type. -/
def Verdict (e : Evaluation σ) (details : EvaluationDetails FlagValue) (calls : List Call) :
    Prop :=
  match e.firstFailure? calls with
  | some err =>
    details =
      { flagKey := e.flagKey
        value := e.defaultValue
        variant := none
        metadata := .empty
        reason := some .error
        errorCode := some err.code
        errorMessage := err.message }
  | none =>
    ∃ r, answers calls = [r] ∧ r.errorCode = none ∧ r.value.check e.flagType = .ok () ∧
      (e.flagType = .object → ∃ json, r.value = .object json ∧ json.isContainer) ∧
      details =
        { flagKey := e.flagKey
          value := r.value
          variant := r.variant
          metadata := r.metadata
          reason := r.reason
          errorCode := none
          errorMessage := r.errorMessage }

/-! ### The calls of a stage -/

section Calls

variable {t : FlagType} {stage : Nat → Step} {positions : List Nat} {calls more : List Call}
  {failure : Option EvaluationError}

theorem decisive_append : decisive (calls ++ more) = decisive calls ++ decisive more :=
  List.filter_append ..

theorem decisive_eq_nil (h : ∀ call ∈ calls, call.step.isDecisive = false) :
    decisive calls = [] := by
  apply List.filter_eq_nil_iff.mpr
  intro call hcall
  rw [h call hcall]
  exact Bool.false_ne_true

/-- The failure of a stage is the first one among its calls. -/
theorem Ran.findSome?_failure (h : Ran t stage positions calls failure) :
    calls.findSome? (Call.failure? t) = failure := by
  induction h with
  | done => rfl
  | failed _ hfail => rw [List.findSome?_cons, hfail]
  | next _ hpass _ ih => rw [List.findSome?_cons, hpass, ih]

/-- Every call of a decisive stage is decisive. -/
theorem Ran.decisive_eq (h : Ran t stage positions calls failure)
    (hstage : ∀ position, (stage position).isDecisive = true) : decisive calls = calls := by
  apply List.filter_eq_self.mpr
  intro call hcall
  obtain ⟨position, hstep⟩ := h.step_of_mem hcall
  rw [hstep, hstage position]

/-- A stage calls hooks only, so nothing is answered in it. -/
theorem Ran.answers_eq_nil (h : Ran t stage positions calls failure)
    (hstage : ∀ position, stage position ≠ .lookup) : answers calls = [] := by
  apply List.filterMap_eq_nil_iff.mpr
  intro call hcall
  obtain ⟨position, hstep⟩ := h.step_of_mem hcall
  cases call with
  | lookup => exact absurd hstep.symm (hstage position)
  | before => rfl
  | after => rfl
  | error => rfl
  | finish => rfl

end Calls

/-! ### Putting the verdict together -/

section Verdict

variable {e : Evaluation σ} {calls : List Call} {err : EvaluationError}

/-- A value that is valid as an object holds a JSON object or array. -/
theorem isContainer_of_check {v : FlagValue} (h : v.check .object = .ok ()) :
    ∃ json, v = .object json ∧ json.isContainer := by
  unfold FlagValue.check at h
  by_cases hvalid : v.isValidFor .object
  · cases v with
    | object json => exact ⟨json, rfl, hvalid⟩
    | bool b => exact absurd hvalid Bool.false_ne_true
    | int i => exact absurd hvalid Bool.false_ne_true
    | float x => exact absurd hvalid Bool.false_ne_true
    | string text => exact absurd hvalid Bool.false_ne_true
  · rw [if_neg hvalid] at h
    exact absurd h (by simp)

/-- The verdict on an evaluation that was refused. -/
theorem verdict_of_refusal (hstart : e.refusal? = some err) : e.Verdict (e.failed err) calls := by
  have hfirst : e.firstFailure? calls = some err := by rw [firstFailure?, hstart]; rfl
  unfold Verdict
  rw [hfirst]
  rfl

/-- The verdict on an evaluation with a call that failed. -/
theorem verdict_of_failure (hstart : e.refusal? = none)
    (hfailure : calls.findSome? (Call.failure? e.flagType) = some err) :
    e.Verdict (e.failed err) calls := by
  have hfirst : e.firstFailure? calls = some err := by
    rw [firstFailure?, hstart, hfailure]
    rfl
  unfold Verdict
  rw [hfirst]
  rfl

/-- The verdict on an evaluation without a failure. -/
theorem verdict_of_success {r : Resolution FlagValue} (hstart : e.refusal? = none)
    (hfailure : calls.findSome? (Call.failure? e.flagType) = none) (hanswers : answers calls = [r])
    (hflaw : r.flaw? e.flagType = none) : e.Verdict (.ofResolution e.flagKey r) calls := by
  have hfirst : e.firstFailure? calls = none := by
    rw [firstFailure?, hstart, hfailure]
    rfl
  obtain ⟨hcode, hcheck⟩ := Resolution.flaw?_eq_none_iff.mp hflaw
  unfold Verdict
  rw [hfirst]
  refine ⟨r, hanswers, hcode, hcheck, ?_, ?_⟩
  · intro htype
    rw [htype] at hcheck
    exact isContainer_of_check hcheck
  · rw [EvaluationDetails.ofResolution, hcode]

end Verdict

section Attempt

variable {t : FlagType} {positions : List Nat} {before after closing : List Call}
  {flagKey : String} {defaultValue : FlagValue} {ctx : EvaluationContext}
  {r : Resolution FlagValue} {failure : Option EvaluationError}

/-- The decisive calls of an evaluation that got as far as the after stage. -/
theorem decisive_attempt (hbefore : Ran t .before positions before none)
    (hafter : Ran t .after positions.reverse after failure)
    (hclosing : ∀ call ∈ closing, call.step.isDecisive = false) :
    decisive (before ++ .lookup flagKey defaultValue ctx (.returned r) :: (after ++ closing)) =
      before ++ ([.lookup flagKey defaultValue ctx (.returned r)] ++ after) := by
  rw [decisive_append, hbefore.decisive_eq fun _ => rfl, List.append_cancel_left_eq]
  rw [← List.singleton_append, decisive_append, decisive_append, hafter.decisive_eq fun _ => rfl,
    decisive_eq_nil hclosing, List.append_nil]
  rfl

theorem attempt_initial (hbefore : Ran t .before positions before none)
    (hafter : Ran t .after positions.reverse after failure) :
    (before ++ ([Call.lookup flagKey defaultValue ctx (.returned r)] ++ after)).map Call.step <+:
      pipeline positions := by
  rw [List.map_append, List.map_append, (hbefore.of_none rfl).1, pipeline]
  apply (List.prefix_append_right_inj _).mpr
  exact (List.prefix_append_right_inj _).mpr hafter.steps_initial

/-- If it got that far, its first failure is that of the after stage. -/
theorem attempt_failure (hbefore : Ran t .before positions before none)
    (hlookup : r.flaw? t = none) (hafter : Ran t .after positions.reverse after failure) :
    (before ++ ([Call.lookup flagKey defaultValue ctx (.returned r)] ++ after)).findSome?
      (Call.failure? t) = failure := by
  rw [List.findSome?_append, hbefore.findSome?_failure, List.findSome?_append,
    List.findSome?_singleton, Call.failure?, hlookup, hafter.findSome?_failure]
  rfl

end Attempt

/-- The decisive calls of a course are made in the order of the evaluation, and its details
are the verdict on them. -/
theorem Course.verdict {e : Evaluation σ} {positions : List Nat} {calls : List Call}
    {details : EvaluationDetails FlagValue} (h : Course e positions calls details) :
    (decisive calls).map Call.step <+: pipeline positions ∧
      e.Verdict details (decisive calls) := by
  cases h with
  | refused hstart hclosing =>
    -- all there is are the calls that close the evaluation
    rw [decisive_eq_nil hclosing.not_decisive]
    exact ⟨⟨_, rfl⟩, verdict_of_refusal hstart⟩
  | @beforeFailed before closing err hstart hbefore hclosing =>
    have hdecisive : decisive (before ++ closing) = before := by
      rw [decisive_append, hbefore.decisive_eq fun _ => rfl,
        decisive_eq_nil hclosing.not_decisive, List.append_nil]
    rw [hdecisive]
    refine ⟨hbefore.steps_initial.trans (List.prefix_append _ _), ?_⟩
    exact verdict_of_failure hstart hbefore.findSome?_failure
  | @lookupFailed before closing ctx outcome err hstart hbefore hlookup hclosing =>
    have hdecisive : decisive (before ++ .lookup e.flagKey e.defaultValue ctx outcome :: closing) =
        before ++ [.lookup e.flagKey e.defaultValue ctx outcome] := by
      rw [decisive_append, hbefore.decisive_eq fun _ => rfl, List.append_cancel_left_eq]
      rw [← List.singleton_append, decisive_append, decisive_eq_nil hclosing.not_decisive]
      rfl
    rw [hdecisive]
    refine ⟨?_, verdict_of_failure hstart ?_⟩
    · rw [List.map_append, (hbefore.of_none rfl).1, pipeline]
      exact (List.prefix_append_right_inj _).mpr (List.prefix_append _ _)
    · rw [List.findSome?_append, hbefore.findSome?_failure, List.findSome?_cons, hlookup]
      rfl
  | @afterFailed before after closing ctx r err hstart hbefore hlookup hafter hclosing =>
    rw [decisive_attempt hbefore hafter hclosing.not_decisive]
    refine ⟨?_, verdict_of_failure hstart ?_⟩
    · exact attempt_initial hbefore hafter
    · rw [attempt_failure hbefore hlookup hafter]
  | @succeeded before after finish ctx r hstart hbefore hlookup hafter hfinish =>
    rw [decisive_attempt hbefore hafter (not_decisive_of_finish hfinish)]
    refine ⟨attempt_initial hbefore hafter, verdict_of_success hstart ?_ ?_ hlookup⟩
    · rw [attempt_failure hbefore hlookup hafter]
    · -- hooks answer nothing, so the only answer is that of the lookup
      rw [answers, List.filterMap_append, List.filterMap_append]
      rw [show before.filterMap Call.answer? = [] from hbefore.answers_eq_nil fun _ => by simp,
        show after.filterMap Call.answer? = [] from hafter.answers_eq_nil fun _ => by simp]
      rfl

end Evaluation

namespace Client

open Api (State)
open Evaluation (Call Verdict Watched decisive pipeline)
open FeatureFlags.Task (Follows)

/-- **Every evaluation through a client gives its verdict**: its decisive calls are made in
the order of the pipeline, and the details are those that go with them, so nothing that the
error and finish stages do has a part in them.  It is refused for the status of the instance that
the domain resolves to, or for the kind of the default, and gives the same details whether its calls
are noted or not. -/
theorem evaluate_gives_verdict {W : Type} (host : Host W) (client : Client)
    (flagType : FlagType) (flagKey : String) (defaultValue : FlagValue)
    (ctx : EvaluationContext) (options : EvaluationOptions) (s : State W) :
    let e := client.evaluation host flagType flagKey defaultValue ctx options s
    client.Reads host flagType flagKey defaultValue ctx options s e ∧
      Follows Eq (client.evaluateWatched host flagType flagKey defaultValue ctx options)
        (client.evaluate host flagType flagKey defaultValue ctx options) ∧
      Watched.Ensures (client.evaluateWatched host flagType flagKey defaultValue ctx options)
        (fun result q => e.Settles
          (fun details calls =>
            (decisive calls).map Call.step <+: pipeline e.positions ∧
              e.Verdict details (decisive calls))
          result q.2) (s, []) := by
  intro e
  refine ⟨client.reads_evaluation host flagType flagKey defaultValue ctx options s,
    client.evaluate_follows host flagType flagKey defaultValue ctx options, ?_⟩
  refine (client.evaluateWatched_course host flagType flagKey defaultValue ctx options s).mono ?_
  intro result q hq
  exact hq.mono fun details hcourse => hcourse.verdict

end Client

end FeatureFlags
