import FeatureFlags.Proofs.Evaluation.Course

/-!
# From the lookup to the details

An evaluation that gets as far as its lookup makes one.  If the lookup fails, that is its failure;
if the answer stands, the caller gets it unless an after hook fails.  On the way out the value goes
back into the carrier of the flag type, which a valid value survives as it is.

## Main definitions

* `Evaluation.Reaches` — an evaluation that gets as far as its lookup.
* `Evaluation.carried?` — the error that a lookup ended with.
* `Evaluation.Gives` — what the caller gets.
* `Client.detailsWatched` — details for a caller, with the calls of the evaluation noted.

## Main results

* `Evaluation.Course.of_lookup` — what an evaluation with a lookup gives.
* `Evaluation.Course.typed_of_failure`, `Evaluation.Course.typed_of_answer` — the same for a
  caller who asked for a flag type.
* `Client.detailsWatched_of_error` — **a lookup that ends with an error.**
-/

namespace FeatureFlags

/-! ### Values and carriers -/

namespace FlagValue

@[simp] theorem type_ofCarrier (t : FlagType) (value : t.Carrier) :
    (ofCarrier t value).type = t := by
  cases t <;> rfl

theorem check_eq_ok_iff {v : FlagValue} {t : FlagType} : v.check t = .ok () ↔ v.isValidFor t := by
  unfold check
  by_cases hvalid : v.isValidFor t
  · simp [hvalid]
  · simp [hvalid]

/-- A valid value is one of the carrier, put back. -/
theorem toCarrier_of_valid {v : FlagValue} {t : FlagType} (h : v.isValidFor t) :
    ∃ value, v.toCarrier t = .ok value ∧ v = ofCarrier t value := by
  cases t <;> cases v
  case object.object json => exact ⟨json, if_pos h, rfl⟩
  all_goals first
    | exact ⟨_, rfl, rfl⟩
    | exact absurd h Bool.false_ne_true

theorem toCarrier_of_not_valid {v : FlagValue} {t : FlagType} (h : ¬v.isValidFor t) :
    v.toCarrier t = .error (.typeMismatch t v.kindName) := by
  cases t <;> cases v
  case object.object json => exact if_neg h
  all_goals first
    | rfl
    | exact absurd rfl h

/-- The only values of a flag type that are not valid for it are JSON scalars. -/
theorem of_not_valid {v : FlagValue} {t : FlagType} (htype : v.type = t) (h : ¬v.isValidFor t) :
    t = .object ∧ v.kindName = "non-object JSON" := by
  subst htype
  cases v
  case object json => exact ⟨rfl, if_neg h⟩
  all_goals exact absurd rfl h

theorem toCarrier_ofCarrier {t : FlagType} {value : t.Carrier}
    (h : (ofCarrier t value).isValidFor t) : toCarrier t (ofCarrier t value) = .ok value := by
  cases t with
  | object => exact if_pos h
  | _ => rfl

/-- A carrier holds valid values, apart from JSON data that are no arrays or objects. -/
theorem isValidFor_ofCarrier {t : FlagType} {value : t.Carrier}
    (h : t = .object → (ofCarrier t value).isValidFor t) : (ofCarrier t value).isValidFor t := by
  by_contra hnot
  obtain ⟨hobject, -⟩ := of_not_valid (type_ofCarrier t value) hnot
  exact hnot (h hobject)

theorem isValidFor_type_ofCarrier {t : FlagType} {value : t.Carrier}
    (h : t = .object → (ofCarrier t value).isValidFor t) :
    (ofCarrier t value).isValidFor (ofCarrier t value).type := by
  rw [type_ofCarrier]
  exact isValidFor_ofCarrier h

end FlagValue

/-- An answer whose value is one of the carrier, taken into the carrier and put back. -/
theorem Resolution.map_withValue {t : FlagType} {r : Resolution FlagValue} {value : t.Carrier}
    (h : r.value = .ofCarrier t value) :
    (r.withValue value).map (FlagValue.ofCarrier t) = r := by
  rw [Resolution.map, Resolution.withValue, Resolution.withValue, ← h]

namespace Evaluation

/-- The details of a failed evaluation carry the default of whoever asked. -/
theorem typedDetails_ofError (t : FlagType) (fallback : t.Carrier) (flagKey : String)
    (defaultValue : FlagValue) (err : EvaluationError) :
    typedDetails t fallback (.ofError flagKey defaultValue err) = .ofError flagKey fallback err :=
  rfl

/-- An answer without an error survives with its value in the carrier. -/
theorem typedDetails_ofResolution {t : FlagType} (fallback : t.Carrier) (flagKey : String)
    {r : Resolution FlagValue} (hcode : r.errorCode = none) (hvalid : r.value.isValidFor t) :
    ∃ answer : Resolution t.Carrier, r = answer.map (FlagValue.ofCarrier t) ∧
      typedDetails t fallback (.ofResolution flagKey r) = .ofResolution flagKey answer := by
  obtain ⟨value, hvalue, hback⟩ := FlagValue.toCarrier_of_valid hvalid
  refine ⟨r.withValue value, (Resolution.map_withValue hback).symm, ?_⟩
  have hnone : ¬(EvaluationDetails.ofResolution flagKey r).errorCode.isSome := by
    rw [EvaluationDetails.ofResolution, hcode]
    exact Bool.false_ne_true
  have hcarrier : FlagValue.toCarrier t (EvaluationDetails.ofResolution flagKey r).value =
      .ok value := hvalue
  rw [typedDetails, if_neg hnone, hcarrier]
  rfl

/-! ### The one lookup -/

section Lookup

variable {σ : Type} {e : Evaluation σ} {t : FlagType} {stage : Nat → Step} {positions : List Nat}
  {calls before rest : List Call} {failure : Option EvaluationError}
  {details : EvaluationDetails FlagValue} {call lookup : Call}

theorem Ran.not_lookup (h : Ran t stage positions calls failure)
    (hstage : ∀ position, stage position ≠ .lookup) : ∀ call ∈ calls, call.step ≠ .lookup := by
  intro call hcall hlookup
  obtain ⟨position, hstep⟩ := h.step_of_mem hcall
  exact hstage position (hstep.symm.trans hlookup)

theorem not_lookup_append (hbefore : ∀ call ∈ before, call.step ≠ .lookup)
    (hrest : ∀ call ∈ rest, call.step ≠ .lookup) :
    ∀ call ∈ before ++ rest, call.step ≠ .lookup := by
  intro call hcall
  rcases List.mem_append.mp hcall with hcall | hcall
  · exact hbefore call hcall
  · exact hrest call hcall

/-- A lookup is the one that stands between calls that are none. -/
theorem eq_of_lookup (hbefore : ∀ call ∈ before, call.step ≠ .lookup)
    (hrest : ∀ call ∈ rest, call.step ≠ .lookup) (hcall : call ∈ before ++ lookup :: rest)
    (hlookup : call.step = .lookup) : call = lookup := by
  rcases List.mem_append.mp hcall with hcall | hcall
  · exact absurd hlookup (hbefore call hcall)
  rcases List.mem_cons.mp hcall with rfl | hcall
  · rfl
  · exact absurd hlookup (hrest call hcall)

/-- **What an evaluation with a lookup gives**: the failure of the lookup, or else the answer,
unless a call after it failed. -/
theorem Course.of_lookup (h : Course e positions calls details) (hcall : call ∈ calls)
    (hlookup : call.step = .lookup) :
    (∃ err, call.failure? e.flagType = some err ∧ details = e.failed err) ∨
      ∃ ctx r, call = .lookup e.flagKey e.defaultValue ctx (.returned r) ∧
        r.flaw? e.flagType = none ∧
          (details = .ofResolution e.flagKey r ∨ ∃ after ∈ calls, ∃ position,
            after.step = .after position ∧ after.failure? e.flagType ≠ none) := by
  cases h with
  | refused hstart hclosing =>
    exact absurd hlookup (not_lookup_of_not_decisive hclosing.not_decisive call hcall)
  | beforeFailed hstart hbefore hclosing =>
    have hnone := not_lookup_append (hbefore.not_lookup fun _ => Step.noConfusion)
      (not_lookup_of_not_decisive hclosing.not_decisive)
    exact absurd hlookup (hnone call hcall)
  | lookupFailed hstart hbefore hfail hclosing =>
    have heq := eq_of_lookup (hbefore.not_lookup fun _ => Step.noConfusion)
      (not_lookup_of_not_decisive hclosing.not_decisive) hcall hlookup
    rw [heq]
    exact .inl ⟨_, hfail, rfl⟩
  | @afterFailed before after closing ctx r err hstart hbefore hflaw hafter hclosing =>
    have heq := eq_of_lookup (hbefore.not_lookup fun _ => Step.noConfusion)
      (not_lookup_append (hafter.not_lookup fun _ => Step.noConfusion)
        (not_lookup_of_not_decisive hclosing.not_decisive)) hcall hlookup
    refine .inr ⟨ctx, r, heq, hflaw, .inr ?_⟩
    -- the last call of the after stage is the one that failed
    obtain ⟨k, hk, passed, last, rfl, -, -, hstep, hfail⟩ := hafter.of_some rfl
    refine ⟨last, by simp, _, hstep, ?_⟩
    rw [hfail]
    exact Option.some_ne_none err
  | succeeded hstart hbefore hflaw hafter hfinish =>
    have heq := eq_of_lookup (hbefore.not_lookup fun _ => Step.noConfusion)
      (not_lookup_append (hafter.not_lookup fun _ => Step.noConfusion)
        (not_lookup_of_not_decisive (not_decisive_of_finish hfinish))) hcall hlookup
    exact .inr ⟨_, _, heq, hflaw, .inl rfl⟩

/-- An evaluation that gets as far as its lookup: it is not refused, and no before hook fails. -/
def Reaches (e : Evaluation σ) (calls : List Call) : Prop :=
  e.refusal? = none ∧ ∀ call ∈ calls, ∀ position, call.step = .before position →
    call.failure? e.flagType = none

/-- An evaluation that gets as far as its lookup makes one. -/
theorem Course.exists_lookup (h : Course e positions calls details) (hreaches : e.Reaches calls) :
    ∃ ctx outcome, .lookup e.flagKey e.defaultValue ctx outcome ∈ calls := by
  obtain ⟨hstart', hpass⟩ := hreaches
  cases h with
  | refused hstart hclosing =>
    rw [hstart] at hstart'
    exact absurd hstart' (Option.some_ne_none _)
  | beforeFailed hstart hbefore hclosing =>
    obtain ⟨k, hk, passed, last, rfl, -, -, hstep, hfail⟩ := hbefore.of_some rfl
    rw [hpass last (by simp) _ hstep] at hfail
    exact absurd hfail.symm (Option.some_ne_none _)
  | lookupFailed => exact ⟨_, _, List.mem_append_right _ List.mem_cons_self⟩
  | afterFailed => exact ⟨_, _, List.mem_append_right _ List.mem_cons_self⟩
  | succeeded => exact ⟨_, _, List.mem_append_right _ List.mem_cons_self⟩

end Lookup

/-! ### For a caller who asked for a flag type -/

/-- The error that a lookup ended with: its failure, or else the error that its answer carries. -/
def carried? : Outcome (Resolution FlagValue) → Option EvaluationError
  | .returned r => r.error?
  | outcome => outcome.failure?

/-- A lookup that ended with an error fails with it, whatever value came with the error. -/
theorem failure?_of_carried {outcome : Outcome (Resolution FlagValue)} {err : EvaluationError}
    (h : carried? outcome = some err) (t : FlagType) (flagKey : String) (defaultValue : FlagValue)
    (ctx : EvaluationContext) :
    (Call.lookup flagKey defaultValue ctx outcome).failure? t = some err := by
  cases outcome with
  | returned r =>
    have hcarried : r.error? = some err := h
    rw [Call.failure?, Resolution.flaw?, hcarried]
  | failed e => exact h
  | panicked p => exact h

section Typed

variable {σ : Type} {e : Evaluation σ} {positions : List Nat} {calls : List Call}
  {details : EvaluationDetails FlagValue} {flagKey : String} {defaultValue : FlagValue}
  {ctx : EvaluationContext} (fallback : e.flagType.Carrier)

/-- A lookup that failed gives the default of the caller with the failure. -/
theorem Course.typed_of_failure {outcome : Outcome (Resolution FlagValue)} {err : EvaluationError}
    (h : Course e positions calls details)
    (hcall : .lookup flagKey defaultValue ctx outcome ∈ calls)
    (hfail : (Call.lookup flagKey defaultValue ctx outcome).failure? e.flagType = some err) :
    typedDetails e.flagType fallback details = .ofError e.flagKey fallback err := by
  rcases h.of_lookup hcall rfl with ⟨err', hfail', rfl⟩ | ⟨_, r, heq, hflaw, -⟩
  · rw [hfail] at hfail'
    rw [Option.some.inj hfail']
    exact typedDetails_ofError ..
  · rw [heq, Call.failure?, hflaw] at hfail
    exact absurd hfail.symm (Option.some_ne_none err)

/-- An answer that is no error and has a valid value is given, unless an after hook fails. -/
theorem Course.typed_of_answer {r : Resolution FlagValue} (h : Course e positions calls details)
    (hcall : .lookup flagKey defaultValue ctx (.returned r) ∈ calls) (hcode : r.errorCode = none)
    (hvalid : r.value.isValidFor e.flagType)
    (hafter : ∀ call ∈ calls, ∀ position, call.step = .after position →
      call.failure? e.flagType = none) :
    ∃ answer : Resolution e.flagType.Carrier, r = answer.map (FlagValue.ofCarrier e.flagType) ∧
      typedDetails e.flagType fallback details = .ofResolution e.flagKey answer := by
  rcases h.of_lookup hcall rfl with ⟨err, hfail, -⟩ | ⟨_, r', heq, -, hdetails⟩
  · have hflaw := Resolution.flaw?_eq_none_iff.mpr ⟨hcode, FlagValue.check_eq_ok_iff.mpr hvalid⟩
    rw [Call.failure?, hflaw] at hfail
    exact absurd hfail.symm (Option.some_ne_none err)
  have hr : r = r' := by
    injection heq with _ _ _ houtcome
    injection houtcome
  rcases hdetails with rfl | ⟨after, hmem, position, hstep, hfail⟩
  · rw [← hr]
    exact typedDetails_ofResolution fallback e.flagKey hcode hvalid
  · exact absurd (hafter after hmem position hstep) hfail

end Typed

/-- What the caller gets: details with a property, unless a hook panicked when asked for its flag
types. -/
def Gives {σ α : Type} (e : Evaluation σ) (P : EvaluationDetails α → Prop)
    (result : Except Panic (EvaluationDetails α)) : Prop :=
  match HookChain.select e.flagType e.hooks with
  | .error panic => result = .error panic
  | .ok _ => ∃ details, result = .ok details ∧ P details

theorem Gives.mono {σ α : Type} {e : Evaluation σ} {P Q : EvaluationDetails α → Prop}
    {result : Except Panic (EvaluationDetails α)} (h : e.Gives P result)
    (hPQ : ∀ details, P details → Q details) : e.Gives Q result := by
  rw [Gives] at h ⊢
  cases hselect : HookChain.select e.flagType e.hooks with
  | error panic =>
    rw [hselect] at h
    exact h
  | ok chain =>
    rw [hselect] at h
    obtain ⟨details, hresult, hP⟩ := h
    exact ⟨details, hresult, hPQ details hP⟩

/-- Details that are passed on to the caller in another form. -/
theorem Settles.gives {σ β : Type} {e : Evaluation σ}
    {P : EvaluationDetails FlagValue → List Call → Prop}
    {result : Except Panic (EvaluationDetails FlagValue)} {calls : List Call}
    (h : e.Settles P result calls) {Q : EvaluationDetails β → Prop}
    (f : EvaluationDetails FlagValue → EvaluationDetails β)
    (hPQ : ∀ details, P details calls → Q (f details)) : e.Gives Q (result.map f) := by
  rw [Settles] at h
  rw [Gives]
  cases hselect : HookChain.select e.flagType e.hooks with
  | error panic =>
    rw [hselect] at h
    rw [h.1]
    rfl
  | ok chain =>
    rw [hselect] at h
    obtain ⟨details, rfl, hP⟩ := h
    exact ⟨f details, rfl, hPQ details hP⟩

end Evaluation

/-! ### Through a client -/

namespace Client

open Api (State)
open Evaluation (Call Watched carried? typedDetails)

variable {W : Type} (host : Host W) (client : Client) (t : FlagType) (flagKey : String)
  (fallback : t.Carrier) (ctx : EvaluationContext) (options : EvaluationOptions)

/-- Details for a caller who asked for a flag type, with the calls of the evaluation noted. -/
def detailsWatched : Task (Watched (State W)) (Except Panic (EvaluationDetails t.Carrier)) := do
  let result ← client.evaluateWatched host t flagKey (.ofCarrier t fallback) ctx options
  return result.map (typedDetails t fallback)

/-- **A lookup that ends with an error** gives the caller's default with that error, whatever
provider it is a lookup of. -/
theorem detailsWatched_of_error (s : State W) :
    let e := client.evaluation host t flagKey (.ofCarrier t fallback) ctx options s
    Watched.Ensures (client.detailsWatched host t flagKey fallback ctx options)
      (fun result q => e.Gives
        (fun details => e.Reaches q.2 → ∃ ctx' outcome,
          .lookup flagKey (.ofCarrier t fallback) ctx' outcome ∈ q.2 ∧
            ∀ err, carried? outcome = some err → details = .ofError flagKey fallback err)
        result) (s, []) := by
  intro e
  have hcourse := client.evaluateWatched_course host t flagKey (.ofCarrier t fallback) ctx options s
  refine (Task.ensures_map _ _ _ _).mpr (hcourse.mono ?_)
  intro result q hsettles
  refine hsettles.gives _ fun details h hreaches => ?_
  obtain ⟨ctx', outcome, hcall⟩ := h.exists_lookup hreaches
  refine ⟨ctx', outcome, hcall, fun err hcarried => ?_⟩
  exact h.typed_of_failure fallback hcall (Evaluation.failure?_of_carried hcarried _ _ _ _)

end Client

end FeatureFlags
