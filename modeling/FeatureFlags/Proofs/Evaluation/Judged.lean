import FeatureFlags.Proofs.Evaluation.BareErrors
import FeatureFlags.Proofs.Evaluation.Noting

/-!
# Errors that evaluators of flags carry

The evaluator of a flag in memory answers with a value of any kind, and its answer may carry an
error.  The provider turns the value into one of the flag type that was asked for, and it does so
before anybody looks at the error.  If the value is of another kind, that is what the caller is
told, and the error that was carried is lost.

What an evaluator answers is noted when it is asked.

## Main definitions

* `InMemory.Judgement` — an answer of the evaluator of a flag.
* `InMemory.noting` — the provider, with the answers of evaluators noted.
* `Client.detailsJudged` — details for a caller, with these answers noted.

## Main results

* `Client.details_of_judgement` — **a carried error reaches the caller exactly if the value that
  comes with it is of the type asked for.**
-/

namespace FeatureFlags

/-- The error tells two failures apart. -/
theorem EvaluationDetails.ofError_inj {α : Type} {flagKey : String} {fallback : α}
    {e e' : EvaluationError} :
    (ofError flagKey fallback e = ofError flagKey fallback e') ↔ e = e' := by
  constructor
  · intro h
    obtain ⟨code, message⟩ := e
    obtain ⟨code', message'⟩ := e'
    injection h with _ _ _ _ _ hcode hmessage
    exact congrArg₂ EvaluationError.mk (Option.some.inj hcode) hmessage
  · rintro rfl
    rfl

/-! ### Answers of evaluators -/

namespace InMemory

open FeatureFlags.Task (Mimics mimics_within)

variable {σ : Type}

/-- An answer of the evaluator of a flag, for a context. -/
structure Judgement where
  flagKey : String
  ctx : EvaluationContext
  resolution : Resolution FlagValue

/-- What the evaluator of a flag answers, if there is one and it does not panic. -/
def judgement? (memory : InMemory) (flagKey : String) (ctx : EvaluationContext) :
    Option Judgement :=
  match memory.flags.find? flagKey with
  | none => none
  | some flag =>
    match flag.evaluator with
    | none => none
    | some evaluator =>
      match evaluator flag.toFlagDefinition ctx with
      | .ok r => some ⟨flagKey, ctx, r⟩
      | .error _ => none

/-- The provider, with the answers of evaluators noted. -/
def noting (cell : Cell σ InMemory) : Provider (σ × List Judgement) :=
  { (provider cell).within (.first _ _) with
    resolve := fun t flagKey fallback ctx => do
      Task.modify fun p => (p.1, p.2 ++ ((cell.get p.1).judgement? flagKey ctx).toList)
      ((provider cell).resolve t flagKey fallback ctx).within (.first _ _) }

theorem noting_mimics (cell : Cell σ InMemory) (t : FlagType) (flagKey : String)
    (fallback : t.Carrier) (ctx : EvaluationContext) :
    Mimics True Eq ((noting cell).resolve t flagKey fallback ctx)
      ((provider cell).resolve t flagKey fallback ctx) :=
  .aside trivial (mimics_within _)

/-- A flag whose evaluator answers gives the answer back as the flag type that was asked for. -/
theorem resolve_of_judgement {memory : InMemory} {flagKey : String} {ctx : EvaluationContext}
    {j : Judgement} (h : memory.judgement? flagKey ctx = some j) (t : FlagType) :
    j.flagKey = flagKey ∧
      memory.resolve t flagKey ctx = .ofExcept (j.resolution.toCarrier t) := by
  rw [judgement?] at h
  rw [resolve]
  cases hflag : memory.flags.find? flagKey with
  | none =>
    rw [hflag] at h
    exact absurd h nofun
  | some flag =>
    rw [hflag] at h
    dsimp only at h ⊢
    rw [MemoryFlag.resolve]
    cases hevaluator : flag.evaluator with
    | none =>
      rw [hevaluator] at h
      exact absurd h nofun
    | some evaluator =>
      rw [hevaluator] at h
      dsimp only at h ⊢
      cases hanswer : evaluator flag.toFlagDefinition ctx with
      | error p =>
        rw [hanswer] at h
        exact absurd h nofun
      | ok r =>
        rw [hanswer] at h
        rw [← Option.some.inj h]
        exact ⟨rfl, rfl⟩

end InMemory

/-! ### Evaluations -/

namespace Evaluation

open InMemory (Judgement)

variable {σ : Type}

/-- What is known of a lookup in memory: it gives back what an evaluator has answered. -/
def JudgedBy (call : Call) (p : σ × List Judgement) : Prop :=
  match call with
  | .lookup flagKey defaultValue _ outcome =>
    ∀ j ∈ p.2, j.flagKey = flagKey ∧ outcome = givenBack defaultValue.type j.resolution
  | _ => True

theorem resolveValue_judgedBy (cell : Cell σ InMemory) (flagKey : String)
    (defaultValue : FlagValue) (ctx : EvaluationContext) (s : σ) :
    ((InMemory.noting cell).resolveValue flagKey defaultValue ctx).Ensures
      (Cell.first _ _).Confined
        (fun outcome p => JudgedBy (.lookup flagKey defaultValue ctx outcome) p) (s, []) := by
  intro j hj
  have hjudged : (cell.get s).judgement? flagKey ctx = some j := Option.mem_toList.mp hj
  obtain ⟨hkey, hresolve⟩ := InMemory.resolve_of_judgement hjudged defaultValue.type
  refine ⟨hkey, ?_⟩
  rw [← ofExcept_toCarrier]
  exact congrArg (Outcome.map (Resolution.map (FlagValue.ofCarrier defaultValue.type))) hresolve

/-- A carried error that comes with a value of the type asked for is told; otherwise the kind of
the value is. -/
theorem carried?_givenBack {t : FlagType} {r : Resolution FlagValue} {err : EvaluationError}
    (h : r.error? = some err) :
    carried? (givenBack t r) =
      some (if r.value.isValidFor t then err else .typeMismatch t r.value.kindName) := by
  rw [givenBack]
  split
  · exact h
  · rfl

/-- What an evaluation that gets as far as its lookup tells of an error that an evaluator's answer
carries. -/
theorem Course.of_judgement {e : Evaluation (σ × List Judgement)} {positions : List Nat}
    {q : Watched (σ × List Judgement)} {details : EvaluationDetails FlagValue}
    (h : Course e positions q.2 details) (hreaches : e.Reaches q.2) (hknown : Known JudgedBy q)
    (htype : e.defaultValue.type = e.flagType) (fallback : e.flagType.Carrier) {j : Judgement}
    (hj : j ∈ q.1.2) :
    j.flagKey = e.flagKey ∧ ∀ err, j.resolution.error? = some err →
      typedDetails e.flagType fallback details = .ofError e.flagKey fallback
        (if j.resolution.value.isValidFor e.flagType then err
          else .typeMismatch e.flagType j.resolution.value.kindName) := by
  obtain ⟨ctx, outcome, hcall⟩ := h.exists_lookup hreaches
  obtain ⟨hkey, rfl⟩ := hknown _ hcall rfl j hj
  rw [htype] at hcall
  refine ⟨hkey, fun err herr => ?_⟩
  exact h.typed_of_failure fallback hcall (failure?_of_carried (carried?_givenBack herr) _ _ _ _)

end Evaluation

/-! ### Through a client -/

namespace Client

open Api (State)
open Evaluation (Call JudgedBy Watched)
open FeatureFlags.Task (FollowsFrom)
open InMemory (Judgement)

/-- Details for a caller who asked for a flag type, with the calls of the evaluation noted and the
answers of the evaluators of flags in memory. -/
def detailsJudged {W : Type} (host : Host W) (client : Client) (id : ProviderId) (t : FlagType)
    (flagKey : String) (fallback : t.Carrier) (ctx : EvaluationContext)
    (options : EvaluationOptions) :
    Task (Watched (State W × List Judgement)) (Except Panic (EvaluationDetails t.Carrier)) :=
  client.detailsNoting host t flagKey fallback ctx options (InMemory.noting (Api.memoryCell id))

/-- **A carried error reaches the caller exactly if the value that comes with it is of the type
asked for**, or the error is what would be told of the value anyway.  The caller of an evaluation
through a provider of flags in memory gets the default: with the error that the evaluator's answer
carries, or else with one that tells the kind of its value.  The details are the same whether the
answers of evaluators are noted or not. -/
theorem details_of_judgement {W : Type} (host : Host W) (client : Client) (id : ProviderId)
    (t : FlagType) (flagKey : String) (fallback : t.Carrier) (ctx : EvaluationContext)
    (options : EvaluationOptions) {s : State W}
    (hprovider : (client.evaluation host t flagKey (.ofCarrier t fallback) ctx options s).provider =
      InMemory.provider (Api.memoryCell id)) :
    let e := client.evaluation host t flagKey (.ofCarrier t fallback) ctx options s
    FollowsFrom ((Cell.first _ _).beside _) Eq
        (client.detailsJudged host id t flagKey fallback ctx options)
        (client.details host t flagKey fallback ctx options) ((s, []), []) ∧
      (client.detailsJudged host id t flagKey fallback ctx options).Ensures
        ((Cell.first _ _).beside _).Confined
        (fun result q => e.Gives
          (fun details => e.Reaches q.2 → ∀ j ∈ q.1.2, j.flagKey = flagKey ∧
            ∀ err, j.resolution.error? = some err →
              let value := j.resolution.value
              details = .ofError flagKey fallback
                (if value.isValidFor t then err else .typeMismatch t value.kindName) ∧
              (details = .ofError flagKey fallback err ↔
                value.isValidFor t ∨ err = .typeMismatch t value.kindName))
          result) ((s, []), []) := by
  intro e
  refine ⟨client.detailsNoting_follows host t flagKey fallback ctx options hprovider rfl
    (InMemory.noting_mimics _) [], ?_⟩
  have hK : ∀ call (p p' : State W × List Judgement), JudgedBy call p →
      (Cell.first _ _).Confined p p' → JudgedBy call p' := by
    rintro call p _ h ⟨s', rfl⟩
    exact h
  have hknown := client.detailsNoting_known host t flagKey fallback ctx options hK
    (fun ctx' s' => Evaluation.resolveValue_judgedBy (Api.memoryCell id) flagKey
      (.ofCarrier t fallback) ctx' s') s
  refine hknown.mono ?_
  rintro result q ⟨hgives, hknown⟩
  refine hgives.mono ?_
  rintro _ ⟨untyped, rfl, hcourse⟩ hreaches j hj
  have htype : (FlagValue.ofCarrier t fallback).type = t := FlagValue.type_ofCarrier t fallback
  obtain ⟨hkey, htold⟩ := hcourse.of_judgement hreaches hknown htype fallback hj
  refine ⟨hkey, fun err herr => ⟨htold err herr, ?_⟩⟩
  have herror : Evaluation.typedDetails t fallback untyped = .ofError flagKey fallback _ :=
    htold err herr
  rw [herror, EvaluationDetails.ofError_inj]
  split
  next hvalid => exact iff_of_true rfl (.inl hvalid)
  next hinvalid => exact ⟨fun h => .inr h.symm, fun h => (h.resolve_left hinvalid).symm⟩

/-! ### A flag that carries an error -/

section Carrying

/-- An error of an evaluator that targets by a key. -/
def noKey : EvaluationError := .of .targetingKeyMissing "no key"

/-- An instance whose default provider has a flag in memory with an evaluator that answers with that
error and some value. -/
def carrying (value : FlagValue) : State Unit :=
  (Api.memoryCell (.application 0)).set
    { flags := SortedMap.empty.insert "flag"
        { defaultVariant := "on", variants := .empty, metadata := .empty,
          evaluator := some fun _ _ => .ok (.ofError value noKey) }
      emitter := none }
    served

/-- An application of flags in memory. -/
def memoryHost : Host Unit := soleHost (InMemory.provider (Api.memoryCell (.application 0)))

/-- What a client gets for a boolean flag with the default `false`, and what is noted of it. -/
def booleanJudged (value : FlagValue) :
    Except Panic (EvaluationDetails Bool) × Watched (State Unit × List Judgement) :=
  ((Client.mk 0 none).detailsJudged memoryHost (.application 0) .boolean "flag" false .empty
    .none).run ((carrying value, []), [])

/-- With a boolean, the error reaches the caller of a boolean flag. -/
theorem carried_error_is_told :
    (booleanJudged (.bool true)).1 = .ok (.ofError "flag" false noKey) := by
  obtain ⟨-, hensures⟩ := details_of_judgement memoryHost (Client.mk 0 none) (.application 0)
    .boolean "flag" false .empty .none (s := carrying (.bool true)) rfl
  obtain ⟨details, hresult, hdetails⟩ := Task.run_of_ensures (fun p => ⟨p.1.1, rfl⟩) hensures
  have hnotes : (booleanJudged (.bool true)).2.1.2 =
      [⟨"flag", .empty, .ofError (.bool true) noKey⟩] := rfl
  have hcalls : (booleanJudged (.bool true)).2.2 =
      [.lookup "flag" (.bool false) .empty (.returned (.ofError (.bool true) noKey))] := rfl
  obtain ⟨-, htold⟩ := hdetails ⟨rfl, hcalls ▸ by simp [Call.step]⟩ _ (hnotes ▸ List.mem_cons_self)
  exact hresult.trans (congrArg Except.ok (htold noKey rfl).1)

/-- With a number, the caller of a boolean flag is told of the number instead. -/
theorem carried_error_is_lost :
    booleanDetails memoryHost (carrying (.int 5)) =
        .ok (.ofError "flag" false (.typeMismatch .boolean "INTEGER")) ∧
      EvaluationError.typeMismatch .boolean "INTEGER" ≠ noKey :=
  ⟨rfl, by decide⟩

end Carrying

end Client

end FeatureFlags
