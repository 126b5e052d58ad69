import FeatureFlags.Proofs.Evaluation.Stages

/-!
# The course of an evaluation

An evaluation is refused, or it goes through the before stage, the lookup and the after
stage up to the first failure.  Its course, with all the calls it makes, is put together
from those of the stages.

## Main definitions

* `Evaluation.refusal?` — why an evaluation is not attempted at all.
* `Evaluation.positions` — the hooks that take part.
* `Evaluation.Course` — the five ways in which an evaluation goes.
* `Evaluation.Leads` — some calls that lead to a result.
* `Evaluation.Settles` — what comes of an evaluation.
* `Client.evaluateWatched` — an evaluation through a client, with its calls noted.

## Main results

* `Evaluation.run_watched` — **every evaluation ends, and goes in one of the five ways.**
-/

namespace FeatureFlags

namespace Evaluation

variable {σ : Type}

/-- Why an evaluation is not attempted: the status of the provider, or else a default of
another kind than the flag type. -/
def refusal? (e : Evaluation σ) : Option EvaluationError :=
  match e.status.shortCircuitCode? with
  | some code => some (shortCircuitError code)
  | none =>
    if e.defaultValue.type ≠ e.flagType then
      some (defaultKindError e.defaultValue.type e.flagType)
    else none

/-- The positions, among the hooks of the evaluation, of those that take part in it. -/
def positions (e : Evaluation σ) : List Nat :=
  (e.hooks.zipIdx.filter fun (hook, _) => hook.takesPart e.flagType).map (·.2)

/-! ### The whole evaluation -/

/-- The calls that close an evaluation that failed: the error stage and then the finish
stage, each from the last hook to the first. -/
def Closing (positions : List Nat) (calls : List Call) : Prop :=
  calls.map Call.step = positions.reverse.map Step.error ++ positions.reverse.map Step.finish

/-- No call of the finish stage is decisive. -/
theorem not_decisive_of_finish {positions : List Nat} {calls : List Call}
    (h : calls.map Call.step = positions.map Step.finish) :
    ∀ call ∈ calls, call.step.isDecisive = false := by
  intro call hcall
  have hstep : call.step ∈ calls.map Call.step := List.mem_map_of_mem hcall
  rw [h] at hstep
  obtain ⟨position, -, heq⟩ := List.mem_map.mp hstep
  rw [← heq]
  rfl

/-- No call that closes an evaluation is decisive. -/
theorem Closing.not_decisive {positions : List Nat} {calls : List Call}
    (h : Closing positions calls) : ∀ call ∈ calls, call.step.isDecisive = false := by
  intro call hcall
  have hstep : call.step ∈ calls.map Call.step := List.mem_map_of_mem hcall
  rw [show calls.map Call.step = _ from h] at hstep
  rcases List.mem_append.mp hstep with hstep | hstep
  all_goals
    obtain ⟨position, -, heq⟩ := List.mem_map.mp hstep
    rw [← heq]
    rfl

/-- The five ways in which an evaluation goes: the calls it makes and the details it gives. -/
inductive Course (e : Evaluation σ) (positions : List Nat) :
    List Call → EvaluationDetails FlagValue → Prop where
  | refused {closing : List Call} {err : EvaluationError} (hstart : e.refusal? = some err)
      (hclosing : Closing positions closing) :
      Course e positions closing (e.failed err)
  | beforeFailed {before closing : List Call} {err : EvaluationError}
      (hstart : e.refusal? = none)
      (hbefore : Ran e.flagType .before positions before (some err))
      (hclosing : Closing positions closing) :
      Course e positions (before ++ closing) (e.failed err)
  | lookupFailed {before closing : List Call} {ctx : EvaluationContext}
      {outcome : Outcome (Resolution FlagValue)} {err : EvaluationError}
      (hstart : e.refusal? = none)
      (hbefore : Ran e.flagType .before positions before none)
      (hlookup : (Call.lookup e.flagKey e.defaultValue ctx outcome).failure? e.flagType = some err)
      (hclosing : Closing positions closing) :
      Course e positions (before ++ .lookup e.flagKey e.defaultValue ctx outcome :: closing)
        (e.failed err)
  | afterFailed {before after closing : List Call} {ctx : EvaluationContext}
      {r : Resolution FlagValue} {err : EvaluationError} (hstart : e.refusal? = none)
      (hbefore : Ran e.flagType .before positions before none)
      (hlookup : r.flaw? e.flagType = none)
      (hafter : Ran e.flagType .after positions.reverse after (some err))
      (hclosing : Closing positions closing) :
      Course e positions
        (before ++ .lookup e.flagKey e.defaultValue ctx (.returned r) :: (after ++ closing))
        (e.failed err)
  | succeeded {before after finish : List Call} {ctx : EvaluationContext}
      {r : Resolution FlagValue} (hstart : e.refusal? = none)
      (hbefore : Ran e.flagType .before positions before none)
      (hlookup : r.flaw? e.flagType = none)
      (hafter : Ran e.flagType .after positions.reverse after none)
      (hfinish : finish.map Call.step = positions.reverse.map Step.finish) :
      Course e positions
        (before ++ .lookup e.flagKey e.defaultValue ctx (.returned r) :: (after ++ finish))
        (.ofResolution e.flagKey r)

/-- A course gives an answer without a flaw, or the caller's default. -/
theorem Course.answer_or_default {e : Evaluation σ} {positions : List Nat} {calls : List Call}
    {details : EvaluationDetails FlagValue} (h : Course e positions calls details) :
    (∃ r : Resolution FlagValue, r.flaw? e.flagType = none ∧
        details = .ofResolution e.flagKey r) ∨
      ∃ err, details = e.failed err := by
  cases h with
  | refused => exact .inr ⟨_, rfl⟩
  | beforeFailed => exact .inr ⟨_, rfl⟩
  | lookupFailed => exact .inr ⟨_, rfl⟩
  | afterFailed => exact .inr ⟨_, rfl⟩
  | succeeded _ _ hlookup => exact .inl ⟨_, hlookup, rfl⟩

/-- An answer that is refused makes its lookup a failure. -/
theorem failure?_of_accept_error {e : Evaluation σ} {outcome : Outcome (Resolution FlagValue)}
    {err : EvaluationError} {ctx : EvaluationContext}
    (h : outcome.toExcept.bind e.accept = .error err) :
    (Call.lookup e.flagKey e.defaultValue ctx outcome).failure? e.flagType = some err := by
  cases outcome with
  | failed err' => exact congrArg some (Except.error.inj h)
  | panicked p =>
    -- nothing is put in front of the text of a panic of the resolver
    have herr : EvaluationError.general ("" ++ p.message) = err := Except.error.inj h
    rw [String.empty_append] at herr
    exact congrArg some herr
  | returned r =>
    replace h : e.accept r = .error err := h
    rw [accept] at h
    rw [Call.failure?, Resolution.flaw?]
    cases hcarried : r.error? with
    | some err' =>
      rw [hcarried] at h
      exact congrArg some (Except.error.inj h)
    | none =>
      rw [hcarried] at h
      cases hcheck : r.value.check e.flagType with
      | error err' =>
        rw [hcheck] at h
        exact congrArg some (Except.error.inj h)
      | ok =>
        rw [hcheck] at h
        exact absurd h (by simp [Except.map])

/-- An answer that stands was returned without a flaw, and is the result. -/
theorem returned_of_accept_ok {e : Evaluation σ} {outcome : Outcome (Resolution FlagValue)}
    {details : EvaluationDetails FlagValue}
    (h : outcome.toExcept.bind e.accept = .ok details) :
    ∃ r, outcome = .returned r ∧ r.flaw? e.flagType = none ∧
      details = .ofResolution e.flagKey r := by
  cases outcome with
  | failed err => exact absurd h (by simp [Except.bind])
  | panicked p => exact absurd h (by simp [Outcome.toExcept, Outcome.toExceptWith, Except.bind])
  | returned r =>
    replace h : e.accept r = .ok details := h
    rw [accept] at h
    refine ⟨r, rfl, ?_, ?_⟩
    -- the only way to stand is to carry no error and to pass the check
    all_goals
      cases hcarried : r.error? with
      | some err =>
        rw [hcarried] at h
        exact absurd h (by simp)
      | none =>
        rw [hcarried] at h
        cases hcheck : r.value.check e.flagType with
        | error err =>
          rw [hcheck] at h
          exact absurd h (by simp [Except.map])
        | ok =>
          rw [hcheck] at h
          first
            | rw [Resolution.flaw?, hcarried, hcheck]
            | exact (Except.ok.inj h).symm

/-- Some calls lead to a result: with what closes the evaluation after them, they make up its
course. -/
def Leads (e : Evaluation σ) (positions : List Nat) (calls : List Call) :
    Except EvaluationError (EvaluationDetails FlagValue) → Prop
  | .error err => ∀ closing, Closing positions closing →
      Course e positions (calls ++ closing) (e.failed err)
  | .ok details => ∀ finish : List Call, finish.map Call.step = positions.reverse.map Step.finish →
      Course e positions (calls ++ finish) details

/-- From the lookup on: an answer that is not refused goes through the after stage, and is
given if that does not fail. -/
theorem leads_of_after {e : Evaluation σ} {positions : List Nat} {before after : List Call}
    {ctx : EvaluationContext} {r : Resolution FlagValue} {result : Except EvaluationError Unit}
    (hstart : e.refusal? = none) (hbefore : Ran e.flagType .before positions before none)
    (hlookup : r.flaw? e.flagType = none)
    (hafter : Ran e.flagType .after positions.reverse after (errorOf result)) :
    Leads e positions (before ++ .lookup e.flagKey e.defaultValue ctx (.returned r) :: after)
      (result.map fun _ => .ofResolution e.flagKey r) := by
  cases result with
  | error err =>
    intro closing hclosing
    rw [List.append_assoc, List.cons_append]
    exact .afterFailed hstart hbefore hlookup hafter hclosing
  | ok =>
    intro finish hfinish
    rw [List.append_assoc, List.cons_append]
    exact .succeeded hstart hbefore hlookup hafter hfinish

/-- The steps that may fail lead to their result. -/
theorem attempt_watched (journal : Journal σ) (e : Evaluation σ)
    (hstatus : e.status.shortCircuitCode? = none) {chain : HookChain (Watched σ)}
    {positions : List Nat} (hchain : Watches chain positions) (p : Watched σ) :
    Watched.Ensures (e.watched.attempt journal.watched chain)
      (fun tried q => Watches tried.chain positions ∧
        ∃ calls, q.2 = p.2 ++ calls ∧ Leads e positions calls tried.result) p := by
  rw [attempt]
  by_cases hkind : e.watched.defaultValue.type ≠ e.watched.flagType
  · -- a default of another kind: nothing is called
    have hstart : e.refusal? = some (defaultKindError e.defaultValue.type e.flagType) := by
      rw [refusal?, hstatus]
      exact if_pos hkind
    rw [if_pos hkind]
    exact ⟨hchain, [], by simp, fun closing hclosing => .refused hstart hclosing⟩
  have hstart : e.refusal? = none := by
    rw [refusal?, hstatus]
    exact if_neg hkind
  rw [if_neg hkind, Task.bind_def, Watched.ensures_bind]
  refine (runBefore_watched e.flagType journal _ hchain _ _ _ p).mono ?_
  rintro ⟨after, ctx, given⟩ q ⟨hwatches, before, hbefore, hran⟩
  cases given with
  | error err =>
    -- a hook failed, so there is no lookup
    refine ⟨hwatches, before, hbefore, ?_⟩
    exact fun closing hclosing => .beforeFailed hstart hran hclosing
  | ok given =>
    dsimp only
    rw [Task.bind_def, Watched.ensures_bind]
    refine makes_lookup e.provider _ _ _ _ q ?_
    rintro call outcome s rfl
    cases haccept : outcome.toExcept.bind e.watched.accept with
    | error err =>
      -- the lookup failed, or what it returned is refused
      dsimp only
      refine ⟨hwatches, _, by rw [hbefore, List.append_assoc], ?_⟩
      intro closing hclosing
      rw [List.append_assoc, List.singleton_append]
      exact .lookupFailed hstart hran (failure?_of_accept_error haccept) hclosing
    | ok details =>
      -- the answer stands, and the after stage decides whether it is given
      obtain ⟨r, rfl, hflaw, rfl⟩ := returned_of_accept_ok haccept
      dsimp only
      rw [Task.bind_def, Watched.ensures_bind]
      refine (runAfter_watched e.flagType _ ctx _ hwatches _).mono ?_
      rintro ⟨final, result⟩ q' ⟨hfinal, calls, hcalls, hafter⟩
      rw [hbefore, List.append_assoc, List.append_assoc, List.singleton_append] at hcalls
      exact ⟨hfinal, _, hcalls, leads_of_after hstart hran hflaw hafter⟩

/-- The end of an evaluation that failed calls every hook twice and changes nothing else. -/
theorem closing_watched {α : Type} (journal : Journal σ) (hints : HookHints) (ctx : HookContext)
    (err : EvaluationError) (result : α) {chain : HookChain (Watched σ)} {positions : List Nat}
    (hchain : Watches chain positions) (p : Watched σ) :
    Watched.Ensures
      (do
        let chain ← chain.runError journal.watched hints ctx err
        let _ ← chain.runFinish journal.watched hints ctx
        return result)
      (fun ended q => ended = result ∧
        ∃ calls, q.2 = p.2 ++ calls ∧ Closing positions calls) p := by
  rw [Task.bind_def, Watched.ensures_bind]
  refine (runError_watched journal hints ctx err hchain p).mono ?_
  rintro after q ⟨hafter, errors, herrors, hsteps⟩
  -- the finish stage takes over the chain as the error stage has left it
  rw [Task.bind_def, Watched.ensures_bind]
  refine (runFinish_watched journal hints ctx hafter q).mono ?_
  rintro final q' ⟨-, finish, hfinish, hsteps'⟩
  refine ⟨rfl, errors ++ finish, by rw [hfinish, herrors, List.append_assoc], ?_⟩
  rw [Closing, List.map_append, hsteps, hsteps']

/-- An evaluation with the hooks that take part goes in one of the five ways. -/
theorem runWith_watched (journal : Journal σ) (e : Evaluation σ) {chain : HookChain (Watched σ)}
    {positions : List Nat} (hchain : Watches chain positions) (p : Watched σ) :
    Watched.Ensures (e.watched.runWith journal.watched chain)
      (fun details q => ∃ calls, q.2 = p.2 ++ calls ∧ Course e positions calls details) p := by
  rw [runWith, Task.bind_def, Watched.ensures_bind, Watched.ensures_log]
  cases hstatus : e.status.shortCircuitCode? with
  | some code =>
    -- the provider is not ready: the evaluation is closed without having been attempted
    have hstatus' : e.watched.status.shortCircuitCode? = some code := hstatus
    have hstart : e.refusal? = some (shortCircuitError code) := by rw [refusal?, hstatus]
    rw [hstatus']
    refine (closing_watched journal _ _ _ _ hchain _).mono ?_
    rintro details q ⟨rfl, calls, hcalls, hclosing⟩
    exact ⟨calls, hcalls, .refused hstart hclosing⟩
  | none =>
    have hstatus' : e.watched.status.shortCircuitCode? = none := hstatus
    rw [hstatus']
    dsimp only
    rw [Task.bind_def, Watched.ensures_bind]
    refine (attempt_watched journal e hstatus hchain _).mono ?_
    rintro ⟨after, ctx, result⟩ q ⟨hwatches, calls, hcalls, hleads⟩
    cases result with
    | ok details =>
      dsimp only
      rw [Task.bind_def, Watched.ensures_bind]
      refine (runFinish_watched journal e.hints ctx hwatches q).mono ?_
      rintro final q' ⟨-, finish, hfinish, hsteps⟩
      rw [hcalls, List.append_assoc] at hfinish
      exact ⟨calls ++ finish, hfinish, hleads finish hsteps⟩
    | error err =>
      dsimp only
      rw [Task.bind_def, Watched.ensures_bind, Watched.ensures_log]
      refine (closing_watched journal _ ctx err _ hwatches _).mono ?_
      rintro details q' ⟨rfl, closing, hclosing, hsteps⟩
      dsimp only at hclosing
      rw [hcalls, List.append_assoc] at hclosing
      exact ⟨calls ++ closing, hclosing, hleads closing hsteps⟩

/-- What comes of an evaluation.  A hook that panics when it is asked for its flag types keeps
it from starting, and nothing is called; else it gives details, and they have a property
together with the calls. -/
def Settles (e : Evaluation σ) (P : EvaluationDetails FlagValue → List Call → Prop)
    (result : Except Panic (EvaluationDetails FlagValue)) (calls : List Call) : Prop :=
  match HookChain.select e.flagType e.hooks with
  | .error panic => result = .error panic ∧ calls = []
  | .ok _ => ∃ details, result = .ok details ∧ P details calls

theorem Settles.mono {e : Evaluation σ} {P Q : EvaluationDetails FlagValue → List Call → Prop}
    {result : Except Panic (EvaluationDetails FlagValue)} {calls : List Call}
    (h : e.Settles P result calls) (hPQ : ∀ details, P details calls → Q details calls) :
    e.Settles Q result calls := by
  rw [Settles] at h ⊢
  cases hselect : HookChain.select e.flagType e.hooks with
  | error panic =>
    rw [hselect] at h
    exact h
  | ok chain =>
    rw [hselect] at h
    obtain ⟨details, hresult, hP⟩ := h
    exact ⟨details, hresult, hPQ details hP⟩

theorem Settles.of_ok {e : Evaluation σ} {P : EvaluationDetails FlagValue → List Call → Prop}
    {details : EvaluationDetails FlagValue} {calls : List Call}
    (h : e.Settles P (.ok details) calls) : P details calls := by
  unfold Settles at h
  cases hselect : HookChain.select e.flagType e.hooks with
  | error panic =>
    rw [hselect] at h
    exact absurd h.1 (by simp)
  | ok chain =>
    rw [hselect] at h
    obtain ⟨_, heq, hP⟩ := h
    rw [Except.ok.inj heq]
    exact hP

/-- **Every evaluation ends, and goes in one of the five ways**, whatever its hooks and its
provider do and whatever others do meanwhile. -/
theorem run_watched (journal : Journal σ) (e : Evaluation σ) (s : σ) :
    Watched.Ensures (e.watched.run journal.watched)
      (fun result q => e.Settles (fun details calls => Course e e.positions calls details)
        result q.2) (s, []) := by
  have hselect := select_watched e.flagType e.hooks 0
  rw [run]
  unfold Settles
  cases hchain : HookChain.select e.flagType e.hooks with
  | error panic =>
    rw [hchain] at hselect
    have hwatched : HookChain.select e.watched.flagType e.watched.hooks = .error panic := hselect
    rw [hwatched]
    exact ⟨rfl, rfl⟩
  | ok chain =>
    rw [hchain] at hselect
    obtain ⟨watched, heq, hwatches⟩ := hselect
    have hwatched : HookChain.select e.watched.flagType e.watched.hooks = .ok watched := heq
    rw [hwatched]
    -- no call has been made yet, so the calls of the course are all there are
    refine (Task.ensures_map _ _ _ _).mpr ?_
    refine (runWith_watched journal e hwatches (s, [])).mono ?_
    rintro details q ⟨calls, hcalls, hcourse⟩
    rw [List.nil_append] at hcalls
    exact ⟨details, rfl, hcalls ▸ hcourse⟩

end Evaluation

/-! ### Through a client -/

namespace Client

open Api (State)
open Evaluation (Course Watched)

variable {W : Type}

/-- An evaluation through a client, with its calls noted. -/
def evaluateWatched (host : Host W) (client : Client) (flagType : FlagType) (flagKey : String)
    (defaultValue : FlagValue) (ctx : EvaluationContext) (options : EvaluationOptions) :
    Task (Watched (State W)) (Except Panic (EvaluationDetails FlagValue)) :=
  .read fun p =>
    (client.evaluation host flagType flagKey defaultValue ctx options p.1).watched.run
      host.log.watched

/-- An evaluation through a client goes in one of the five ways. -/
theorem evaluateWatched_course (host : Host W) (client : Client) (flagType : FlagType)
    (flagKey : String) (defaultValue : FlagValue) (ctx : EvaluationContext)
    (options : EvaluationOptions) (s : State W) :
    let e := client.evaluation host flagType flagKey defaultValue ctx options s
    Watched.Ensures (client.evaluateWatched host flagType flagKey defaultValue ctx options)
      (fun result q => e.Settles (fun details calls => Course e e.positions calls details)
        result q.2) (s, []) :=
  (client.evaluation host flagType flagKey defaultValue ctx options s).run_watched host.log s

end Client

end FeatureFlags
