import FeatureFlags.Proofs.Evaluation.Watched
import Mathlib.Data.List.Forall2

/-!
# The stages of an evaluation

What a stage does, told through the calls it makes.  The before stage calls the hooks from
the first position on until one fails, the after stage from the last position on until one
fails, and the error and finish stages call every hook whatever the others do.

## Main definitions

* `Evaluation.Call.failure?` — how a call makes the evaluation fail.
* `Evaluation.Ran` — a stage that ends with its first failure.
* `Evaluation.Watches` — a chain of hooks that are watched at some positions.

## Main results

* `Evaluation.runBefore_watched`, `Evaluation.runAfter_watched`,
  `Evaluation.runError_watched`, `Evaluation.runFinish_watched` — the calls that each stage
  makes.
-/

namespace FeatureFlags

/-- What is wrong with an answer for a flag type: the error it carries, or that its value is
not valid. -/
def Resolution.flaw? (t : FlagType) (r : Resolution FlagValue) : Option EvaluationError :=
  match r.error? with
  | some e => some e
  | none =>
    match r.value.check t with
    | .error e => some e
    | .ok () => none

/-- An answer is without a flaw exactly if it carries no error code and has a valid value. -/
theorem Resolution.flaw?_eq_none_iff {t : FlagType} {r : Resolution FlagValue} :
    r.flaw? t = none ↔ r.errorCode = none ∧ r.value.check t = .ok () := by
  unfold Resolution.flaw? Resolution.error?
  cases r.errorCode with
  | some code => simp
  | none =>
    cases r.value.check t with
    | ok => simp
    | error err => simp

/-- Whether a hook takes part in evaluations of a flag type. -/
def Hook.takesPart {σ : Type} (t : FlagType) (hook : Hook σ) : Bool :=
  match hook.supports t with
  | .ok supported => supported
  | .error _ => false

namespace Evaluation

/-- How a call makes the evaluation fail.  A lookup fails also by an answer that is no
answer; the error and finish stages never do. -/
def Call.failure? (t : FlagType) : Call → Option EvaluationError
  | .before _ outcome => outcome.failure?
  | .lookup _ _ _ (.returned r) => r.flaw? t
  | .lookup _ _ _ outcome => outcome.failure?
  | .after _ _ outcome => outcome.failure?
  | .error _ _ _ => none
  | .finish _ _ => none

/-- Whether the calls of a callback can settle what an evaluation gives. -/
def Step.isDecisive : Step → Bool
  | before _ => true
  | lookup => true
  | after _ => true
  | error _ => false
  | finish _ => false

theorem Call.failure?_of_not_decisive {t : FlagType} {call : Call}
    (h : call.step.isDecisive = false) : call.failure? t = none := by
  cases call with
  | before => exact Bool.noConfusion h
  | lookup => exact Bool.noConfusion h
  | after => exact Bool.noConfusion h
  | error => rfl
  | finish => rfl

/-- A call that is not decisive is none of the before stage, and no lookup. -/
theorem step_of_not_decisive {call : Call} (h : call.step.isDecisive = false) :
    (∀ position, call.step ≠ .before position) ∧ call.step ≠ .lookup := by
  constructor
  · intro position heq
    rw [heq] at h
    exact Bool.noConfusion h
  · intro heq
    rw [heq] at h
    exact Bool.noConfusion h

theorem not_lookup_of_not_decisive {calls : List Call}
    (h : ∀ call ∈ calls, call.step.isDecisive = false) : ∀ call ∈ calls, call.step ≠ .lookup :=
  fun call hcall => (step_of_not_decisive (h call hcall)).2

variable {σ : Type}

/-! ### Stages -/

/-- A stage that calls the hooks at some positions in order, and ends with the first
failure. -/
inductive Ran (t : FlagType) (stage : Nat → Step) :
    List Nat → List Call → Option EvaluationError → Prop where
  | done : Ran t stage [] [] none
  | failed {position : Nat} {rest : List Nat} {call : Call} {e : EvaluationError}
      (hstep : call.step = stage position) (hfail : call.failure? t = some e) :
      Ran t stage (position :: rest) [call] (some e)
  | next {position : Nat} {rest : List Nat} {call : Call} {calls : List Call}
      {failure : Option EvaluationError} (hstep : call.step = stage position)
      (hpass : call.failure? t = none) (hrest : Ran t stage rest calls failure) :
      Ran t stage (position :: rest) (call :: calls) failure

namespace Ran

variable {t : FlagType} {stage : Nat → Step} {positions more : List Nat}
  {calls callsMore : List Call} {before failure : Option EvaluationError} {e : EvaluationError}

/-- A stage that has failed calls no further hooks. -/
theorem append_failed (h : Ran t stage positions calls failure) (hfailure : failure ≠ none)
    (more : List Nat) : Ran t stage (positions ++ more) calls failure := by
  induction h with
  | done => exact absurd rfl hfailure
  | failed hstep hfail => exact .failed hstep hfail
  | next hstep hpass _ ih => exact .next hstep hpass (ih hfailure)

/-- A stage that has not failed goes on with the hooks that are left. -/
theorem append (h : Ran t stage positions calls before) (hbefore : before = none)
    (hmore : Ran t stage more callsMore failure) :
    Ran t stage (positions ++ more) (calls ++ callsMore) failure := by
  induction h with
  | done => exact hmore
  | failed => exact absurd hbefore (by simp)
  | next hstep hpass _ ih => exact .next hstep hpass (ih hbefore)

/-- A stage without a failure has called every hook, and none of the calls failed. -/
theorem of_none (h : Ran t stage positions calls failure) (hfailure : failure = none) :
    calls.map Call.step = positions.map stage ∧ ∀ call ∈ calls, call.failure? t = none := by
  induction h with
  | done => simp
  | failed => exact absurd hfailure (by simp)
  | next hstep hpass _ ih =>
    obtain ⟨hsteps, hall⟩ := ih hfailure
    refine ⟨by rw [List.map_cons, List.map_cons, hstep, hsteps], ?_⟩
    intro call hcall
    rcases List.mem_cons.mp hcall with rfl | hcall
    · exact hpass
    · exact hall call hcall

/-- A stage with a failure has called the hooks up to the one that failed, and only the last
of the calls failed. -/
theorem of_some (h : Ran t stage positions calls failure) (hfailure : failure = some e) :
    ∃ k, ∃ hk : k < positions.length, ∃ before call, calls = before ++ [call] ∧
      calls.map Call.step = (positions.take (k + 1)).map stage ∧
      (∀ c ∈ before, c.failure? t = none) ∧ call.step = stage positions[k] ∧
      call.failure? t = some e := by
  induction h with
  | done => exact absurd hfailure (by simp)
  | @failed position rest call _ hstep hfail =>
    refine ⟨0, by simp, [], call, rfl, ?_, by simp, hstep, hfail.trans hfailure⟩
    simp [hstep]
  | @next position rest call calls _ hstep hpass _ ih =>
    obtain ⟨k, hk, before, last, rfl, hsteps, hbefore, hlast, hfail⟩ := ih hfailure
    refine ⟨k + 1, by simpa using hk, call :: before, last, rfl, ?_, ?_, by simpa using hlast,
      hfail⟩
    · rw [List.take_succ_cons, List.map_cons, List.map_cons, hstep, hsteps]
    · intro c hc
      rcases List.mem_cons.mp hc with rfl | hc
      · exact hpass
      · exact hbefore c hc

/-- A stage calls its hooks in order, perhaps not all of them. -/
theorem steps_initial (h : Ran t stage positions calls failure) :
    calls.map Call.step <+: positions.map stage := by
  induction h with
  | done => exact List.prefix_rfl
  | @failed position rest call _ hstep _ =>
    rw [List.map_singleton, List.map_cons, hstep]
    exact ⟨rest.map stage, rfl⟩
  | next hstep _ _ ih =>
    rw [List.map_cons, List.map_cons, hstep]
    exact List.cons_prefix_cons.mpr ⟨rfl, ih⟩

/-- Every call of a stage belongs to the stage. -/
theorem step_of_mem (h : Ran t stage positions calls failure) {call : Call}
    (hcall : call ∈ calls) : ∃ position, call.step = stage position := by
  induction h with
  | done => exact absurd hcall List.not_mem_nil
  | failed hstep _ =>
    rw [List.mem_singleton.mp hcall]
    exact ⟨_, hstep⟩
  | next hstep _ _ ih =>
    rcases List.mem_cons.mp hcall with rfl | hcall
    · exact ⟨_, hstep⟩
    · exact ih hcall

end Ran

/-! ### Watched chains -/

/-- A chain of hooks that are watched at some positions. -/
def Watches (chain : HookChain (Watched σ)) (positions : List Nat) : Prop :=
  List.Forall₂ (fun entry position => ∃ hook : Hook σ, entry.hook = hook.watched position)
    chain positions

/-- Picking the hooks that take part picks the same ones of watched hooks; each of them keeps
its position. -/
theorem select_watched (t : FlagType) (hooks : List (Hook σ)) (first : Nat) :
    match HookChain.select t hooks with
    | .error p =>
      HookChain.select t ((hooks.zipIdx first).map fun (hook, i) => hook.watched i) = .error p
    | .ok _ =>
      ∃ watched, HookChain.select t ((hooks.zipIdx first).map fun (hook, i) => hook.watched i) =
          .ok watched ∧
        Watches watched (((hooks.zipIdx first).filter fun (hook, _) => hook.takesPart t).map
          (·.2)) := by
  induction hooks generalizing first with
  | nil => exact ⟨[], rfl, List.Forall₂.nil⟩
  | cons hook rest ih =>
    have hsupports : (hook.watched first).supports t = hook.supports t := rfl
    rw [HookChain.select, List.zipIdx_cons, List.map_cons, HookChain.select, hsupports]
    cases hanswer : hook.supports t with
    | error p => rfl
    | ok supported =>
      have hrest := ih (first + 1)
      have htakes : hook.takesPart t = supported := by rw [Hook.takesPart, hanswer]
      cases hselect : HookChain.select t rest with
      | error p =>
        rw [hselect] at hrest
        dsimp only at hrest ⊢
        rw [hrest]
      | ok chain =>
        rw [hselect] at hrest
        obtain ⟨watched, heq, hwatches⟩ := hrest
        dsimp only
        -- the positions go on counting, whether this hook takes part or not
        rw [heq, List.filter_cons, htakes]
        cases supported with
        | false => exact ⟨watched, rfl, hwatches⟩
        | true => exact ⟨_, rfl, List.Forall₂.cons ⟨hook, rfl⟩ hwatches⟩

/-- The error of a result. -/
def errorOf {α : Type} : Except EvaluationError α → Option EvaluationError
  | .ok _ => none
  | .error e => some e

/-- The before stage calls the hooks in order up to the first failure. -/
theorem runBefore_watched (t : FlagType) (journal : Journal σ) (hints : HookHints)
    {chain : HookChain (Watched σ)} {positions : List Nat} (hchain : Watches chain positions)
    (index : Nat) (ctx : HookContext) (given : EvaluationContext) (p : Watched σ) :
    Watched.Ensures (chain.runBefore journal.watched hints index ctx given)
      (fun run q => Watches run.chain positions ∧
        ∃ calls, q.2 = p.2 ++ calls ∧ Ran t .before positions calls (errorOf run.given)) p := by
  induction hchain generalizing index ctx given p with
  | nil => exact ⟨List.Forall₂.nil, [], by simp, .done⟩
  | @cons entry position rest positions hentry hrest ih =>
    obtain ⟨_, data⟩ := entry
    obtain ⟨hook, rfl⟩ := hentry
    rw [HookChain.runBefore, Task.bind_def, Watched.ensures_bind]
    refine makes_before hook position ctx hints data _ p ?_
    rintro call ⟨left, outcome⟩ s rfl
    dsimp only
    cases houtcome : outcome.toExcept with
    | error e =>
      refine ⟨List.Forall₂.cons ⟨hook, rfl⟩ hrest, _, rfl, ?_⟩
      exact .failed rfl (Outcome.toExcept_eq_error_iff.mp houtcome)
    | ok more =>
      have hpass := Outcome.failure?_eq_none_of_toExcept houtcome
      -- whether context was given or not, the rest of the stage runs from this call on
      have hnext : ∀ (next : HookContext) (given : EvaluationContext) (s : σ),
          Watched.Ensures (HookChain.runBefore journal.watched hints (index + 1) next given rest)
            (fun run q => Watches (⟨hook.watched position, left⟩ :: run.chain)
                (position :: positions) ∧
              ∃ calls, q.2 = p.2 ++ calls ∧
                Ran t .before (position :: positions) calls (errorOf run.given))
            (s, p.2 ++ [.before ⟨position, ctx, hints, data, left⟩ outcome]) := by
        intro next given s
        refine (ih (index + 1) next given _).mono ?_
        rintro run q ⟨hwatches, calls, hcalls, hran⟩
        rw [List.append_assoc, List.singleton_append] at hcalls
        exact ⟨List.Forall₂.cons ⟨hook, rfl⟩ hwatches, _, hcalls, .next rfl hpass hran⟩
      cases more with
      | none =>
        dsimp only
        rw [Task.bind_def, Watched.ensures_bind]
        exact hnext ctx given s
      | some more =>
        dsimp only
        rw [Task.bind_def, Watched.ensures_bind, Watched.ensures_log, Task.bind_def,
          Watched.ensures_bind]
        exact hnext (ctx.extend more) (given.merge more) _

/-- The after stage calls the hooks from the last one on up to the first failure. -/
theorem runAfter_watched (t : FlagType) (hints : HookHints) (ctx : HookContext)
    (details : EvaluationDetails FlagValue) {chain : HookChain (Watched σ)}
    {positions : List Nat} (hchain : Watches chain positions) (p : Watched σ) :
    Watched.Ensures (chain.runAfter hints ctx details)
      (fun (after, result) q => Watches after positions ∧
        ∃ calls, q.2 = p.2 ++ calls ∧
          Ran t .after positions.reverse calls (errorOf result)) p := by
  induction hchain generalizing p with
  | nil => exact ⟨List.Forall₂.nil, [], by simp, .done⟩
  | @cons entry position rest positions hentry _ ih =>
    obtain ⟨_, data⟩ := entry
    obtain ⟨hook, rfl⟩ := hentry
    rw [HookChain.runAfter, Task.bind_def, Watched.ensures_bind]
    refine (ih p).mono ?_
    rintro ⟨after, result⟩ q ⟨hwatches, calls, hcalls, hran⟩
    rw [List.reverse_cons]
    cases result with
    | error e =>
      -- a later hook failed, so this one is not called
      exact ⟨List.Forall₂.cons ⟨hook, rfl⟩ hwatches, calls, hcalls,
        hran.append_failed (by simp [errorOf]) _⟩
    | ok =>
      dsimp only
      rw [Task.bind_def, Watched.ensures_bind]
      refine makes_after hook position ctx details hints data _ q ?_
      rintro call ⟨left, outcome⟩ s rfl
      refine ⟨List.Forall₂.cons ⟨hook, rfl⟩ hwatches, _, by rw [hcalls, List.append_assoc], ?_⟩
      refine hran.append rfl ?_
      cases houtcome : outcome.toExcept with
      | error e => exact .failed rfl (Outcome.toExcept_eq_error_iff.mp houtcome)
      | ok => exact .next rfl (Outcome.failure?_eq_none_of_toExcept houtcome) .done

/-- A stage in which every hook runs calls them all, from the last one on. -/
theorem runAll_watched (journal : Journal σ) (stage : String) (ctx : HookContext)
    (call : Hook (Watched σ) → HookData → Task (Watched σ) (HookData × Outcome Unit))
    (step : Nat → Step)
    (hcall : ∀ (hook : Hook σ) position data,
      Makes (call (hook.watched position) data) fun c _ => c.step = step position)
    {chain : HookChain (Watched σ)} {positions : List Nat} (hchain : Watches chain positions)
    (index : Nat) (p : Watched σ) :
    Watched.Ensures (chain.runAll journal.watched stage ctx call index)
      (fun after q => Watches after positions ∧
        ∃ calls, q.2 = p.2 ++ calls ∧ calls.map Call.step = positions.reverse.map step) p := by
  induction hchain generalizing index p with
  | nil => exact ⟨List.Forall₂.nil, [], by simp, rfl⟩
  | @cons entry position rest positions hentry _ ih =>
    obtain ⟨_, data⟩ := entry
    obtain ⟨hook, rfl⟩ := hentry
    rw [HookChain.runAll, Task.bind_def, Watched.ensures_bind]
    refine (ih (index + 1) p).mono ?_
    rintro after q ⟨hwatches, calls, hcalls, hsteps⟩
    rw [Task.bind_def, Watched.ensures_bind]
    refine hcall hook position data _ q ?_
    rintro c ⟨left, outcome⟩ s hstep
    dsimp only
    rw [Task.bind_def, Watched.ensures_bind]
    -- reporting a failure that is passed over makes no call
    have hend : Watches (⟨hook.watched position, left⟩ :: after) (position :: positions) ∧
        ∃ all, q.2 ++ [c] = p.2 ++ all ∧
          all.map Call.step = (position :: positions).reverse.map step := by
      refine ⟨List.Forall₂.cons ⟨hook, rfl⟩ hwatches, calls ++ [c], ?_, ?_⟩
      · rw [hcalls, List.append_assoc]
      · rw [List.map_append, hsteps, List.reverse_cons, List.map_append, List.map_singleton, hstep,
          List.map_singleton]
    cases HookChain.passedOver? stage index ctx outcome with
    | none => exact hend
    | some entry => exact hend

/-- The error stage calls every hook, from the last one on. -/
theorem runError_watched (journal : Journal σ) (hints : HookHints) (ctx : HookContext)
    (err : EvaluationError) {chain : HookChain (Watched σ)} {positions : List Nat}
    (hchain : Watches chain positions) (p : Watched σ) :
    Watched.Ensures (chain.runError journal.watched hints ctx err)
      (fun after q => Watches after positions ∧
        ∃ calls, q.2 = p.2 ++ calls ∧
          calls.map Call.step = positions.reverse.map Step.error) p := by
  refine runAll_watched journal "error" ctx _ Step.error ?_ hchain 0 p
  intro hook position data Q q hQ
  refine makes_error hook position ctx err hints data Q q ?_
  rintro call a s rfl
  exact hQ _ a s rfl

/-- The finish stage calls every hook, from the last one on. -/
theorem runFinish_watched (journal : Journal σ) (hints : HookHints) (ctx : HookContext)
    {chain : HookChain (Watched σ)} {positions : List Nat} (hchain : Watches chain positions)
    (p : Watched σ) :
    Watched.Ensures (chain.runFinish journal.watched hints ctx)
      (fun after q => Watches after positions ∧
        ∃ calls, q.2 = p.2 ++ calls ∧
          calls.map Call.step = positions.reverse.map Step.finish) p := by
  refine runAll_watched journal "finally_after" ctx _ Step.finish ?_ hchain 0 p
  intro hook position data Q q hQ
  refine makes_finish hook position ctx hints data Q q ?_
  rintro call a s rfl
  exact hQ _ a s rfl

end Evaluation

end FeatureFlags
