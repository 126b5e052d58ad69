import FeatureFlags.Proofs.Evaluation.Informed
import FeatureFlags.Proofs.Evaluation.Unwatched

/-!
# The contexts of an evaluation

The calls of an evaluation fall into those of the before stage and the rest.  In the before
stage the context grows from hook to hook; to the rest it stays what it was when the stage
ended, whether the stage went through or a hook failed, and the resolver's own account of it
is the same.

## Main definitions

* `Evaluation.ContextsAgree` — the contexts that the calls of an evaluation are told.

## Main results

* `Evaluation.Course.contextsAgree` — read off the course of an informed evaluation.
* `Client.contexts_agree` — **the resolver is told what the hooks are told.**
-/

namespace FeatureFlags

namespace Evaluation

variable {σ : Type}

/-- The contexts that the calls of an evaluation are told: those of the before stage, and the
rest. -/
structure ContextsAgree (e : Evaluation σ) (before rest : List Call) : Prop where
  /-- The before stage calls the hooks that take part in their order, from the first one on. -/
  inOrder : ∃ k, before.map Call.step = (e.positions.take k).map Step.before
  /-- No hook is called before the lookup in the rest. -/
  noneLater : ∀ call ∈ rest, ∀ position, call.step ≠ .before position
  /-- A before hook is told the base with what the hooks before it gave laid over it. -/
  growing : ∀ earlier call later, before = earlier ++ call :: later →
    call.told = (givenBy earlier).foldl .merge e.context
  /-- The resolver is told the base with all that was given laid over it at once. -/
  resolver : ∀ call ∈ rest, call.step = .lookup →
    call.told = e.context.merge (.mergeAll (givenBy before))
  /-- The hooks are told the base with all that was given laid over it one by one. -/
  hooks : ∀ call ∈ rest, call.step ≠ .lookup →
    call.told = (givenBy before).foldl .merge e.context
  /-- The two are the same context. -/
  agree : e.context.merge (.mergeAll (givenBy before)) = (givenBy before).foldl .merge e.context
  /-- A hook that fails ends its stage having given nothing, and there is no lookup. -/
  failing : ∀ earlier call later, before = earlier ++ call :: later →
    call.failure? e.flagType ≠ none →
      later = [] ∧ givenBy before = givenBy earlier ∧ ∀ c ∈ rest, c.step ≠ .lookup

/-! ### The calls of a stage -/

/-- Only the last call of a stage fails. -/
theorem Ran.failing_is_last {t : FlagType} {stage : Nat → Step} {positions : List Nat}
    {calls earlier later : List Call} {call : Call} {failure : Option EvaluationError}
    (h : Ran t stage positions calls failure) (hsplit : calls = earlier ++ call :: later)
    (hfail : call.failure? t ≠ none) : later = [] ∧ failure ≠ none := by
  have hmem : call ∈ calls := by
    rw [hsplit]
    exact List.mem_append_right _ List.mem_cons_self
  cases failure with
  | none => exact absurd ((h.of_none rfl).2 call hmem) hfail
  | some err =>
    refine ⟨?_, by simp⟩
    obtain ⟨-, -, passed, last, rfl, -, hpassed, -, -⟩ := h.of_some rfl
    rcases split_concat hsplit with ⟨-, -, hlater⟩ | ⟨between, rfl⟩
    · exact hlater
    · exact absurd (hpassed call (List.mem_append_right _ List.mem_cons_self)) hfail

/-! ### The whole evaluation -/

variable {e : Evaluation σ} {before rest : List Call} {positions : List Nat}
  {failure : Option EvaluationError}

/-- From what every call is told to what the calls of the two parts are told: the rest gives
nothing, so it is all told the same. -/
theorem Informed.contextsAgree (h : Informed e.context (before ++ rest))
    (hbefore : Ran e.flagType .before positions before failure)
    (hpositions : positions <+: e.positions)
    (hrest : ∀ call ∈ rest, ∀ position, call.step ≠ .before position)
    (hfailed : failure ≠ none → ∀ call ∈ rest, call.step ≠ .lookup) :
    ContextsAgree e before rest := by
  have hnone : ∀ call ∈ rest, call.given? = none := fun call hcall =>
    Call.given?_eq_none_of_step (hrest call hcall)
  have htold : ∀ call ∈ rest, call.told = contextAfter e.context before := by
    intro call hcall
    obtain ⟨earlier, later, rfl⟩ := List.append_of_mem hcall
    have hsplit : before ++ (earlier ++ call :: later) = (before ++ earlier) ++ call :: later :=
      (List.append_assoc _ _ _).symm
    rw [h (before ++ earlier) call later hsplit]
    apply contextAfter_append_of_none
    exact fun c hc => hnone c (List.mem_append_left _ hc)
  refine ⟨?_, hrest, ?_, ?_, ?_, merge_mergeAll_givenBy _ _, ?_⟩
  · have hsteps := hbefore.steps_initial.trans (hpositions.map Step.before)
    rw [List.prefix_iff_eq_take.mp hsteps, ← List.map_take]
    exact ⟨_, rfl⟩
  · intro earlier call later hsplit
    refine h earlier call (later ++ rest) ?_
    rw [hsplit, List.append_assoc, List.cons_append]
  · intro call hcall _
    rw [merge_mergeAll_givenBy]
    exact htold call hcall
  · intro call hcall _
    exact htold call hcall
  · intro earlier call later hsplit hfail
    obtain ⟨rfl, hfailure⟩ := hbefore.failing_is_last hsplit hfail
    refine ⟨rfl, ?_, hfailed hfailure⟩
    rw [hsplit]
    exact givenBy_concat_of_none earlier (Call.given?_eq_none_of_failure hfail)

/-- From the lookup on, no hook of the before stage is called. -/
theorem not_before_of_lookup {lookup : Call} {after closing : List Call}
    (hlookup : lookup.step = .lookup) (hafter : Ran e.flagType .after positions after failure)
    (hclosing : ∀ call ∈ closing, call.step.isDecisive = false) :
    ∀ call ∈ lookup :: (after ++ closing), ∀ position, call.step ≠ .before position := by
  intro call hcall position heq
  rcases List.mem_cons.mp hcall with rfl | hcall
  · rw [hlookup] at heq
    exact Step.noConfusion heq
  rcases List.mem_append.mp hcall with hcall | hcall
  · obtain ⟨other, hother⟩ := hafter.step_of_mem hcall
    rw [hother] at heq
    exact Step.noConfusion heq
  · exact (step_of_not_decisive (hclosing call hcall)).1 position heq

/-- **The contexts of an informed evaluation agree**, whichever way it goes. -/
theorem Course.contextsAgree {calls : List Call} {details : EvaluationDetails FlagValue}
    (hcourse : Course e e.positions calls details) (h : Informed e.context calls) :
    ∃ before rest, calls = before ++ rest ∧ ContextsAgree e before rest := by
  cases hcourse with
  | refused hstart hclosing =>
    -- the before stage has not even begun
    have hbefore : Ran e.flagType .before [] [] none := .done
    refine ⟨[], calls, rfl, h.contextsAgree hbefore List.nil_prefix ?_ (absurd rfl)⟩
    exact fun call hcall => (step_of_not_decisive (hclosing.not_decisive call hcall)).1
  | @beforeFailed before closing err hstart hbefore hclosing =>
    refine ⟨before, closing, rfl, h.contextsAgree hbefore List.prefix_rfl ?_ ?_⟩
    · exact fun call hcall => (step_of_not_decisive (hclosing.not_decisive call hcall)).1
    · exact fun _ call hcall => (step_of_not_decisive (hclosing.not_decisive call hcall)).2
  | lookupFailed hstart hbefore hlookup hclosing =>
    have hafter : Ran e.flagType .after [] [] none := .done
    refine ⟨_, _, rfl, h.contextsAgree hbefore List.prefix_rfl ?_ (absurd rfl)⟩
    exact not_before_of_lookup rfl hafter hclosing.not_decisive
  | afterFailed hstart hbefore hlookup hafter hclosing =>
    refine ⟨_, _, rfl, h.contextsAgree hbefore List.prefix_rfl ?_ (absurd rfl)⟩
    exact not_before_of_lookup rfl hafter hclosing.not_decisive
  | succeeded hstart hbefore hlookup hafter hfinish =>
    refine ⟨_, _, rfl, h.contextsAgree hbefore List.prefix_rfl ?_ (absurd rfl)⟩
    exact not_before_of_lookup rfl hafter (not_decisive_of_finish hfinish)

end Evaluation

/-! ### Through a client -/

namespace Client

open Api (State)
open Evaluation (ContextsAgree Watched)
open FeatureFlags.Task (Follows)

/-- **The resolver is told what the hooks are told.**  The base is the context of the instance
with those of the client and of the call laid over it; whatever the hooks give, whether one of
them fails or panics, and whatever others do meanwhile, the contexts of the before stage and of
the rest agree.  An evaluation whose hooks panic when asked for their flag types makes no call
at all, and it does the same whether its calls are noted or not. -/
theorem contexts_agree {W : Type} (host : Host W) (client : Client) (flagType : FlagType)
    (flagKey : String) (defaultValue : FlagValue) (ctx : EvaluationContext)
    (options : EvaluationOptions) (s : State W) :
    let e := client.evaluation host flagType flagKey defaultValue ctx options s
    client.Reads host flagType flagKey defaultValue ctx options s e ∧
      Follows Eq (client.evaluateWatched host flagType flagKey defaultValue ctx options)
        (client.evaluate host flagType flagKey defaultValue ctx options) ∧
      Watched.Ensures (client.evaluateWatched host flagType flagKey defaultValue ctx options)
        (fun result q => e.Settles
          (fun _ calls => ∃ before rest, calls = before ++ rest ∧ ContextsAgree e before rest)
          result q.2) (s, []) := by
  intro e
  refine ⟨client.reads_evaluation host flagType flagKey defaultValue ctx options s,
    client.evaluate_follows host flagType flagKey defaultValue ctx options, ?_⟩
  have hcourse := client.evaluateWatched_course host flagType flagKey defaultValue ctx options s
  have hinformed : Watched.Ensures
      (client.evaluateWatched host flagType flagKey defaultValue ctx options)
      (fun _ q => Evaluation.Informed e.context q.2) (s, []) :=
    e.run_informed host.log s
  refine (Task.Ensures.and hcourse hinformed).mono ?_
  rintro result q ⟨hsettles, hq⟩
  exact hsettles.mono fun details h => h.contextsAgree hq

end Client

end FeatureFlags
