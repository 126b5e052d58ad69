import FeatureFlags.Proofs.Evaluation.Unwatched

/-!
# The hook lifecycle

The calls of an evaluation, read as a word over the callbacks, have one of five shapes.
Which of the five it is, and at which hook, is settled by the call that failed.

## Main definitions

* `Evaluation.Ending` — how an evaluation ends.
* `Evaluation.Ending.steps` — the callbacks that are called, in order.
* `Evaluation.Ending.Fits` — the calls of an evaluation belong to an ending.

## Main results

* `Client.evaluate_has_one_ending` — **every evaluation fits exactly one ending.**
-/

namespace FeatureFlags

namespace Evaluation

variable {σ : Type}

/-! ### Endings -/

/-- How an evaluation in which `n` hooks take part ends; a hook that failed is given by its
number among them. -/
inductive Ending (n : Nat) where
  | refused
  | beforeFailed (k : Fin n)
  | lookupFailed
  | afterFailed (k : Fin n)
  | succeeded

namespace Ending

/-- What closes an evaluation that failed, for the hooks that take part. -/
def closing (hs : List Nat) : List Step :=
  hs.reverse.map Step.error ++ hs.reverse.map Step.finish

/-- The callbacks that are called, in order. -/
def steps (hs : List Nat) : Ending hs.length → List Step
  | refused => closing hs
  | beforeFailed k => (hs.take (k + 1)).map Step.before ++ closing hs
  | lookupFailed => hs.map Step.before ++ ([Step.lookup] ++ closing hs)
  | afterFailed k =>
    hs.map Step.before ++ ([Step.lookup] ++ ((hs.drop k).reverse.map Step.after ++ closing hs))
  | succeeded =>
    hs.map Step.before ++
      ([Step.lookup] ++ (hs.reverse.map Step.after ++ hs.reverse.map Step.finish))

/-- The callback whose call made the evaluation fail, if there is one. -/
def culprits (hs : List Nat) : Ending hs.length → List Step
  | refused => []
  | beforeFailed k => [.before hs[k]]
  | lookupFailed => [.lookup]
  | afterFailed k => [.after hs[k]]
  | succeeded => []

end Ending

/-- The calls that make an evaluation fail. -/
def failing (t : FlagType) (calls : List Call) : List Call :=
  calls.filter fun call => (call.failure? t).isSome

/-- The calls of an evaluation belong to an ending: they are calls of its callbacks in its
order, its culprit is the only one that fails, and it is a refusal exactly if the evaluation
was not to be attempted. -/
structure Ending.Fits (e : Evaluation σ) (calls : List Call)
    (ending : Ending e.positions.length) : Prop where
  steps : calls.map Call.step = ending.steps e.positions
  culprits : (failing e.flagType calls).map Call.step = ending.culprits e.positions
  refusal : ending = .refused ↔ e.refusal? ≠ none

/-! ### Calls that fail -/

section Failing

variable {t : FlagType} {calls more : List Call} {call : Call}

theorem failing_append : failing t (calls ++ more) = failing t calls ++ failing t more :=
  List.filter_append ..

theorem failing_eq_nil (h : ∀ call ∈ calls, call.failure? t = none) : failing t calls = [] := by
  rw [failing, List.filter_eq_nil_iff]
  intro call hcall
  rw [h call hcall]
  exact Bool.false_ne_true

theorem failing_cons_of_some {e : EvaluationError} (h : call.failure? t = some e) :
    failing t (call :: calls) = call :: failing t calls :=
  List.filter_cons_of_pos (by rw [h]; rfl)

/-- An answer without a flaw does not make the evaluation fail. -/
theorem failing_cons_lookup {flagKey : String} {defaultValue : FlagValue}
    {ctx : EvaluationContext} {r : Resolution FlagValue} (h : r.flaw? t = none) :
    failing t (.lookup flagKey defaultValue ctx (.returned r) :: calls) = failing t calls :=
  List.filter_cons_of_neg (by rw [Call.failure?, h]; exact Bool.false_ne_true)

theorem failing_of_not_decisive (h : ∀ call ∈ calls, call.step.isDecisive = false) :
    failing t calls = [] :=
  failing_eq_nil fun call hcall => Call.failure?_of_not_decisive (h call hcall)

theorem Closing.failing_eq_nil {hs : List Nat} (h : Closing hs calls) : failing t calls = [] :=
  failing_of_not_decisive h.not_decisive

end Failing

namespace Ran

variable {t : FlagType} {stage : Nat → Step} {positions : List Nat} {calls : List Call}

/-- A stage without a failure has called its hooks, and none of its calls fails. -/
theorem shape_of_none (h : Ran t stage positions calls none) :
    calls.map Call.step = positions.map stage ∧ failing t calls = [] := by
  obtain ⟨hsteps, hpass⟩ := h.of_none rfl
  exact ⟨hsteps, failing_eq_nil hpass⟩

/-- A stage with a failure has called its hooks up to one of them, and only the call of that
one fails. -/
theorem shape_of_some {err : EvaluationError} (h : Ran t stage positions calls (some err)) :
    ∃ k, ∃ hk : k < positions.length,
      calls.map Call.step = (positions.take (k + 1)).map stage ∧
      (failing t calls).map Call.step = [stage positions[k]] := by
  obtain ⟨k, hk, before, call, rfl, hsteps, hpass, hstep, hfail⟩ := h.of_some rfl
  refine ⟨k, hk, hsteps, ?_⟩
  rw [failing_append, failing_eq_nil hpass, List.nil_append, failing_cons_of_some hfail,
    List.map_cons, hstep]
  rfl

end Ran

/-- The first hooks of the reversed list, up to one of them, are the last hooks of the list
from that one on. -/
theorem take_reverse_eq {hs : List Nat} {k : Nat} (hk : k < hs.reverse.length) :
    ∃ i, ∃ hi : i < hs.length, hs.reverse.take (k + 1) = (hs.drop i).reverse ∧
      hs.reverse[k] = hs[i] := by
  rw [List.length_reverse] at hk
  refine ⟨hs.length - 1 - k, by omega, ?_, List.getElem_reverse _⟩
  rw [List.take_reverse, show hs.length - (k + 1) = hs.length - 1 - k by omega]

/-! ### The ending of a course -/

/-- Every course has an ending that it fits. -/
theorem Course.exists_ending {e : Evaluation σ} {calls : List Call}
    {details : EvaluationDetails FlagValue} (h : Course e e.positions calls details) :
    ∃ ending : Ending e.positions.length, ending.Fits e calls := by
  cases h with
  | refused hstart hclosing =>
    refine ⟨.refused, hclosing, ?_, ?_⟩
    · rw [hclosing.failing_eq_nil]
      rfl
    · rw [hstart]
      simp
  | @beforeFailed before closing err hstart hbefore hclosing =>
    obtain ⟨k, hk, hsteps, hfail⟩ := hbefore.shape_of_some
    refine ⟨.beforeFailed ⟨k, hk⟩, ?_, ?_, ?_⟩
    · rw [List.map_append, hsteps, hclosing]
      rfl
    · rw [failing_append, hclosing.failing_eq_nil, List.append_nil, hfail]
      rfl
    · rw [hstart]
      simp
  | lookupFailed hstart hbefore hlookup hclosing =>
    obtain ⟨hsteps, hpass⟩ := hbefore.shape_of_none
    refine ⟨.lookupFailed, ?_, ?_, ?_⟩
    · rw [List.map_append, hsteps, List.map_cons, hclosing]
      rfl
    · rw [failing_append, hpass, failing_cons_of_some hlookup, hclosing.failing_eq_nil]
      rfl
    · rw [hstart]
      simp
  | afterFailed hstart hbefore hlookup hafter hclosing =>
    obtain ⟨hsteps, hpass⟩ := hbefore.shape_of_none
    obtain ⟨k, hk, hafters, hfail⟩ := hafter.shape_of_some
    -- the after stage runs backwards: the first hooks it calls are the last ones of the list
    obtain ⟨i, hi, htake, hculprit⟩ := take_reverse_eq hk
    refine ⟨.afterFailed ⟨i, hi⟩, ?_, ?_, ?_⟩
    · rw [List.map_append, hsteps, List.map_cons, List.map_append, hafters, htake, hclosing]
      rfl
    · rw [failing_append, hpass, failing_cons_lookup hlookup, failing_append,
        hclosing.failing_eq_nil, List.append_nil, List.nil_append, hfail, hculprit]
      rfl
    · rw [hstart]
      simp
  | succeeded hstart hbefore hlookup hafter hfinish =>
    obtain ⟨hsteps, hpass⟩ := hbefore.shape_of_none
    obtain ⟨hafters, hpass'⟩ := hafter.shape_of_none
    refine ⟨.succeeded, ?_, ?_, ?_⟩
    · rw [List.map_append, hsteps, List.map_cons, List.map_append, hafters, hfinish]
      rfl
    · rw [failing_append, hpass, failing_cons_lookup hlookup, failing_append, hpass',
        failing_of_not_decisive (not_decisive_of_finish hfinish)]
      rfl
    · rw [hstart]
      simp

/-- No calls fit two endings: the culprit tells the stage, and how many hooks were called in
it tells the hook. -/
theorem Ending.Fits.unique {e : Evaluation σ} {calls : List Call}
    {a b : Ending e.positions.length} (ha : a.Fits e calls) (hb : b.Fits e calls) : a = b := by
  have hsteps : a.steps e.positions = b.steps e.positions := ha.steps.symm.trans hb.steps
  have hculprits : a.culprits e.positions = b.culprits e.positions :=
    ha.culprits.symm.trans hb.culprits
  have hrefused : a = .refused ↔ b = .refused := ha.refusal.trans hb.refusal.symm
  cases a with
  | refused => exact (hrefused.mp rfl).symm
  | beforeFailed k =>
    cases b with
    | beforeFailed j =>
      -- both have called the same number of hooks
      have hlength := congrArg List.length (List.append_cancel_right hsteps)
      rw [List.length_map, List.length_map, List.length_take, List.length_take] at hlength
      have hkj : k = j := by
        apply Fin.ext
        omega
      rw [hkj]
    | _ => exact absurd hculprits (by simp [Ending.culprits])
  | lookupFailed =>
    cases b with
    | lookupFailed => rfl
    | _ => exact absurd hculprits (by simp [Ending.culprits])
  | afterFailed k =>
    cases b with
    | afterFailed j =>
      -- both have left out the same number of hooks
      have hafters := List.append_cancel_left (List.append_cancel_left hsteps)
      have hlength := congrArg List.length (List.append_cancel_right hafters)
      rw [List.length_map, List.length_map, List.length_reverse, List.length_reverse,
        List.length_drop, List.length_drop] at hlength
      have hkj : k = j := by
        apply Fin.ext
        omega
      rw [hkj]
    | _ => exact absurd hculprits (by simp [Ending.culprits])
  | succeeded =>
    cases b with
    | succeeded => rfl
    | refused => exact hrefused.mpr rfl
    | _ => exact absurd hculprits (by simp [Ending.culprits])

end Evaluation

namespace Client

open Api (State)
open Evaluation (Ending Watched)
open FeatureFlags.Task (Follows)

/-- **Every evaluation through a client fits exactly one ending.**  It is refused for the status of
the instance that the domain resolves to, or for the kind of the default.  Its hooks are those of
the instance, of the client, of the call and of the provider, in this order; whatever the stages of
these hooks and the resolver do, and whatever others do meanwhile, it gives details.  It does the
same whether its calls are noted or not. -/
theorem evaluate_has_one_ending {W : Type} (host : Host W) (client : Client)
    (flagType : FlagType) (flagKey : String) (defaultValue : FlagValue)
    (ctx : EvaluationContext) (options : EvaluationOptions) (s : State W) :
    let e := client.evaluation host flagType flagKey defaultValue ctx options s
    client.Reads host flagType flagKey defaultValue ctx options s e ∧
      Follows Eq (client.evaluateWatched host flagType flagKey defaultValue ctx options)
        (client.evaluate host flagType flagKey defaultValue ctx options) ∧
      Watched.Ensures (client.evaluateWatched host flagType flagKey defaultValue ctx options)
        (fun result q => e.Settles
          (fun _ calls => ∃! ending : Ending e.positions.length, ending.Fits e calls)
          result q.2) (s, []) := by
  intro e
  refine ⟨client.reads_evaluation host flagType flagKey defaultValue ctx options s,
    client.evaluate_follows host flagType flagKey defaultValue ctx options, ?_⟩
  refine (client.evaluateWatched_course host flagType flagKey defaultValue ctx options s).mono ?_
  intro result q hq
  refine hq.mono fun details hcourse => ?_
  obtain ⟨ending, hfits⟩ := hcourse.exists_ending
  exact ⟨ending, hfits, fun other hother => hother.unique hfits⟩

end Client

end FeatureFlags
