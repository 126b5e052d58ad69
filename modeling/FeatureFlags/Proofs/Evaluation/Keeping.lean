import FeatureFlags.Evaluation
import FeatureFlags.Proofs.Task.Values

/-!
# Evaluations that keep to a kind of change

Hooks, the resolver and the reports are all that an evaluation does to the state.  If each of them
keeps to changes of one kind, then so does the evaluation, stage by stage.

## Main definitions

* `Hook.Keeps step` — a hook whose stages change the state along `step` alone.
* `Evaluation.Keeping step` — a chain of such hooks.

## Main results

* `Evaluation.run_guarantees` — **an evaluation guarantees what its callbacks guarantee.**
-/

namespace FeatureFlags

open FeatureFlags.Task (Abides Guarantees abides_done guarantees_done guarantees_modify)

variable {τ : Type}

/-- A hook whose stages change the state along `step` alone. -/
structure Hook.Keeps (step : τ → τ → Prop) (hook : Hook τ) : Prop where
  before : ∀ ctx hints data, (hook.before ctx hints data).Guarantees step
  after : ∀ ctx details hints data, (hook.after ctx details hints data).Guarantees step
  error : ∀ ctx e hints data, (hook.error ctx e hints data).Guarantees step
  finish : ∀ ctx hints data, (hook.finish ctx hints data).Guarantees step

namespace Evaluation

/-- Every hook of a chain keeps to a kind of change. -/
def Keeping (step : τ → τ → Prop) (chain : HookChain τ) : Prop :=
  ∀ entry ∈ chain, entry.hook.Keeps step

variable {step : τ → τ → Prop} {journal : Journal τ}

theorem keeping_nil (step : τ → τ → Prop) : Keeping step [] :=
  fun _ h => absurd h List.not_mem_nil

theorem Keeping.cons {hook : Hook τ} {chain : HookChain τ} (h : hook.Keeps step) (data : HookData)
    (hchain : Keeping step chain) : Keeping step (⟨hook, data⟩ :: chain) :=
  List.forall_mem_cons.mpr ⟨h, hchain⟩

/-- The hooks that take part are some of those there are. -/
theorem forall_of_select {P : Hook τ → Prop} {t : FlagType} {hooks : List (Hook τ)}
    {chain : HookChain τ} (hhooks : ∀ hook ∈ hooks, P hook)
    (h : HookChain.select t hooks = .ok chain) : ∀ entry ∈ chain, P entry.hook := by
  induction hooks generalizing chain with
  | nil =>
    rw [← Except.ok.inj h]
    exact List.forall_mem_nil _
  | cons hook rest ih =>
    obtain ⟨hhook, hrest⟩ := List.forall_mem_cons.mp hhooks
    rw [HookChain.select] at h
    cases hsupports : hook.supports t with
    | error p =>
      rw [hsupports] at h
      exact absurd h (by simp)
    | ok supported =>
      rw [hsupports] at h
      cases hselect : HookChain.select t rest with
      | error p =>
        rw [hselect] at h
        exact absurd h (by simp)
      | ok chain' =>
        rw [hselect] at h
        rw [← Except.ok.inj h]
        cases supported with
        | false => exact ih hrest hselect
        | true => exact List.forall_mem_cons.mpr ⟨hhook, ih hrest hselect⟩

/-! ### The stages -/

variable (hjournal : ∀ entry s, step s (journal entry s)) (hints : HookHints)

include hjournal in
theorem runBefore_abides {chain : HookChain τ} (hchain : Keeping step chain) (index : Nat)
    (ctx : HookContext) (given : EvaluationContext) :
    (chain.runBefore journal hints index ctx given).Abides step fun run =>
      Keeping step run.chain := by
  induction chain generalizing index ctx given with
  | nil => exact abides_done (keeping_nil step)
  | cons entry rest ih =>
    obtain ⟨hook, data⟩ := entry
    obtain ⟨hhook, hrest⟩ := List.forall_mem_cons.mp hchain
    rw [HookChain.runBefore]
    refine (hhook.before ctx hints data).bind_abides ?_
    rintro ⟨left, outcome⟩
    have hnext : ∀ (next : HookContext) (given : EvaluationContext),
        ((HookChain.runBefore journal hints (index + 1) next given rest).bind fun after =>
          .done { after with chain := ⟨hook, left⟩ :: after.chain }).Abides step fun run =>
            Keeping step run.chain := by
      intro next given
      exact (ih hrest (index + 1) next given).bind fun run hrun =>
        abides_done (hrun.cons hhook left)
    dsimp only
    cases outcome.toExcept with
    | error err => exact abides_done (Keeping.cons hhook left hrest)
    | ok more =>
      cases more with
      | none => exact hnext ctx given
      | some more =>
        exact (guarantees_modify (hjournal _)).bind_abides fun _ => hnext _ _

theorem runAfter_abides {chain : HookChain τ} (hchain : Keeping step chain) (ctx : HookContext)
    (details : EvaluationDetails FlagValue) :
    (chain.runAfter hints ctx details).Abides step fun ended => Keeping step ended.1 := by
  induction chain with
  | nil => exact abides_done (keeping_nil step)
  | cons entry rest ih =>
    obtain ⟨hook, data⟩ := entry
    obtain ⟨hhook, hrest⟩ := List.forall_mem_cons.mp hchain
    rw [HookChain.runAfter]
    refine (ih hrest).bind ?_
    rintro ⟨after, result⟩ hafter
    cases result with
    | error err => exact abides_done (Keeping.cons hhook data hafter)
    | ok =>
      refine (hhook.after ctx details hints data).bind_abides ?_
      rintro ⟨left, outcome⟩
      exact abides_done (Keeping.cons hhook left hafter)

include hjournal in
theorem runAll_abides (stage : String) (ctx : HookContext)
    (call : Hook τ → HookData → Task τ (HookData × Outcome Unit))
    (hcall : ∀ hook data, hook.Keeps step → (call hook data).Guarantees step)
    {chain : HookChain τ} (hchain : Keeping step chain) (index : Nat) :
    (chain.runAll journal stage ctx call index).Abides step (Keeping step) := by
  induction chain generalizing index with
  | nil => exact abides_done (keeping_nil step)
  | cons entry rest ih =>
    obtain ⟨hook, data⟩ := entry
    obtain ⟨hhook, hrest⟩ := List.forall_mem_cons.mp hchain
    rw [HookChain.runAll]
    refine (ih hrest (index + 1)).bind ?_
    intro after hafter
    refine (hcall hook data hhook).bind_abides ?_
    rintro ⟨left, outcome⟩
    have hend := Keeping.cons hhook left hafter
    dsimp only
    cases HookChain.passedOver? stage index ctx outcome with
    | none => exact abides_done hend
    | some entry => exact (guarantees_modify (hjournal entry)).bind_abides fun _ => abides_done hend

include hjournal in
theorem runError_abides (ctx : HookContext) (err : EvaluationError) {chain : HookChain τ}
    (hchain : Keeping step chain) :
    (chain.runError journal hints ctx err).Abides step (Keeping step) :=
  runAll_abides hjournal "error" ctx _ (fun _ data h => h.error ctx err hints data) hchain 0

include hjournal in
theorem runFinish_abides (ctx : HookContext) {chain : HookChain τ} (hchain : Keeping step chain) :
    (chain.runFinish journal hints ctx).Abides step (Keeping step) :=
  runAll_abides hjournal "finally_after" ctx _ (fun _ data h => h.finish ctx hints data) hchain 0

/-! ### The whole evaluation -/

section Whole

variable {e : Evaluation τ}
  (hresolve : ∀ t flagKey defaultValue ctx,
    (e.provider.resolve t flagKey defaultValue ctx).Guarantees step)

include hjournal hresolve in
theorem attempt_abides {chain : HookChain τ} (hchain : Keeping step chain) :
    (e.attempt journal chain).Abides step fun tried => Keeping step tried.chain := by
  rw [attempt]
  by_cases hkind : e.defaultValue.type ≠ e.flagType
  · rw [if_pos hkind]
    exact abides_done hchain
  rw [if_neg hkind]
  refine (runBefore_abides hjournal _ hchain 0 _ _).bind ?_
  rintro ⟨after, ctx, given⟩ hafter
  cases given with
  | error err => exact abides_done hafter
  | ok given =>
    have hlookup : (e.provider.resolveValue e.flagKey e.defaultValue
        (e.context.merge given)).Guarantees step :=
      (hresolve _ _ _ _).bind fun _ => guarantees_done _
    refine hlookup.bind_abides fun outcome => ?_
    dsimp only
    cases outcome.toExcept.bind e.accept with
    | error err => exact abides_done hafter
    | ok details =>
      refine (runAfter_abides _ hafter ctx details).bind ?_
      rintro ⟨final, result⟩ hfinal
      exact abides_done hfinal

include hjournal hresolve in
theorem runWith_guarantees {chain : HookChain τ} (hchain : Keeping step chain) :
    (e.runWith journal chain).Guarantees step := by
  suffices h : (e.runWith journal chain).Abides step fun _ => True from h.guarantees
  rw [runWith]
  refine (guarantees_modify (hjournal _)).bind_abides fun _ => ?_
  -- the two stages that close an evaluation that failed
  have hclosing : ∀ {chain : HookChain τ} (ctx : HookContext) (err : EvaluationError),
      Keeping step chain → Abides step (fun _ => True) (do
        let chain ← chain.runError journal e.hints ctx err
        let _ ← chain.runFinish journal e.hints ctx
        return e.failed err) := by
    intro chain ctx err hchain
    refine (runError_abides hjournal e.hints ctx err hchain).bind fun after hafter => ?_
    exact (runFinish_abides hjournal e.hints ctx hafter).bind fun _ _ => abides_done trivial
  cases e.status.shortCircuitCode? with
  | some code => exact hclosing _ _ hchain
  | none =>
    refine (attempt_abides hjournal hresolve hchain).bind ?_
    rintro ⟨after, ctx, result⟩ hafter
    cases result with
    | ok details =>
      exact (runFinish_abides hjournal e.hints ctx hafter).bind fun _ _ => abides_done trivial
    | error err =>
      exact (guarantees_modify (hjournal _)).bind_abides fun _ => hclosing ctx err hafter

include hjournal hresolve in
/-- **An evaluation guarantees what its callbacks guarantee.** -/
theorem run_guarantees (hhooks : ∀ hook ∈ e.hooks, hook.Keeps step) :
    (e.run journal).Guarantees step := by
  rw [run]
  cases hselect : HookChain.select e.flagType e.hooks with
  | error panic => exact guarantees_done _
  | ok chain =>
    have hchain : Keeping step chain := forall_of_select hhooks hselect
    exact (runWith_guarantees hjournal hresolve hchain).bind fun _ => guarantees_done _

end Whole

end Evaluation

end FeatureFlags
