import FeatureFlags.Proofs.Context.Merge
import FeatureFlags.Proofs.Evaluation.Stages

/-!
# What the calls of an evaluation are told

An evaluation keeps two accounts of the contexts that its before hooks give.  The one for
the hooks starts from the base and grows with every hook; the one for the resolver starts
from nothing, and is laid over the base when all of them have run.  Contexts may be laid
over each other in groups, so the two accounts come to the same.

That every call is told the base with what was given before it is an invariant of the calls
made so far, and each stage keeps it.

## Main definitions

* `Evaluation.givenBy` — the contexts that some calls gave.
* `Evaluation.contextAfter` — the base with the contexts that some calls gave.
* `Evaluation.Informed` — every call is told what the calls before it gave.
* `Evaluation.InStep` — the calls so far are informed, and the next one will be.

## Main results

* `Evaluation.run_informed` — **every call is told the base with what was given before it.**
-/

namespace FeatureFlags

namespace Evaluation

variable {σ : Type}

/-! ### What calls give and what they are told -/

/-- The context that a call gave; only hooks of the before stage give any. -/
def Call.given? : Call → Option EvaluationContext
  | before _ (.returned more) => more
  | _ => none

/-- The evaluation context that a call is told. -/
def Call.told : Call → EvaluationContext
  | before visit _ => visit.context.evaluationContext
  | lookup _ _ ctx _ => ctx
  | after visit _ _ => visit.context.evaluationContext
  | error visit _ _ => visit.context.evaluationContext
  | finish visit _ => visit.context.evaluationContext

/-- The contexts that calls gave, in order. -/
def givenBy (calls : List Call) : List EvaluationContext := calls.filterMap Call.given?

/-- The base with the contexts that calls gave laid over it one by one. -/
def contextAfter (base : EvaluationContext) (calls : List Call) : EvaluationContext :=
  (givenBy calls).foldl .merge base

/-- Every call is told the base with what the calls before it gave. -/
def Informed (base : EvaluationContext) (calls : List Call) : Prop :=
  ∀ earlier call later, calls = earlier ++ call :: later →
    call.told = contextAfter base earlier

variable {base : EvaluationContext} {calls : List Call} {call : Call} {ctx : HookContext}
  {t : FlagType}

theorem Call.given?_eq_none_of_step (h : ∀ position, call.step ≠ .before position) :
    call.given? = none := by
  cases call with
  | before visit outcome => exact absurd rfl (h visit.position)
  | lookup => rfl
  | after => rfl
  | error => rfl
  | finish => rfl

/-- A hook that fails gives nothing. -/
theorem Call.given?_eq_none_of_failure (h : call.failure? t ≠ none) : call.given? = none := by
  cases call with
  | before visit outcome =>
    cases outcome with
    | returned more => exact absurd rfl h
    | failed err => rfl
    | panicked p => rfl
  | lookup => rfl
  | after => rfl
  | error => rfl
  | finish => rfl

theorem givenBy_append (earlier later : List Call) :
    givenBy (earlier ++ later) = givenBy earlier ++ givenBy later :=
  List.filterMap_append

/-- Calls that give nothing add nothing to what was given before them. -/
theorem givenBy_append_of_none {later : List Call} (earlier : List Call)
    (h : ∀ call ∈ later, call.given? = none) : givenBy (earlier ++ later) = givenBy earlier := by
  have hnone : givenBy later = [] := List.filterMap_eq_nil_iff.mpr h
  rw [givenBy_append, hnone, List.append_nil]

theorem givenBy_concat_of_none (earlier : List Call) (h : call.given? = none) :
    givenBy (earlier ++ [call]) = givenBy earlier := by
  apply givenBy_append_of_none
  intro c hc
  rw [List.mem_singleton.mp hc]
  exact h

theorem givenBy_concat_of_some {more : EvaluationContext} (h : call.given? = some more) :
    givenBy (calls ++ [call]) = givenBy calls ++ [more] := by
  rw [givenBy_append]
  have hone : givenBy [call] = [more] := List.filterMap_cons_some h
  rw [hone]

theorem contextAfter_append_of_none {later : List Call} (base : EvaluationContext)
    (earlier : List Call) (h : ∀ call ∈ later, call.given? = none) :
    contextAfter base (earlier ++ later) = contextAfter base earlier := by
  rw [contextAfter, givenBy_append_of_none earlier h]
  rfl

theorem contextAfter_concat_of_some {more : EvaluationContext} (h : call.given? = some more) :
    contextAfter base (calls ++ [call]) = (contextAfter base calls).merge more := by
  rw [contextAfter, givenBy_concat_of_some h, List.foldl_append]
  rfl

/-- The two accounts come to the same. -/
theorem merge_mergeAll_givenBy (base : EvaluationContext) (calls : List Call) :
    base.merge (.mergeAll (givenBy calls)) = contextAfter base calls :=
  EvaluationContext.merge_mergeAll base (givenBy calls)

/-- Where a list with one more element is split: at that element, or before it. -/
theorem split_concat {α : Type} {xs earlier later : List α} {x y : α}
    (h : xs ++ [x] = earlier ++ y :: later) :
    (earlier = xs ∧ y = x ∧ later = []) ∨ ∃ between, xs = earlier ++ y :: between := by
  rcases List.eq_nil_or_concat later with rfl | ⟨between, last, rfl⟩
  · obtain ⟨hxs, hx⟩ := List.append_inj' h rfl
    exact .inl ⟨hxs.symm, (List.singleton_inj.mp hx).symm, rfl⟩
  · rw [List.concat_eq_append, ← List.cons_append, ← List.append_assoc] at h
    exact .inr ⟨between, (List.append_inj' h rfl).1⟩

theorem informed_nil (base : EvaluationContext) : Informed base [] := by
  intro earlier call later h
  exact absurd h (by simp)

theorem Informed.concat (h : Informed base calls) (hcall : call.told = contextAfter base calls) :
    Informed base (calls ++ [call]) := by
  intro earlier c later hsplit
  rcases split_concat hsplit with ⟨rfl, rfl, -⟩ | ⟨between, hcalls⟩
  · exact hcall
  · exact h earlier c between hcalls

/-! ### The stages keep the account -/

/-- The calls so far are informed, and the next hook will be. -/
structure InStep (base : EvaluationContext) (calls : List Call) (ctx : HookContext) : Prop where
  informed : Informed base calls
  current : ctx.evaluationContext = contextAfter base calls

/-- A call that is told the current context and gives nothing. -/
theorem InStep.next (h : InStep base calls ctx) (htold : call.told = ctx.evaluationContext)
    (hgiven : call.given? = none) : InStep base (calls ++ [call]) ctx where
  informed := h.informed.concat (htold.trans h.current)
  current := by
    rw [contextAfter, givenBy_concat_of_none calls hgiven]
    exact h.current

/-- A call that is told the current context and gives more. -/
theorem InStep.extend {more : EvaluationContext} (h : InStep base calls ctx)
    (htold : call.told = ctx.evaluationContext) (hgiven : call.given? = some more) :
    InStep base (calls ++ [call]) (ctx.extend more) where
  informed := h.informed.concat (htold.trans h.current)
  current := by
    rw [contextAfter_concat_of_some hgiven, ← h.current]
    rfl

/-- The before stage keeps both accounts: the context for the hooks, and what has been given
apart from the base. -/
theorem runBefore_informed (base : EvaluationContext) (journal : Journal σ) (hints : HookHints)
    {chain : HookChain (Watched σ)} {positions : List Nat} (hchain : Watches chain positions)
    (index : Nat) (ctx : HookContext) (given : EvaluationContext) (p : Watched σ)
    (hp : InStep base p.2 ctx) (hgiven : given = .mergeAll (givenBy p.2)) :
    Watched.Ensures (chain.runBefore journal.watched hints index ctx given)
      (fun run q => Watches run.chain positions ∧ InStep base q.2 run.context ∧
        ∀ all, run.given = .ok all → all = .mergeAll (givenBy q.2)) p := by
  induction hchain generalizing index ctx given p with
  | nil =>
    refine ⟨List.Forall₂.nil, hp, ?_⟩
    intro all hall
    rw [← Except.ok.inj hall, hgiven]
  | @cons entry position rest positions hentry hrest ih =>
    obtain ⟨_, data⟩ := entry
    obtain ⟨hook, rfl⟩ := hentry
    rw [HookChain.runBefore, Task.bind_def, Watched.ensures_bind]
    refine makes_before hook position ctx hints data _ p ?_
    rintro call ⟨left, outcome⟩ s hcall
    have htold : call.told = ctx.evaluationContext := by rw [hcall]; rfl
    dsimp only
    cases outcome with
    | failed err =>
      have hnone : call.given? = none := by rw [hcall]; rfl
      refine ⟨List.Forall₂.cons ⟨hook, rfl⟩ hrest, hp.next htold hnone, ?_⟩
      intro all hall
      exact absurd hall (by simp)
    | panicked panic =>
      have hnone : call.given? = none := by rw [hcall]; rfl
      refine ⟨List.Forall₂.cons ⟨hook, rfl⟩ hrest, hp.next htold hnone, ?_⟩
      intro all hall
      exact absurd hall (by simp)
    | returned more =>
      have hmore : call.given? = more := by rw [hcall]; rfl
      cases more with
      | none =>
        have hgiven' : given = .mergeAll (givenBy (p.2 ++ [call])) := by
          rw [givenBy_concat_of_none p.2 hmore]
          exact hgiven
        refine (Watched.ensures_bind _ _ _ _).mpr ?_
        refine (ih (index + 1) ctx given _ (hp.next htold hmore) hgiven').mono ?_
        rintro run q ⟨hwatches, hq, hall⟩
        exact ⟨List.Forall₂.cons ⟨hook, rfl⟩ hwatches, hq, hall⟩
      | some more =>
        have hgiven' : given.merge more = .mergeAll (givenBy (p.2 ++ [call])) := by
          rw [hgiven, givenBy_concat_of_some hmore, EvaluationContext.mergeAll_append_singleton]
        refine (Watched.ensures_bind _ _ _ _).mpr ?_
        refine (Watched.ensures_log _ _ _ _).mpr ?_
        refine (Watched.ensures_bind _ _ _ _).mpr ?_
        refine (ih (index + 1) (ctx.extend more) (given.merge more) _ (hp.extend htold hmore)
          hgiven').mono ?_
        rintro run q ⟨hwatches, hq, hall⟩
        exact ⟨List.Forall₂.cons ⟨hook, rfl⟩ hwatches, hq, hall⟩

/-- The after stage is told what the before stage left. -/
theorem runAfter_informed (hints : HookHints) (details : EvaluationDetails FlagValue)
    {chain : HookChain (Watched σ)} {positions : List Nat} (hchain : Watches chain positions)
    (p : Watched σ) (hp : InStep base p.2 ctx) :
    Watched.Ensures (chain.runAfter hints ctx details)
      (fun after q => Watches after.1 positions ∧ InStep base q.2 ctx) p := by
  induction hchain generalizing p with
  | nil => exact ⟨List.Forall₂.nil, hp⟩
  | @cons entry position rest positions hentry _ ih =>
    obtain ⟨_, data⟩ := entry
    obtain ⟨hook, rfl⟩ := hentry
    rw [HookChain.runAfter, Task.bind_def, Watched.ensures_bind]
    refine (ih p hp).mono ?_
    rintro ⟨after, result⟩ q ⟨hwatches, hq⟩
    cases result with
    | error err => exact ⟨List.Forall₂.cons ⟨hook, rfl⟩ hwatches, hq⟩
    | ok =>
      dsimp only
      rw [Task.bind_def, Watched.ensures_bind]
      refine makes_after hook position ctx details hints data _ q ?_
      rintro call ⟨left, outcome⟩ s rfl
      exact ⟨List.Forall₂.cons ⟨hook, rfl⟩ hwatches, hq.next rfl rfl⟩

/-- A stage in which every hook runs tells each of them the same. -/
theorem runAll_informed (journal : Journal σ) (stage : String)
    (call : Hook (Watched σ) → HookData → Task (Watched σ) (HookData × Outcome Unit))
    (hcall : ∀ (hook : Hook σ) position data, Makes (call (hook.watched position) data)
      fun c _ => c.told = ctx.evaluationContext ∧ c.given? = none)
    {chain : HookChain (Watched σ)} {positions : List Nat} (hchain : Watches chain positions)
    (index : Nat) (p : Watched σ) (hp : InStep base p.2 ctx) :
    Watched.Ensures (chain.runAll journal.watched stage ctx call index)
      (fun after q => Watches after positions ∧ InStep base q.2 ctx) p := by
  induction hchain generalizing index p with
  | nil => exact ⟨List.Forall₂.nil, hp⟩
  | @cons entry position rest positions hentry _ ih =>
    obtain ⟨_, data⟩ := entry
    obtain ⟨hook, rfl⟩ := hentry
    rw [HookChain.runAll, Task.bind_def, Watched.ensures_bind]
    refine (ih (index + 1) p hp).mono ?_
    rintro after q ⟨hwatches, hq⟩
    rw [Task.bind_def, Watched.ensures_bind]
    refine hcall hook position data _ q ?_
    rintro c ⟨left, outcome⟩ s ⟨htold, hgiven⟩
    have hend : Watches (⟨hook.watched position, left⟩ :: after) (position :: positions) ∧
        InStep base (q.2 ++ [c]) ctx :=
      ⟨List.Forall₂.cons ⟨hook, rfl⟩ hwatches, hq.next htold hgiven⟩
    dsimp only
    rw [Task.bind_def, Watched.ensures_bind]
    cases HookChain.passedOver? stage index ctx outcome with
    | none => exact hend
    | some entry => exact hend

theorem runError_informed (journal : Journal σ) (hints : HookHints) (err : EvaluationError)
    {chain : HookChain (Watched σ)} {positions : List Nat} (hchain : Watches chain positions)
    (p : Watched σ) (hp : InStep base p.2 ctx) :
    Watched.Ensures (chain.runError journal.watched hints ctx err)
      (fun after q => Watches after positions ∧ InStep base q.2 ctx) p := by
  refine runAll_informed journal "error" _ ?_ hchain 0 p hp
  intro hook position data Q q hQ
  refine makes_error hook position ctx err hints data Q q ?_
  rintro call a s rfl
  exact hQ _ a s ⟨rfl, rfl⟩

theorem runFinish_informed (journal : Journal σ) (hints : HookHints)
    {chain : HookChain (Watched σ)} {positions : List Nat} (hchain : Watches chain positions)
    (p : Watched σ) (hp : InStep base p.2 ctx) :
    Watched.Ensures (chain.runFinish journal.watched hints ctx)
      (fun after q => Watches after positions ∧ InStep base q.2 ctx) p := by
  refine runAll_informed journal "finally_after" _ ?_ hchain 0 p hp
  intro hook position data Q q hQ
  refine makes_finish hook position ctx hints data Q q ?_
  rintro call a s rfl
  exact hQ _ a s ⟨rfl, rfl⟩

/-! ### The whole evaluation keeps it -/

/-- The steps that may fail keep the account; the resolver is told what the hooks are. -/
theorem attempt_informed (journal : Journal σ) (e : Evaluation σ)
    {chain : HookChain (Watched σ)} {positions : List Nat} (hchain : Watches chain positions)
    (s : σ) :
    Watched.Ensures (e.watched.attempt journal.watched chain)
      (fun tried q => Watches tried.chain positions ∧ InStep e.context q.2 tried.context)
      (s, []) := by
  have hstart : InStep e.context [] e.watched.hookContext := ⟨informed_nil _, rfl⟩
  rw [attempt]
  by_cases hkind : e.watched.defaultValue.type ≠ e.watched.flagType
  · rw [if_pos hkind]
    exact ⟨hchain, hstart⟩
  rw [if_neg hkind, Task.bind_def, Watched.ensures_bind]
  refine (runBefore_informed e.context journal _ hchain 0 _ _ (s, []) hstart rfl).mono ?_
  rintro ⟨after, ctx, given⟩ q ⟨hwatches, hq, hall⟩
  cases given with
  | error err => exact ⟨hwatches, hq⟩
  | ok given =>
    dsimp only at hq hall ⊢
    rw [Task.bind_def, Watched.ensures_bind]
    refine makes_lookup e.provider _ _ _ _ q ?_
    rintro call outcome s' hcall
    -- the resolver's account, laid over the base only now
    have hlookup : InStep e.context (q.2 ++ [call]) ctx := by
      refine hq.next ?_ ?_
      · rw [hcall, hq.current, ← merge_mergeAll_givenBy, ← hall given rfl]
        rfl
      · rw [hcall]
        rfl
    cases outcome.toExcept.bind e.watched.accept with
    | error err => exact ⟨hwatches, hlookup⟩
    | ok details =>
      dsimp only
      rw [Task.bind_def, Watched.ensures_bind]
      exact (runAfter_informed _ details hwatches _ hlookup).mono fun _ _ h => h

theorem runWith_informed (journal : Journal σ) (e : Evaluation σ)
    {chain : HookChain (Watched σ)} {positions : List Nat} (hchain : Watches chain positions)
    (s : σ) :
    Watched.Ensures (e.watched.runWith journal.watched chain)
      (fun _ q => Informed e.context q.2) (s, []) := by
  have hstart : InStep e.context [] e.watched.hookContext := ⟨informed_nil _, rfl⟩
  rw [runWith, Task.bind_def, Watched.ensures_bind, Watched.ensures_log]
  cases e.watched.status.shortCircuitCode? with
  | some code =>
    dsimp only
    rw [Task.bind_def, Watched.ensures_bind]
    refine (runError_informed journal _ _ hchain _ hstart).mono ?_
    rintro after q ⟨hafter, hq⟩
    rw [Task.bind_def, Watched.ensures_bind]
    exact (runFinish_informed journal _ hafter q hq).mono fun _ _ h => h.2.informed
  | none =>
    dsimp only
    rw [Task.bind_def, Watched.ensures_bind]
    refine (attempt_informed journal e hchain _).mono ?_
    rintro ⟨after, ctx, result⟩ q ⟨hwatches, hq⟩
    cases result with
    | ok details =>
      dsimp only
      rw [Task.bind_def, Watched.ensures_bind]
      exact (runFinish_informed journal _ hwatches q hq).mono fun _ _ h => h.2.informed
    | error err =>
      dsimp only
      rw [Task.bind_def, Watched.ensures_bind, Watched.ensures_log, Task.bind_def,
        Watched.ensures_bind]
      refine (runError_informed journal _ err hwatches
        (journal (e.watched.failureEntry err) q.1, q.2) hq).mono ?_
      rintro final q' ⟨hfinal, hq'⟩
      rw [Task.bind_def, Watched.ensures_bind]
      exact (runFinish_informed journal _ hfinal q' hq').mono fun _ _ h => h.2.informed

/-- **Every call of an evaluation is told the base with what was given before it.** -/
theorem run_informed (journal : Journal σ) (e : Evaluation σ) (s : σ) :
    Watched.Ensures (e.watched.run journal.watched) (fun _ q => Informed e.context q.2)
      (s, []) := by
  have hselect := select_watched e.flagType e.hooks 0
  rw [run]
  cases hchain : HookChain.select e.flagType e.hooks with
  | error panic =>
    rw [hchain] at hselect
    have hwatched : HookChain.select e.watched.flagType e.watched.hooks = .error panic := hselect
    rw [hwatched]
    exact informed_nil _
  | ok chain =>
    rw [hchain] at hselect
    obtain ⟨watched, heq, hwatches⟩ := hselect
    have hwatched : HookChain.select e.watched.flagType e.watched.hooks = .ok watched := heq
    rw [hwatched]
    exact (Task.ensures_map _ _ _ _).mpr (runWith_informed journal e hwatches s)

end Evaluation

end FeatureFlags
