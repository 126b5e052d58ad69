import FeatureFlags.Proofs.Evaluation.Heard

/-!
# Contexts are not disclosed

The library reports much of what it does for an evaluation, but no context, unless a logging hook
was asked to.  Two evaluations that differ in their contexts alone report the same, if their calls
end in the same way.

Both evaluations are heard, and their stages are taken side by side and shown to be level: where one
of them may part from the other, a call has ended in another way.

## Main definitions

* `HookContext.Agrees` — contexts of stages that differ in their evaluation contexts alone.
* `Hook.Reserved` — a hook that says the same whatever contexts and scratch spaces it is told.
* `Evaluation.Similar` — two chains of the same reserved hooks.

## Main results

* `Evaluation.run_level` — evaluations of reserved hooks that differ in their contexts are level.
* `Evaluation.contexts_not_disclosed` — **evaluations that differ in their contexts alone report the
  same.**
-/

namespace FeatureFlags

open Evaluation (Act Heard)
open FeatureFlags.Task (Explained Level Turns acts beside lasting_explained level_done level_noting
  level_report reports turns_within)

variable {σ : Type}

/-! ### Reserved hooks -/

/-- Contexts of stages that differ in their evaluation contexts alone. -/
def HookContext.Agrees (ctx ctx' : HookContext) : Prop :=
  ∃ context, ctx' = { ctx with evaluationContext := context }

theorem HookContext.Agrees.extend {ctx ctx' : HookContext} (h : ctx.Agrees ctx')
    (more more' : EvaluationContext) : (ctx.extend more).Agrees (ctx'.extend more') := by
  obtain ⟨context, rfl⟩ := h
  exact ⟨context.merge more', rfl⟩

/-- A hook that says the same whatever evaluation contexts and scratch spaces it is told, as long as
it does the same. -/
structure Hook.Reserved (hook : Hook (Heard σ)) : Prop where
  before : ∀ {ctx ctx'} hints data data', ctx.Agrees ctx' →
    Level (fun a b => a.2.map Option.isSome = b.2.map Option.isSome)
      (hook.before ctx hints data) (hook.before ctx' hints data')
  after : ∀ {ctx ctx'} details hints data data', ctx.Agrees ctx' →
    Level (fun a b => a.2 = b.2) (hook.after ctx details hints data)
      (hook.after ctx' details hints data')
  error : ∀ {ctx ctx'} e hints data data', ctx.Agrees ctx' →
    Level (fun a b => a.2 = b.2) (hook.error ctx e hints data) (hook.error ctx' e hints data')
  finish : ∀ {ctx ctx'} hints data data', ctx.Agrees ctx' →
    Level (fun a b => a.2 = b.2) (hook.finish ctx hints data) (hook.finish ctx' hints data')

/-- Two callbacks of the application that are noted when they have ended. -/
theorem level_callback {α β : Type} {rel : α → β → Prop} (t : Task σ α) (u : Task σ β)
    {describe : α → Act} {describe' : β → Act} (hdescribe : ∀ a, ¬ (describe a).Inner)
    (hdescribe' : ∀ b, ¬ (describe' b).Inner) (h : ∀ a b, describe a = describe' b → rel a b) :
    Level rel ((t.within (.first σ (List (Act ⊕ LogEntry)))).noting fun a => .inl (describe a))
      ((u.within (.first _ _)).noting fun b => .inl (describe' b)) :=
  have hP := lasting_explained (fun _ : Act => (none : Option LogEntry)) Act.Inner
  level_noting (turns_within hP t) (turns_within hP u) hdescribe hdescribe' h

theorem Hook.reserved_noting (hook : Hook σ) (position : Nat) :
    (hook.noting position).Reserved where
  before _ _ _ _ := level_callback _ _ (fun _ => id) (fun _ => id) fun _ _ h => (Act.before.inj h).2
  after _ _ _ _ _ := level_callback _ _ (fun _ => id) (fun _ => id) fun _ _ h => (Act.after.inj h).2
  error _ _ _ _ _ := level_callback _ _ (fun _ => id) (fun _ => id) fun _ _ h => (Act.error.inj h).2
  finish _ _ _ _ := level_callback _ _ (fun _ => id) (fun _ => id) fun _ _ h => (Act.finish.inj h).2

/-- The same is reported on both sides. -/
theorem level_log (journal : Journal σ) {entry entry' : LogEntry} (h : entry = entry') :
    Level Eq (Task.log journal.heard entry) (Task.log journal.heard entry') := by
  subst h
  exact level_report entry

namespace LoggingHook

variable {hook : LoggingHook} {ctx ctx' : HookContext}

/-- The field for the evaluation context is the same for all contexts if it was not asked for. -/
theorem contextField_eq (h : hook.includeContext = false) (ctx ctx' : HookContext) :
    hook.contextField ctx = hook.contextField ctx' := by
  rw [contextField, contextField, h]
  rfl

/-- A logging hook that was not asked to report contexts is reserved. -/
theorem reserved (h : hook.includeContext = false) (journal : Journal σ) :
    (hook.toHook journal.heard).Reserved where
  before {ctx ctx'} _ _ _ hctx := by
    have hentry : hook.beforeEntry ctx = hook.beforeEntry ctx' := by
      obtain ⟨context, rfl⟩ := hctx
      rw [beforeEntry, beforeEntry, contextField_eq h ctx]
      rfl
    exact (level_log journal hentry).bind fun _ _ _ => level_done rfl
  after {ctx ctx'} details _ _ _ hctx := by
    have hentry : hook.afterEntry ctx details = hook.afterEntry ctx' details := by
      obtain ⟨context, rfl⟩ := hctx
      rw [afterEntry, afterEntry, contextField_eq h ctx]
      rfl
    exact (level_log journal hentry).bind fun _ _ _ => level_done rfl
  error {ctx ctx'} e _ _ _ hctx := by
    have hentry : hook.errorEntry ctx e = hook.errorEntry ctx' e := by
      obtain ⟨context, rfl⟩ := hctx
      rw [errorEntry, errorEntry, contextField_eq h ctx]
      rfl
    exact (level_log journal hentry).bind fun _ _ _ => level_done rfl
  finish _ _ _ _ := level_done rfl

end LoggingHook

/-- Hooks that are heard are reserved if no logging hook was asked to report contexts. -/
theorem Member.heard_reserved (journal : Journal σ) {members : List (Member σ)}
    (hmembers : ∀ hook, Member.logging hook ∈ members → hook.includeContext = false) :
    ∀ hook ∈ members.zipIdx.map fun (member, position) => member.heard journal position,
      hook.Reserved := by
  intro hook hhook
  obtain ⟨⟨member, position⟩, hmem, rfl⟩ := List.mem_map.mp hhook
  have hmember : member ∈ members := List.fst_mem_of_mem_zipIdx hmem
  cases member with
  | own hook => exact hook.reserved_noting position
  | logging hook => exact LoggingHook.reserved (hmembers hook hmember) journal

namespace Evaluation

/-! ### The stages -/

/-- Two chains of the same reserved hooks, whatever their scratch spaces. -/
def Similar (left right : HookChain (Heard σ)) : Prop :=
  List.Forall₂ (fun a b => a.hook = b.hook ∧ a.hook.Reserved) left right

theorem Similar.cons {hook : Hook (Heard σ)} {left right : HookChain (Heard σ)}
    (h : hook.Reserved) (data data' : HookData) (hchain : Similar left right) :
    Similar (⟨hook, data⟩ :: left) (⟨hook, data'⟩ :: right) :=
  List.Forall₂.cons ⟨rfl, h⟩ hchain

section Stages

variable (journal : Journal σ) (hints : HookHints) {left right : HookChain (Heard σ)}
  {ctx ctx' : HookContext}

theorem runBefore_level (hchain : Similar left right) (index : Nat) (hctx : ctx.Agrees ctx')
    (given given' : EvaluationContext) :
    Level (fun a b => Similar a.chain b.chain ∧ a.context.Agrees b.context ∧
        a.given.map (fun _ => ()) = b.given.map (fun _ => ()))
      (left.runBefore journal.heard hints index ctx given)
      (right.runBefore journal.heard hints index ctx' given') := by
  induction hchain generalizing index ctx ctx' given given' with
  | nil => exact level_done ⟨.nil, hctx, rfl⟩
  | @cons a b left right hab hchain ih =>
    obtain ⟨hook, data⟩ := a
    obtain ⟨_, data'⟩ := b
    obtain ⟨rfl, hhook⟩ := hab
    rw [HookChain.runBefore, HookChain.runBefore]
    refine (hhook.before hints data data' hctx).bind ?_
    rintro ⟨kept, outcome⟩ ⟨kept', outcome'⟩ hended
    -- the rest of the stage is level for whatever contexts were given
    have hnext : ∀ {next next' : HookContext} (given given' : EvaluationContext),
        next.Agrees next' →
          Level (fun a b => Similar a.chain b.chain ∧ a.context.Agrees b.context ∧
              a.given.map (fun _ => ()) = b.given.map (fun _ => ()))
            ((HookChain.runBefore journal.heard hints (index + 1) next given left).bind
              fun after => .done { after with chain := ⟨hook, kept⟩ :: after.chain })
            ((HookChain.runBefore journal.heard hints (index + 1) next' given' right).bind
              fun after => .done { after with chain := ⟨hook, kept'⟩ :: after.chain }) := by
      intro next next' given given' hagree
      refine (ih (index + 1) hagree given given').bind ?_
      rintro run run' ⟨hrun, hagree', hgiven⟩
      exact level_done ⟨hrun.cons hhook kept kept', hagree', hgiven⟩
    have hgave : outcome.toExcept.map Option.isSome = outcome'.toExcept.map Option.isSome := by
      rw [← Outcome.toExcept_map, ← Outcome.toExcept_map]
      exact congrArg Outcome.toExcept hended
    dsimp only
    generalize outcome.toExcept = gave at hgave ⊢
    generalize outcome'.toExcept = gave' at hgave ⊢
    cases gave with
    | error e =>
      cases gave' with
      | error e' =>
        obtain rfl := Except.error.inj hgave
        exact level_done ⟨Similar.cons hhook kept kept' hchain, hctx, rfl⟩
      | ok more' => cases hgave
    | ok more =>
      cases gave' with
      | error e' => cases hgave
      | ok more' =>
        have hsome : more.isSome = more'.isSome := Except.ok.inj hgave
        cases more with
        | none =>
          cases more' with
          | none => exact hnext given given' hctx
          | some more' => cases hsome
        | some more =>
          cases more' with
          | none => cases hsome
          | some more' =>
            have hentry : HookChain.gaveContextEntry index ctx =
                HookChain.gaveContextEntry index ctx' := by
              obtain ⟨context, rfl⟩ := hctx
              rfl
            exact (level_log journal hentry).bind fun _ _ _ =>
              hnext (given.merge more) (given'.merge more') (hctx.extend more more')

theorem runAfter_level (hchain : Similar left right) (hctx : ctx.Agrees ctx')
    (details : EvaluationDetails FlagValue) :
    Level (fun a b => Similar a.1 b.1 ∧ a.2 = b.2) (left.runAfter hints ctx details)
      (right.runAfter hints ctx' details) := by
  induction hchain with
  | nil => exact level_done ⟨.nil, rfl⟩
  | @cons a b left right hab hchain ih =>
    obtain ⟨hook, data⟩ := a
    obtain ⟨_, data'⟩ := b
    obtain ⟨rfl, hhook⟩ := hab
    rw [HookChain.runAfter, HookChain.runAfter]
    refine ih.bind ?_
    rintro ⟨after, result⟩ ⟨after', _⟩ ⟨hafter, rfl⟩
    cases result with
    | error e => exact level_done ⟨hafter.cons hhook data data', rfl⟩
    | ok =>
      refine (hhook.after details hints data data' hctx).bind ?_
      rintro ⟨kept, outcome⟩ ⟨kept', _⟩ rfl
      exact level_done ⟨hafter.cons hhook kept kept', rfl⟩

theorem runAll_level (stage : String) (hctx : ctx.Agrees ctx')
    {call call' : Hook (Heard σ) → HookData → Task (Heard σ) (HookData × Outcome Unit)}
    (hcall : ∀ (hook : Hook (Heard σ)) data data', hook.Reserved →
      Level (fun a b => a.2 = b.2) (call hook data) (call' hook data'))
    (hchain : Similar left right) (index : Nat) :
    Level Similar (left.runAll journal.heard stage ctx call index)
      (right.runAll journal.heard stage ctx' call' index) := by
  induction hchain generalizing index with
  | nil => exact level_done .nil
  | @cons a b left right hab hchain ih =>
    obtain ⟨hook, data⟩ := a
    obtain ⟨_, data'⟩ := b
    obtain ⟨rfl, hhook⟩ := hab
    rw [HookChain.runAll, HookChain.runAll]
    refine (ih (index + 1)).bind fun after after' hafter => ?_
    refine (hcall hook data data' hhook).bind ?_
    rintro ⟨kept, outcome⟩ ⟨kept', _⟩ rfl
    have hend : Similar (⟨hook, kept⟩ :: after) (⟨hook, kept'⟩ :: after') :=
      hafter.cons hhook kept kept'
    -- what is said of a failure that is passed over does not depend on the evaluation context
    have hpassed : HookChain.passedOver? stage index ctx outcome =
        HookChain.passedOver? stage index ctx' outcome := by
      obtain ⟨context, rfl⟩ := hctx
      cases outcome <;> rfl
    dsimp only
    rw [← hpassed]
    cases HookChain.passedOver? stage index ctx outcome with
    | none => exact level_done hend
    | some entry => exact (level_log journal rfl).bind fun _ _ _ => level_done hend

theorem runError_level (hctx : ctx.Agrees ctx') (err : EvaluationError)
    (hchain : Similar left right) :
    Level Similar (left.runError journal.heard hints ctx err)
      (right.runError journal.heard hints ctx' err) :=
  runAll_level journal "error" hctx (fun _ data data' h => h.error err hints data data' hctx)
    hchain 0

theorem runFinish_level (hctx : ctx.Agrees ctx') (hchain : Similar left right) :
    Level Similar (left.runFinish journal.heard hints ctx)
      (right.runFinish journal.heard hints ctx') :=
  runAll_level journal "finally_after" hctx (fun _ data data' h => h.finish hints data data' hctx)
    hchain 0

end Stages

/-! ### The whole evaluation -/

section Whole

variable (journal : Journal σ) (e : Evaluation (Heard σ)) (context : EvaluationContext)
  (hlookup : ∀ ctx ctx', Level Eq (e.provider.resolveValue e.flagKey e.defaultValue ctx)
    (e.provider.resolveValue e.flagKey e.defaultValue ctx'))
  {left right : HookChain (Heard σ)}

/-- The end of evaluations that failed. -/
theorem closing_level {ctx ctx' : HookContext} (hctx : ctx.Agrees ctx') (err : EvaluationError)
    (hchain : Similar left right) :
    Level Eq
      (do
        let chain ← left.runError journal.heard e.hints ctx err
        let _ ← chain.runFinish journal.heard e.hints ctx
        return e.failed err)
      (do
        let chain ← right.runError journal.heard e.hints ctx' err
        let _ ← chain.runFinish journal.heard e.hints ctx'
        return e.failed err) := by
  refine (runError_level journal e.hints hctx err hchain).bind fun after after' hafter => ?_
  exact (runFinish_level journal e.hints hctx hafter).bind fun _ _ _ => level_done rfl

include hlookup

theorem attempt_level (hchain : Similar left right) :
    Level (fun a b => Similar a.chain b.chain ∧ a.context.Agrees b.context ∧ a.result = b.result)
      (e.attempt journal.heard left) ({ e with context }.attempt journal.heard right) := by
  have hctx : e.hookContext.Agrees { e with context }.hookContext := ⟨context, rfl⟩
  rw [attempt, attempt]
  by_cases hkind : e.defaultValue.type ≠ e.flagType
  · rw [if_pos hkind, if_pos hkind]
    exact level_done ⟨hchain, hctx, rfl⟩
  rw [if_neg hkind, if_neg hkind]
  refine (runBefore_level journal e.hints hchain 0 hctx .empty .empty).bind ?_
  rintro ⟨after, ctx, given⟩ ⟨after', ctx', given'⟩ ⟨hafter, hagree, hgiven⟩
  dsimp only at hafter hagree hgiven ⊢
  cases given with
  | error err =>
    cases given' with
    | error err' =>
      obtain rfl := Except.error.inj hgiven
      exact level_done ⟨hafter, hagree, rfl⟩
    | ok given' => cases hgiven
  | ok given =>
    cases given' with
    | error err' => cases hgiven
    | ok given' =>
      refine (hlookup (e.context.merge given) (context.merge given')).bind ?_
      rintro outcome _ rfl
      -- an answer is judged by the flag key and the flag type alone
      have haccept : outcome.toExcept.bind { e with context }.accept =
          outcome.toExcept.bind e.accept := rfl
      rw [haccept]
      cases outcome.toExcept.bind e.accept with
      | error err => exact level_done ⟨hafter, hagree, rfl⟩
      | ok details =>
        refine (runAfter_level e.hints hafter hagree details).bind ?_
        rintro ⟨final, result⟩ ⟨final', _⟩ ⟨hfinal, rfl⟩
        exact level_done ⟨hfinal, hagree, rfl⟩

theorem runWith_level (hchain : Similar left right) :
    Level Eq (e.runWith journal.heard left) ({ e with context }.runWith journal.heard right) := by
  have hctx : e.hookContext.Agrees { e with context }.hookContext := ⟨context, rfl⟩
  have hstart : e.startEntry left.length = { e with context }.startEntry right.length :=
    congrArg e.startEntry hchain.length_eq
  rw [runWith, runWith]
  refine (level_log journal hstart).bind fun _ _ _ => ?_
  dsimp only
  cases e.status.shortCircuitCode? with
  | some code => exact closing_level journal e hctx (shortCircuitError code) hchain
  | none =>
    refine (attempt_level journal e context hlookup hchain).bind ?_
    rintro ⟨after, ctx, result⟩ ⟨after', ctx', _⟩ ⟨hafter, hagree, rfl⟩
    cases result with
    | ok details =>
      exact (runFinish_level journal e.hints hagree hafter).bind fun _ _ _ => level_done rfl
    | error err =>
      refine (level_log journal rfl).bind fun _ _ _ => ?_
      exact closing_level journal e hagree err hafter

/-- **Evaluations of reserved hooks that differ in their contexts are level.** -/
theorem run_level (hhooks : ∀ hook ∈ e.hooks, hook.Reserved) :
    Level Eq (e.run journal.heard) ({ e with context }.run journal.heard) := by
  rw [run, run]
  cases hselect : HookChain.select e.flagType e.hooks with
  | error panic => exact level_done rfl
  | ok chain =>
    have hchain : Similar chain chain :=
      List.forall₂_same.mpr fun entry hentry => ⟨rfl, forall_of_select hhooks hselect entry hentry⟩
    refine (runWith_level journal e context hlookup hchain).bind ?_
    rintro details _ rfl
    exact level_done rfl

end Whole

/-! ### The main result -/

section Main

variable (journal : Journal σ) (e : Evaluation σ) (source : Source σ) (members : List (Member σ))

/-- The lookups of two evaluations are level, for what they report is told by how the calls inside
them have ended. -/
theorem lookup_level (flagKey : String) (defaultValue : FlagValue) (ctx ctx' : EvaluationContext) :
    Level Eq (((source.heard journal).noting .lookup).resolveValue flagKey defaultValue ctx)
      (((source.heard journal).noting .lookup).resolveValue flagKey defaultValue ctx') := by
  have hturns : ∀ ctx, Turns (Explained (Act.report? flagKey) Act.Inner)
      ((source.heard journal).resolve defaultValue.type flagKey defaultValue.payload ctx) :=
    source.heard_turns journal defaultValue.type defaultValue.payload
  have hended : ∀ o o', Act.lookup (MultiProvider.asValue defaultValue.type o) =
      Act.lookup (MultiProvider.asValue defaultValue.type o') →
        MultiProvider.asValue defaultValue.type o = MultiProvider.asValue defaultValue.type o' :=
    fun _ _ h => Act.lookup.inj h
  refine Level.bind (level_noting (hturns ctx) (hturns ctx') ?_ ?_ hended) fun _ _ h => level_done h
  · exact fun _ => id
  · exact fun _ => id

/-- **Contexts are not disclosed.**  Two evaluations of the same things, through the same source and
with the same hooks, none of them a logging hook that was asked for contexts, may differ in the
contexts of the instance, the client and the call and in those that before hooks give.  They may
find the state as different as can be, and others may change it as they like.  If the calls that
they make end in the same way, they report the same and give the same result.  That the calls are
noted changes nothing. -/
theorem contexts_not_disclosed
    (hmembers : ∀ hook, Member.logging hook ∈ members → hook.includeContext = false)
    (context context' : EvaluationContext) (s s' : σ) (changes changes' : List (σ → σ)) :
    let noted := fun (context : EvaluationContext) (s : σ) (changes : List (σ → σ)) =>
      (({ e with context }.heardBy journal source members).run journal.heard).runAmid
        (beside _ changes) (s, [])
    let plain := fun (context : EvaluationContext) (s : σ) (changes : List (σ → σ)) =>
      (({ e with context }.through journal source members).run journal).runAmid changes s
    let r := noted context s changes
    let r' := noted context' s' changes'
    (acts r.2.2 = acts r'.2.2 → reports r.2.2 = reports r'.2.2 ∧ r.1 = r'.1) ∧
      ∀ context s changes, (noted context s changes).1 = (plain context s changes).1 ∧
        (noted context s changes).2.1 = (plain context s changes).2 := by
  intro noted plain r r'
  refine ⟨fun hacts => ?_, fun context s changes => ?_⟩
  · have hlevel : Level Eq (({ e with context }.heardBy journal source members).run journal.heard)
        (({ e with context := context' }.heardBy journal source members).run journal.heard) :=
      run_level journal ({ e with context }.heardBy journal source members) context'
        (lookup_level journal source e.flagKey e.defaultValue)
        (Member.heard_reserved journal hmembers)
    have hadds := fun context => heardBy_adds journal { e with context } source members
    obtain ⟨hresult, heven⟩ := hlevel (s, []) (s', []) changes changes' (hadds context _)
      (hadds context' _) ⟨rfl, rfl⟩ (.inl (hacts ▸ List.prefix_rfl))
    exact ⟨heven.reports, hresult⟩
  · exact (heardBy_mimics journal { e with context } source members).runAmid changes (s, [])

end Main

/-- A provider whose lookups block and panic. -/
def panicking (σ : Type) : BlockingProvider σ where
  name := "first"
  hooks := []
  startUp _ s := (.returned (), s)
  shutDown s := (.returned (), s)
  attach _ s := s
  detach s := s
  resolve _ := some fun _ _ _ s => (.panicked (.text "no connection"), s)

/-- A hook that gives the context it is told. -/
def givingBack (σ : Type) : Hook σ :=
  { Hook.silent with
    before := fun ctx _ data => .done (data, .returned (some ctx.evaluationContext)) }

/-- The evaluation of a flag that is on by default. -/
def ofFlag : Evaluation Unit where
  provider := NoOp.provider _
  status := .ready
  flagType := .boolean
  flagKey := "flag"
  defaultValue := .bool true
  context := .empty
  domain := none
  hooks := []
  hints := .empty

/-- Two sub-providers, of which the first one panics and the second one answers. -/
def fallingBack : Source Unit :=
  .multi (.application 1) [("first", .blocking (panicking _)), ("second", .plain (NoOp.provider _))]
    (.firstMatch _) [] ⟨fun _ => .ofNames ["first", "second"], fun _ s => s⟩

/-- A hook that gives context, and a logging hook that was not asked to report any. -/
def audience : List (Member Unit) := [.own (givingBack _), .logging ⟨false⟩]

/-- Everything that is heard while the flag is evaluated for a user. -/
def heardFor (user : String) : List (Act ⊕ LogEntry) :=
  ((({ ofFlag with context := .ofKey user }.heardBy .silent fallingBack audience).run
    (Journal.heard .silent)).runAmid (beside _ []) ((), [])).2.2

/-- How the calls end that are made for it. -/
def endings : List Act :=
  [.before 0 (.returned true), .call "first" (.panicked (.text "no connection")),
    .inquiry "first" (.failed (.general ("blocking resolve task failed: " ++
      BlockingProvider.panicText (.text "no connection")))),
    .inquiry "second" (.returned ((NoOp.answer true).map .bool)),
    .lookup (.returned ((NoOp.answer true).map .bool)), .after 0 (.returned ()),
    .finish 0 (.returned ())]

/-- Of two users six reports are made each, and these are the same. -/
theorem users_not_disclosed :
    acts (heardFor "user-1") = acts (heardFor "user-2") ∧
      reports (heardFor "user-1") = reports (heardFor "user-2") ∧
      (reports (heardFor "user-1")).length = 6 := by
  have hmembers : ∀ hook, Member.logging hook ∈ audience → hook.includeContext = false := by
    intro hook hhook
    rcases List.mem_cons.mp hhook with h | h
    · cases h
    · cases List.mem_singleton.mp h
      rfl
  have hfirst : acts (heardFor "user-1") = endings := by with_unfolding_all rfl
  have hsecond : acts (heardFor "user-2") = endings := by with_unfolding_all rfl
  have hacts : acts (heardFor "user-1") = acts (heardFor "user-2") := hfirst.trans hsecond.symm
  have hsame := contexts_not_disclosed .silent ofFlag fallingBack audience hmembers
    (.ofKey "user-1") (.ofKey "user-2") () () [] []
  exact ⟨hacts, (hsame.1 hacts).1, by decide +kernel⟩

end Evaluation

end FeatureFlags
