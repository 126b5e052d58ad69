import FeatureFlags.Evaluation
import FeatureFlags.Proofs.Task.Mimics

/-!
# Evaluations with other callbacks

An evaluation only calls its callbacks.  Where each of them makes, on a state with notes, the
moves that a plain one makes on the state, so does the evaluation: the relation between callbacks
is carried through the stages one by one.

There may be guests among the hooks on the state with notes: hooks that mimic no plain one, make no
moves and give nothing.  Reports tell how many hooks there are and at which place one stands, so
they differ from those of the plain evaluation, and then a journal has to do the same to the state
whatever it is told.

## Main definitions

* `Hook.within`, `Provider.within` — a hook and a provider over a part of the state.
* `Evaluation.withCallbacks` — an evaluation of the same things by other callbacks.
* `Journal.beside` — a journal on a state with notes.
* `Journal.Matches` — a journal that does to the state what a plain one does.
* `Hook.Mimics`, `Hook.Idle` — a hook that mimics a plain one stage by stage, and one that makes no
  moves.
* `Among`, `Evaluation.Alike` — things, and chains of hooks, that are related to others in turn,
  with guests among them or not.

## Main results

* `Evaluation.run_mimics_of_guests` — **an evaluation mimics one whose callbacks its own callbacks
  mimic, with idle hooks among them or not.**
* `Evaluation.withCallbacks_mimics` — the same without other hooks.
-/

namespace FeatureFlags

open FeatureFlags.Task (Mimics mimics_modify)

variable {σ τ ρ : Type}

/-! ### Callbacks over a part of the state -/

/-- A hook over a part of the state. -/
def Hook.within (part : Cell τ σ) (hook : Hook σ) : Hook τ where
  supports := hook.supports
  before ctx hints data := (hook.before ctx hints data).within part
  after ctx details hints data := (hook.after ctx details hints data).within part
  error ctx e hints data := (hook.error ctx e hints data).within part
  finish ctx hints data := (hook.finish ctx hints data).within part

/-- A provider over a part of the state. -/
def Provider.within (part : Cell τ σ) (p : Provider σ) : Provider τ where
  name := p.name
  hooks := p.hooks.map (Hook.within part)
  startUp ctx := (p.startUp ctx).within part
  shutDown := p.shutDown.within part
  attach emitter := (p.attach emitter).within part
  detach := p.detach.within part
  resolve t flagKey defaultValue ctx := (p.resolve t flagKey defaultValue ctx).within part

/-- A journal that keeps nothing. -/
def Journal.silent : Journal σ := fun _ s => s

/-! ### Callbacks beside notes -/

/-- A journal on a state with notes. -/
def Journal.beside (ρ : Type) (journal : Journal σ) : Journal (σ × ρ) :=
  fun entry p => (journal entry p.1, p.2)

/-- A hook on a state with notes that makes, stage by stage, the moves of a plain one. -/
structure Hook.Mimics (noted : Hook (σ × ρ)) (hook : Hook σ) : Prop where
  supports : noted.supports = hook.supports
  before : ∀ ctx hints data,
    Task.Mimics True Eq (noted.before ctx hints data) (hook.before ctx hints data)
  after : ∀ ctx details hints data,
    Task.Mimics True Eq (noted.after ctx details hints data) (hook.after ctx details hints data)
  error : ∀ ctx err hints data,
    Task.Mimics True Eq (noted.error ctx err hints data) (hook.error ctx err hints data)
  finish : ∀ ctx hints data,
    Task.Mimics True Eq (noted.finish ctx hints data) (hook.finish ctx hints data)

/-- A task on a state with notes that makes no moves, and whose value has a property. -/
def Task.Idle {α : Type} (P : α → Prop) (t : Task (σ × ρ) α) : Prop :=
  Task.Mimics True (fun a (_ : Unit) => P a) t (.done () : Task σ Unit)

/-- What comes after an idle task mimics what it mimics without it. -/
theorem Task.Idle.bind {α β γ : Type} {P : α → Prop} {rel : β → γ → Prop} {t : Task (σ × ρ) α}
    {f : α → Task (σ × ρ) β} {u : Task σ γ} (ht : t.Idle P)
    (hf : ∀ a, P a → Task.Mimics True rel (f a) u) : Task.Mimics True rel (t.bind f) u :=
  Task.Mimics.bind (g := fun _ => u) ht fun a _ ha => hf a ha

/-- A hook on a state with notes that takes part in everything, makes no moves and gives nothing. -/
structure Hook.Idle (noted : Hook (σ × ρ)) : Prop where
  supports : ∀ t, noted.supports t = .ok true
  before : ∀ ctx hints data, (noted.before ctx hints data).Idle fun ended =>
    ended.2 = .returned none
  after : ∀ ctx details hints data, (noted.after ctx details hints data).Idle fun ended =>
    ended.2 = .returned ()
  error : ∀ ctx err hints data, (noted.error ctx err hints data).Idle fun ended =>
    ended.2 = .returned ()
  finish : ∀ ctx hints data, (noted.finish ctx hints data).Idle fun ended =>
    ended.2 = .returned ()

/-- A journal on a state with notes that does to the state what a plain one does with the same
report; if there may be guests, with any report. -/
def Journal.Matches (guests : Prop) (noted : Journal (σ × ρ)) (journal : Journal σ) : Prop :=
  ∀ entry entry' p, guests ∨ entry = entry' → (noted entry p).1 = journal entry' p.1

theorem Journal.beside_matches (journal : Journal σ) :
    Journal.Matches False (journal.beside ρ) journal := by
  rintro entry _ p (hguests | rfl)
  · exact hguests.elim
  · rfl

theorem Journal.Matches.log {guests : Prop} {noted : Journal (σ × ρ)} {journal : Journal σ}
    (h : Journal.Matches guests noted journal) {entry entry' : LogEntry}
    (hentry : guests ∨ entry = entry') :
    Task.Mimics True Eq (Task.log noted entry) (Task.log journal entry') :=
  .read fun p => .write (h entry entry' p hentry) (.done rfl)

/-- Things that are related to others in turn; if there may be guests, with idle ones anywhere among
them. -/
inductive Among {α β : Type} (guests : Prop) (idle : α → Prop) (rel : α → β → Prop) :
    List α → List β → Prop where
  | nil : Among guests idle rel [] []
  | cons {a : α} {b : β} {as : List α} {bs : List β} (h : rel a b)
      (hrest : Among guests idle rel as bs) : Among guests idle rel (a :: as) (b :: bs)
  | guest {a : α} {as : List α} {bs : List β} (hguests : guests) (h : idle a)
      (hrest : Among guests idle rel as bs) : Among guests idle rel (a :: as) bs

theorem Among.length_eq {α β : Type} {guests : Prop} {idle : α → Prop} {rel : α → β → Prop}
    {as : List α} {bs : List β} (h : Among guests idle rel as bs) :
    guests ∨ as.length = bs.length := by
  induction h with
  | nil => exact .inr rfl
  | cons h hrest ih => exact ih.imp_right fun heq => congrArg (· + 1) heq
  | guest hguests => exact .inl hguests

theorem among_of_forall₂ {α β : Type} {guests : Prop} {idle : α → Prop} {rel : α → β → Prop}
    {as : List α} {bs : List β} (h : List.Forall₂ rel as bs) : Among guests idle rel as bs := by
  induction h with
  | nil => exact .nil
  | cons h _ ih => exact .cons h ih

theorem Hook.within_mimics (hook : Hook σ) : (hook.within (.first σ ρ)).Mimics hook where
  supports := rfl
  before _ _ _ := Task.mimics_within _
  after _ _ _ _ := Task.mimics_within _
  error _ _ _ _ := Task.mimics_within _
  finish _ _ _ := Task.mimics_within _

theorem Hook.within_all_mimic (hooks : List (Hook σ)) :
    List.Forall₂ Hook.Mimics (hooks.map (Hook.within (.first σ ρ))) hooks :=
  List.forall₂_map_left_iff.mpr (List.forall₂_same.mpr fun hook _ => hook.within_mimics)

namespace Evaluation

/-- An evaluation of the same things by other callbacks. -/
def withCallbacks {τ : Type} (e : Evaluation σ) (provider : Provider τ) (hooks : List (Hook τ)) :
    Evaluation τ where
  provider := provider
  status := e.status
  flagType := e.flagType
  flagKey := e.flagKey
  defaultValue := e.defaultValue
  context := e.context
  domain := e.domain
  hooks := hooks
  hints := e.hints

/-- Chains of hooks of which one mimics the other, with the same scratch spaces; if there may be
guests, with idle hooks anywhere in it. -/
def Alike (guests : Prop) (noted : HookChain (σ × ρ)) (chain : HookChain σ) : Prop :=
  Among guests (fun a => a.hook.Idle) (fun a b => a.hook.Mimics b.hook ∧ a.data = b.data) noted
    chain

variable {guests : Prop}

theorem Alike.cons {noted : HookChain (σ × ρ)} {chain : HookChain σ} {a : Hook (σ × ρ)}
    {b : Hook σ} (hook : a.Mimics b) (data : HookData) (h : Alike guests noted chain) :
    Alike guests (⟨a, data⟩ :: noted) (⟨b, data⟩ :: chain) :=
  Among.cons ⟨hook, rfl⟩ h

/-- Of hooks that mimic others the same ones take part, and so do the idle ones among them. -/
theorem select_among (t : FlagType) {noted : List (Hook (σ × ρ))} {hooks : List (Hook σ)}
    (h : Among guests Hook.Idle Hook.Mimics noted hooks) :
    match HookChain.select t hooks with
    | .error p => HookChain.select t noted = .error p
    | .ok chain => ∃ alike, HookChain.select t noted = .ok alike ∧ Alike guests alike chain := by
  induction h with
  | nil => exact ⟨[], rfl, Among.nil⟩
  | @cons a b noted hooks hab _ ih =>
    rw [HookChain.select, HookChain.select, hab.supports]
    cases b.supports t with
    | error p => rfl
    | ok supported =>
      dsimp only
      cases hselect : HookChain.select t hooks with
      | error p =>
        rw [hselect] at ih
        dsimp only at ih ⊢
        rw [ih]
      | ok chain =>
        rw [hselect] at ih
        obtain ⟨alike, heq, halike⟩ := ih
        rw [heq]
        cases supported with
        | false => exact ⟨alike, rfl, halike⟩
        | true => exact ⟨_, rfl, halike.cons hab .empty⟩
  | @guest a noted hooks hguests hidle _ ih =>
    rw [HookChain.select, hidle.supports t]
    cases hselect : HookChain.select t hooks with
    | error p =>
      rw [hselect] at ih
      dsimp only at ih ⊢
      rw [ih]
    | ok chain =>
      rw [hselect] at ih
      obtain ⟨alike, heq, halike⟩ := ih
      dsimp only
      rw [heq]
      exact ⟨_, rfl, Among.guest hguests hidle halike⟩

/-- Of hooks that mimic others the same ones take part. -/
theorem select_alike (t : FlagType) {noted : List (Hook (σ × ρ))} {hooks : List (Hook σ)}
    (h : List.Forall₂ Hook.Mimics noted hooks) :
    match HookChain.select t hooks with
    | .error p => HookChain.select t noted = .error p
    | .ok chain => ∃ alike, HookChain.select t noted = .ok alike ∧ Alike False alike chain :=
  select_among t (among_of_forall₂ h)

/-! ### The stages -/

variable {noted : Journal (σ × ρ)} {journal : Journal σ} (hints : HookHints)

theorem mimics_log (journal : Journal σ) (entry : LogEntry) :
    Mimics True Eq (Task.log (journal.beside ρ) entry) (Task.log journal entry) :=
  mimics_modify _ _

variable (hjournal : Journal.Matches guests noted journal)

include hjournal in
theorem runBefore_mimics {left : HookChain (σ × ρ)} {chain : HookChain σ}
    (halike : Alike guests left chain) {index index' : Nat} (hindex : guests ∨ index = index')
    (ctx : HookContext) (given : EvaluationContext) :
    Mimics True (fun a b => Alike guests a.chain b.chain ∧ a.context = b.context ∧
        a.given = b.given)
      (left.runBefore noted hints index ctx given)
      (chain.runBefore journal hints index' ctx given) := by
  induction halike generalizing index index' ctx given with
  | nil => exact Mimics.done ⟨Among.nil, rfl, rfl⟩
  | @cons a b left chain hab halike ih =>
    obtain ⟨watched, data⟩ := a
    obtain ⟨hook, _⟩ := b
    obtain ⟨hhook, rfl⟩ := hab
    have hindex' : guests ∨ index + 1 = index' + 1 := hindex.imp_right fun h => congrArg (· + 1) h
    rw [HookChain.runBefore, HookChain.runBefore]
    refine Mimics.bind (hhook.before ctx hints data) ?_
    rintro ⟨kept, outcome⟩ _ rfl
    dsimp only
    -- the rest of the stage is the same for whatever the hook gave
    have hnext : ∀ (next : HookContext) (given : EvaluationContext),
        Mimics True (fun a b => Alike guests a.chain b.chain ∧ a.context = b.context ∧
            a.given = b.given)
          ((HookChain.runBefore noted hints (index + 1) next given left).bind
            fun after => .done { after with chain := ⟨watched, kept⟩ :: after.chain })
          ((HookChain.runBefore journal hints (index' + 1) next given chain).bind
            fun after => .done { after with chain := ⟨hook, kept⟩ :: after.chain }) := by
      intro next given
      refine Mimics.bind (ih hindex' next given) ?_
      rintro a b ⟨hchain, hctx, hgiven⟩
      exact Mimics.done ⟨hchain.cons hhook kept, hctx, hgiven⟩
    cases outcome.toExcept with
    | error e => exact Mimics.done ⟨Alike.cons hhook kept halike, rfl, rfl⟩
    | ok more =>
      cases more with
      | none => exact hnext ctx given
      | some more =>
        have hentry : guests ∨ HookChain.gaveContextEntry index ctx =
            HookChain.gaveContextEntry index' ctx :=
          hindex.imp_right fun h => congrArg (HookChain.gaveContextEntry · ctx) h
        refine Mimics.bind (hjournal.log hentry) ?_
        rintro _ _ rfl
        exact hnext (ctx.extend more) (given.merge more)
  | @guest a left chain hguests hidle halike ih =>
    rw [HookChain.runBefore]
    refine (hidle.before ctx hints a.data).bind ?_
    rintro ⟨kept, _⟩ rfl
    refine (ih (.inl hguests) ctx given).bind_left ?_
    rintro b c ⟨hchain, hctx, hgiven⟩
    exact Mimics.done ⟨Among.guest hguests hidle hchain, hctx, hgiven⟩

theorem runAfter_mimics {left : HookChain (σ × ρ)} {chain : HookChain σ}
    (halike : Alike guests left chain) (ctx : HookContext)
    (details : EvaluationDetails FlagValue) :
    Mimics True (fun a b => Alike guests a.1 b.1 ∧ a.2 = b.2) (left.runAfter hints ctx details)
      (chain.runAfter hints ctx details) := by
  induction halike with
  | nil => exact Mimics.done ⟨Among.nil, rfl⟩
  | @cons a b left chain hab halike ih =>
    obtain ⟨watched, data⟩ := a
    obtain ⟨hook, _⟩ := b
    obtain ⟨hhook, rfl⟩ := hab
    rw [HookChain.runAfter, HookChain.runAfter]
    refine Mimics.bind ih ?_
    rintro ⟨after, result⟩ ⟨after', _⟩ ⟨hafter, rfl⟩
    cases result with
    | error e => exact Mimics.done ⟨Alike.cons hhook data hafter, rfl⟩
    | ok =>
      refine Mimics.bind (hhook.after ctx details hints data) ?_
      rintro ⟨kept, outcome⟩ _ rfl
      exact Mimics.done ⟨Alike.cons hhook kept hafter, rfl⟩
  | @guest a left chain hguests hidle halike ih =>
    rw [HookChain.runAfter]
    refine ih.bind_left ?_
    rintro ⟨after, result⟩ ⟨after', _⟩ ⟨hafter, rfl⟩
    cases result with
    | error e => exact Mimics.done ⟨Among.guest hguests hidle hafter, rfl⟩
    | ok =>
      refine (hidle.after ctx details hints a.data).bind ?_
      rintro ⟨kept, _⟩ rfl
      exact Mimics.done ⟨Among.guest hguests hidle hafter, rfl⟩

include hjournal in
/-- A failure that is passed over is reported on both sides, or none is. -/
theorem passedOver_mimics (stage : String) (ctx : HookContext) {index index' : Nat}
    (hindex : guests ∨ index = index') (outcome : Outcome Unit) :
    Mimics True Eq (HookChain.report noted (HookChain.passedOver? stage index ctx outcome))
      (HookChain.report journal (HookChain.passedOver? stage index' ctx outcome)) := by
  cases outcome with
  | returned => exact Mimics.done rfl
  | failed e => exact hjournal.log (hindex.imp_right fun h => by rw [h])
  | panicked p => exact hjournal.log (hindex.imp_right fun h => by rw [h])

include hjournal in
theorem runAll_mimics (stage : String) (ctx : HookContext)
    {call : Hook (σ × ρ) → HookData → Task (σ × ρ) (HookData × Outcome Unit)}
    {call' : Hook σ → HookData → Task σ (HookData × Outcome Unit)}
    (hcall : ∀ (noted : Hook (σ × ρ)) (hook : Hook σ) data, noted.Mimics hook →
      Mimics True Eq (call noted data) (call' hook data))
    (hidle : ∀ (noted : Hook (σ × ρ)) data, noted.Idle →
      (call noted data).Idle fun ended => ended.2 = .returned ())
    {left : HookChain (σ × ρ)} {chain : HookChain σ} (halike : Alike guests left chain)
    {index index' : Nat} (hindex : guests ∨ index = index') :
    Mimics True (Alike guests) (left.runAll noted stage ctx call index)
      (chain.runAll journal stage ctx call' index') := by
  induction halike generalizing index index' with
  | nil => exact Mimics.done Among.nil
  | @cons a b left chain hab halike ih =>
    obtain ⟨watched, data⟩ := a
    obtain ⟨hook, _⟩ := b
    obtain ⟨hhook, rfl⟩ := hab
    have hindex' : guests ∨ index + 1 = index' + 1 := hindex.imp_right fun h => congrArg (· + 1) h
    rw [HookChain.runAll, HookChain.runAll]
    refine Mimics.bind (ih hindex') ?_
    intro after after' hafter
    refine Mimics.bind (hcall watched hook data hhook) ?_
    rintro ⟨kept, outcome⟩ _ rfl
    -- a failure is passed over, and the chain is the same with a report of it or without
    have hend : Alike guests (⟨watched, kept⟩ :: after) (⟨hook, kept⟩ :: after') :=
      Alike.cons hhook kept hafter
    refine Mimics.bind (passedOver_mimics hjournal stage ctx hindex outcome) ?_
    rintro _ _ rfl
    exact Mimics.done hend
  | @guest a left chain hguests hguest halike ih =>
    rw [HookChain.runAll]
    refine (ih (.inl hguests)).bind_left ?_
    intro after after' hafter
    refine (hidle a.hook a.data hguest).bind ?_
    rintro ⟨kept, _⟩ rfl
    exact Mimics.done (Among.guest hguests hguest hafter)

section Ends

variable {left : HookChain (σ × ρ)} {chain : HookChain σ} (halike : Alike guests left chain)
  (ctx : HookContext)

include hjournal halike

theorem runError_mimics (err : EvaluationError) :
    Mimics True (Alike guests) (left.runError noted hints ctx err)
      (chain.runError journal hints ctx err) :=
  runAll_mimics hjournal "error" ctx (fun _ _ data h => h.error ctx err hints data)
    (fun _ data h => h.error ctx err hints data) halike (.inr rfl)

theorem runFinish_mimics :
    Mimics True (Alike guests) (left.runFinish noted hints ctx)
      (chain.runFinish journal hints ctx) :=
  runAll_mimics hjournal "finally_after" ctx (fun _ _ data h => h.finish ctx hints data)
    (fun _ data h => h.finish ctx hints data) halike (.inr rfl)

end Ends

/-! ### The whole evaluation -/

/-- A resolver that mimics another one does so when it is asked through the provider. -/
theorem resolveValue_mimics {p' : Provider (σ × ρ)} {p : Provider σ}
    (h : ∀ t flagKey defaultValue ctx,
      Mimics True Eq (p'.resolve t flagKey defaultValue ctx) (p.resolve t flagKey defaultValue ctx))
    (flagKey : String) (defaultValue : FlagValue) (ctx : EvaluationContext) :
    Mimics True Eq (p'.resolveValue flagKey defaultValue ctx)
      (p.resolveValue flagKey defaultValue ctx) := by
  rw [Provider.resolveValue, Provider.resolveValue]
  refine Mimics.bind (h defaultValue.type flagKey defaultValue.payload ctx) ?_
  rintro outcome _ rfl
  exact Mimics.done rfl

section Whole

variable {e : Evaluation σ} {p' : Provider (σ × ρ)} (hooks' : List (Hook (σ × ρ)))
  (hname : p'.name = e.provider.name)
  (hresolve : ∀ t flagKey defaultValue ctx, Mimics True Eq (p'.resolve t flagKey defaultValue ctx)
    (e.provider.resolve t flagKey defaultValue ctx))

include hname in
theorem hookContext_withCallbacks : (e.withCallbacks p' hooks').hookContext = e.hookContext := by
  simp only [hookContext, withCallbacks, hname]

include hjournal hname hresolve

theorem attempt_mimics {left : HookChain (σ × ρ)} {chain : HookChain σ}
    (halike : Alike guests left chain) :
    Mimics True (fun a b => Alike guests a.chain b.chain ∧ a.context = b.context ∧
        a.result = b.result)
      ((e.withCallbacks p' hooks').attempt noted left) (e.attempt journal chain) := by
  rw [attempt, attempt, hookContext_withCallbacks hooks' hname]
  by_cases hkind : e.defaultValue.type ≠ e.flagType
  · have hkind' : (e.withCallbacks p' hooks').defaultValue.type ≠
        (e.withCallbacks p' hooks').flagType := hkind
    rw [if_pos hkind, if_pos hkind']
    exact Mimics.done ⟨halike, rfl, rfl⟩
  have hkind' : ¬ (e.withCallbacks p' hooks').defaultValue.type ≠
      (e.withCallbacks p' hooks').flagType := hkind
  rw [if_neg hkind, if_neg hkind']
  refine Mimics.bind (runBefore_mimics e.hints hjournal halike (.inr rfl) e.hookContext .empty) ?_
  rintro ⟨chain', ctx, given⟩ ⟨chain'', _, _⟩ ⟨hchain, rfl, rfl⟩
  cases given with
  | error err => exact Mimics.done ⟨hchain, rfl, rfl⟩
  | ok given =>
    refine Mimics.bind (resolveValue_mimics hresolve e.flagKey e.defaultValue _) ?_
    rintro outcome _ rfl
    -- an answer is judged by the flag key and the flag type alone
    have haccept : outcome.toExcept.bind (e.withCallbacks p' hooks').accept =
        outcome.toExcept.bind e.accept := rfl
    dsimp only
    rw [haccept]
    cases outcome.toExcept.bind e.accept with
    | error err => exact Mimics.done ⟨hchain, rfl, rfl⟩
    | ok details =>
      refine Mimics.bind (runAfter_mimics e.hints hchain ctx details) ?_
      rintro ⟨after, result⟩ ⟨after', _⟩ ⟨hafter, rfl⟩
      exact Mimics.done ⟨hafter, rfl, rfl⟩

theorem runWith_mimics {left : HookChain (σ × ρ)} {chain : HookChain σ}
    (halike : Alike guests left chain) :
    Mimics True Eq ((e.withCallbacks p' hooks').runWith noted left) (e.runWith journal chain) := by
  rw [runWith, runWith, hookContext_withCallbacks hooks' hname]
  have hstart : guests ∨ (e.withCallbacks p' hooks').startEntry left.length =
      e.startEntry chain.length := halike.length_eq.imp_right fun h => congrArg e.startEntry h
  refine Mimics.bind (hjournal.log hstart) ?_
  rintro _ _ rfl
  have hstatus : (e.withCallbacks p' hooks').status.shortCircuitCode? =
      e.status.shortCircuitCode? := rfl
  rw [hstatus]
  cases e.status.shortCircuitCode? with
  | some code =>
    refine Mimics.bind (runError_mimics e.hints hjournal halike _ _) ?_
    intro after after' hafter
    refine Mimics.bind (runFinish_mimics e.hints hjournal hafter _) ?_
    rintro _ _ -
    exact Mimics.done rfl
  | none =>
    refine Mimics.bind (attempt_mimics hjournal hooks' hname hresolve halike) ?_
    rintro ⟨after, ctx, result⟩ ⟨after', _, _⟩ ⟨hafter, rfl, rfl⟩
    cases result with
    | ok details =>
      refine Mimics.bind (runFinish_mimics e.hints hjournal hafter ctx) ?_
      rintro _ _ -
      exact Mimics.done rfl
    | error err =>
      refine Mimics.bind (hjournal.log (.inr rfl)) ?_
      rintro _ _ rfl
      refine Mimics.bind (runError_mimics e.hints hjournal hafter ctx err) ?_
      intro final final' hfinal
      refine Mimics.bind (runFinish_mimics e.hints hjournal hfinal ctx) ?_
      rintro _ _ -
      exact Mimics.done rfl

/-- **An evaluation mimics one whose callbacks its own callbacks mimic**, with idle hooks among them
if there may be guests. -/
theorem run_mimics_of_guests (hhooks : Among guests Hook.Idle Hook.Mimics hooks' e.hooks) :
    Mimics True Eq ((e.withCallbacks p' hooks').run noted) (e.run journal) := by
  have hselect := select_among e.flagType hhooks
  rw [run, run]
  cases hchain : HookChain.select e.flagType e.hooks with
  | error panic =>
    rw [hchain] at hselect
    have hnoted : HookChain.select (e.withCallbacks p' hooks').flagType
        (e.withCallbacks p' hooks').hooks = .error panic := hselect
    rw [hnoted]
    exact Mimics.done rfl
  | ok chain =>
    rw [hchain] at hselect
    obtain ⟨left, heq, halike⟩ := hselect
    have hnoted : HookChain.select (e.withCallbacks p' hooks').flagType
        (e.withCallbacks p' hooks').hooks = .ok left := heq
    rw [hnoted]
    refine Mimics.bind (runWith_mimics hjournal hooks' hname hresolve halike) ?_
    rintro details _ rfl
    exact Mimics.done rfl

end Whole

/-- **An evaluation mimics one whose callbacks its own callbacks mimic.** -/
theorem withCallbacks_mimics (journal : Journal σ) {e : Evaluation σ} {p' : Provider (σ × ρ)}
    (hooks' : List (Hook (σ × ρ))) (hname : p'.name = e.provider.name)
    (hresolve : ∀ t flagKey defaultValue ctx, Mimics True Eq
      (p'.resolve t flagKey defaultValue ctx) (e.provider.resolve t flagKey defaultValue ctx))
    (hhooks : List.Forall₂ Hook.Mimics hooks' e.hooks) :
    Mimics True Eq ((e.withCallbacks p' hooks').run (journal.beside ρ)) (e.run journal) :=
  run_mimics_of_guests journal.beside_matches hooks' hname hresolve (among_of_forall₂ hhooks)

end Evaluation

end FeatureFlags
