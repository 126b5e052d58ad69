import FeatureFlags.Proofs.Evaluation.Noting
import FeatureFlags.Proofs.Multi.Selection
import FeatureFlags.Proofs.Task.Level
import FeatureFlags.Provider.Blocking

/-!
# Sources of answers

A provider is one of the application, or one of the application that blocks, or several of these
behind one, and so on.  All calls that the library makes for a lookup are calls of the resolvers in
this tree.  They are noted when they have ended, in one list with what the library reports
meanwhile, and all of that is told by how they have ended: a resolver that blocks and panics is
reported, and so is a sub-provider that fails.

What a lookup was told is not noted, for it is not to show in the reports.

## Main definitions

* `Source` — what a provider is made of; `Source.toProvider` — the provider.
* `Evaluation.Act` — a call that has ended, and how; `Evaluation.Act.report?` — what is reported of
  it.
* `Evaluation.Heard` — a state together with the calls and the reports so far.
* `Source.heard` — a provider whose resolvers are heard.

## Main results

* `Source.heard_mimics` — a provider makes the same moves when its resolvers are heard.
* `Source.heard_turns` — **what a lookup reports is told by how the calls inside it have ended.**
-/

namespace FeatureFlags

open FeatureFlags.Task (Explained Lasting Mimics Turns TurnsFrom mimics_within turns_all turns_done
  turns_within)

variable {σ ρ : Type}

/-! ### Calls that have ended -/

namespace Evaluation

/-- A call that has ended, and how.  What was told and what is left in scratch spaces is no part of
it, and of a before hook only whether it gave context. -/
inductive Act where
  | before (position : Nat) (ended : Outcome Bool)
  | after (position : Nat) (ended : Outcome Unit)
  | error (position : Nat) (ended : Outcome Unit)
  | finish (position : Nat) (ended : Outcome Unit)
  /-- The lookup of the evaluation. -/
  | lookup (ended : Outcome (Resolution FlagValue))
  /-- The lookup of a sub-provider. -/
  | inquiry (name : String) (ended : Outcome (Resolution FlagValue))
  /-- The call of a resolver that blocks. -/
  | call (name : String) (ended : Outcome (Resolution FlagValue))

namespace Act

/-- A call inside the lookup of an evaluation. -/
def Inner : Act → Prop
  | inquiry _ _ => True
  | call _ _ => True
  | _ => False

/-- What is reported of a call inside a lookup. -/
def report? (flagKey : String) : Act → Option LogEntry
  | inquiry name ended =>
    match ended.toExcept with
    | .ok _ => none
    | .error e => some (MultiProvider.failureEntry name flagKey e)
  | call name (.panicked p) => some (BlockingProvider.panicEntry name "resolve" p)
  | _ => none

end Act

/-- A state together with the calls that have ended and the reports so far. -/
abbrev Heard (σ : Type) := σ × List (Act ⊕ LogEntry)

end Evaluation

open Evaluation (Act Heard)

/-- A journal that also notes what it is told. -/
def Journal.heard (journal : Journal σ) : Journal (Heard σ) :=
  fun entry p => (journal entry p.1, p.2 ++ [.inr entry])

/-- To the state it does what it does without. -/
theorem Journal.heard_matches (journal : Journal σ) : journal.heard.Matches False journal := by
  rintro entry _ p (hguests | rfl)
  · exact hguests.elim
  · rfl

/-! ### Sources -/

/-- What a provider is made of. -/
inductive Source (σ : Type) where
  | plain (provider : Provider σ)
  | blocking (provider : BlockingProvider σ)
  /-- Several sources behind one, each under a name. -/
  | multi (id : ProviderId) (subs : List (String × Source σ)) (strategy : Multi.Strategy σ)
    (hooks : List (Hook σ)) (relay : Cell σ Multi.Relay)

/-- A strategy over a part of the state. -/
def Multi.Strategy.within {τ : Type} (part : Cell τ σ) (strategy : Multi.Strategy σ) :
    Multi.Strategy τ where
  mode := strategy.mode
  accepts flagKey sub r := (strategy.accepts flagKey sub r).within part

/-- A provider whose lookups are noted when they have ended. -/
def Provider.noting (describe : Outcome (Resolution FlagValue) → Act) (p : Provider (Heard σ)) :
    Provider (Heard σ) :=
  { p with
    resolve := fun t flagKey defaultValue ctx =>
      (p.resolve t flagKey defaultValue ctx).noting fun outcome =>
        .inl (describe (MultiProvider.asValue t outcome)) }

/-- Makes one call of a resolver that blocks, which is noted when the caller hears of its end. -/
def BlockingProvider.callHeard (journal : Journal σ) (name : String) {t : FlagType}
    (f : σ → Outcome (Resolution t.Carrier) × σ) :
    Task (Heard σ) (Outcome (Resolution t.Carrier)) := do
  let outcome ← ((Task.onThread f).within (.first _ _)).noting fun outcome =>
    .inl (.call name (MultiProvider.asValue t outcome))
  conclude journal.heard name "resolve" outcome

/-- A provider that blocks, whose resolvers are noted when they have ended. -/
def BlockingProvider.heard (journal : Journal σ) (p : BlockingProvider σ) : Provider (Heard σ) :=
  { (p.toProvider journal).within (.first _ _) with
    resolve := fun t flagKey defaultValue ctx =>
      match p.resolve t with
      | none => .done (.failed (notImplementedError t))
      | some f => callHeard journal p.name (f flagKey defaultValue ctx) }

namespace Source

variable (journal : Journal σ)

mutual

/-- The provider, reporting to a journal. -/
def toProvider : Source σ → Provider σ
  | plain p => p
  | blocking p => p.toProvider journal
  | multi id subs strategy hooks relay =>
    MultiProvider.toProvider journal relay { id, subs := toSubProviders subs, strategy, hooks }

def toSubProviders : List (String × Source σ) → List (Multi.SubProvider σ)
  | [] => []
  | (name, source) :: rest => ⟨name, toProvider source⟩ :: toSubProviders rest

end

mutual

/-- The provider with its resolvers heard. -/
def heard : Source σ → Provider (Heard σ)
  | plain p => p.within (.first _ _)
  | blocking p => p.heard journal
  | multi id subs strategy hooks relay =>
    MultiProvider.toProvider journal.heard (relay.beside _)
      { id
        subs := heardSubs subs
        strategy := strategy.within (.first _ _)
        hooks := hooks.map (Hook.within (.first _ _)) }

def heardSubs : List (String × Source σ) → List (Multi.SubProvider (Heard σ))
  | [] => []
  | (name, source) :: rest => ⟨name, (heard source).noting (.inquiry name)⟩ :: heardSubs rest

end

/-! ### The same moves -/

theorem heard_name (source : Source σ) :
    (source.heard journal).name = (source.toProvider journal).name := by
  cases source with
  | plain p => rfl
  | blocking p => rfl
  | multi => rfl

/-- A resolver that blocks makes the same moves when it is heard. -/
theorem callHeard_mimics {t : FlagType} (name : String)
    (f : σ → Outcome (Resolution t.Carrier) × σ) :
    Mimics True Eq (BlockingProvider.callHeard journal name f)
      (BlockingProvider.call journal name "resolve" f) := by
  refine (Task.mimics_note _ _).bind ?_
  rintro outcome _ rfl
  cases outcome with
  | returned r => exact .done rfl
  | failed e => exact .done rfl
  | panicked p => exact (journal.heard_matches.log (.inr rfl)).bind fun _ _ _ => .done rfl

mutual

/-- **A provider makes the same moves when its resolvers are heard.** -/
theorem heard_mimics (source : Source σ) (t : FlagType) (flagKey : String)
    (defaultValue : t.Carrier) (ctx : EvaluationContext) :
    Mimics True Eq ((source.heard journal).resolve t flagKey defaultValue ctx)
      ((source.toProvider journal).resolve t flagKey defaultValue ctx) := by
  cases source with
  | plain p => exact mimics_within (p.resolve t flagKey defaultValue ctx)
  | blocking p =>
    rw [heard, toProvider]
    simp only [BlockingProvider.toProvider, BlockingProvider.heard]
    cases p.resolve t with
    | none => exact .done rfl
    | some f => exact callHeard_mimics journal p.name (f flagKey defaultValue ctx)
  | multi id subs strategy hooks relay =>
    rw [heard, toProvider]
    exact MultiProvider.resolve_mimics_of_echoes journal.heard_matches flagKey ctx
      ⟨rfl, fun _ _ _ => mimics_within _⟩ (heardSubs_echo subs) _ _ t defaultValue

theorem heardSubs_echo (subs : List (String × Source σ)) :
    List.Forall₂ MultiProvider.Echoes (heardSubs journal subs) (toSubProviders journal subs) := by
  cases subs with
  | nil => rw [heardSubs, toSubProviders]; exact .nil
  | cons sub rest =>
    obtain ⟨name, source⟩ := sub
    rw [heardSubs, toSubProviders]
    refine .cons ⟨rfl, fun flagKey defaultValue ctx => ?_⟩ (heardSubs_echo rest)
    have hresolve : ∀ t flagKey defaultValue ctx,
        Mimics True Eq
          (((source.heard journal).noting (.inquiry name)).resolve t flagKey defaultValue ctx)
          ((source.toProvider journal).resolve t flagKey defaultValue ctx) :=
      fun t flagKey defaultValue ctx => (heard_mimics source t flagKey defaultValue ctx).noting _
    exact Evaluation.resolveValue_mimics hresolve flagKey defaultValue ctx

end

/-! ### What is reported -/

variable {flagKey : String} {defaultValue : FlagValue} {ctx : EvaluationContext}
  {P : List (Act ⊕ LogEntry) → Prop} {keep : Journal (Heard σ)}

/-- What a lookup of several sub-providers adds in its turns has a property if what each of them
adds, and the library for it, has the property. -/
theorem resolveValue_turns (hP : Lasting P) {m : MultiProvider (Heard σ)}
    (hconsult : ∀ sub ∈ m.subs, Turns P (MultiProvider.consult keep flagKey defaultValue ctx sub))
    (haccepts : ∀ flagKey sub r, Turns P (m.strategy.accepts flagKey sub r)) :
    Turns P (m.resolveValue keep flagKey defaultValue ctx) := by
  -- an answer is taken, or it is gone on
  have hnext : ∀ {rest : Task (Heard σ) (Resolution FlagValue)} (sub : String)
      (r : Resolution FlagValue), Turns P rest →
        Turns P ((m.strategy.accepts flagKey sub r).bind fun accepted =>
          if accepted then .done r else rest) := by
    intro rest sub r hrest
    refine (haccepts flagKey sub r).bind hP fun accepted => ?_
    cases accepted with
    | true => exact turns_done hP r
    | false => exact hrest
  rw [MultiProvider.resolveValue]
  generalize MultiProvider.noAnswer defaultValue = last
  cases m.strategy.mode with
  | sequential =>
    dsimp only
    generalize m.subs = subs at hconsult
    induction subs generalizing last with
    | nil => exact turns_done hP last
    | cons sub rest ih =>
      obtain ⟨hsub, hrest⟩ := List.forall_mem_cons.mp hconsult
      exact hsub.bind hP fun r => hnext sub.name r (ih r hrest)
  | parallel =>
    have hall : Turns P (Task.all (m.subs.map
        (MultiProvider.consult keep flagKey defaultValue ctx))) := by
      refine turns_all hP fun t ht => ?_
      obtain ⟨sub, hsub, rfl⟩ := List.mem_map.mp ht
      exact hconsult sub hsub
    refine hall.bind hP fun answers => ?_
    generalize m.subs.zip answers = offered
    induction offered generalizing last with
    | nil => exact turns_done hP last
    | cons offer rest ih => exact hnext offer.1.name offer.2 (ih offer.2)

/-- A sub-provider that fails is reported in the turn in which its lookup ends. -/
theorem consult_turns {p : Provider (Heard σ)}
    (h : ∀ t defaultValue ctx, Turns (Explained (Act.report? flagKey) Act.Inner)
      (p.resolve t flagKey defaultValue ctx)) (name : String) :
    Turns (Explained (Act.report? flagKey) Act.Inner)
      (MultiProvider.consult journal.heard flagKey defaultValue ctx
        ⟨name, p.noting (.inquiry name)⟩) := by
  have hP := Task.lasting_explained (Act.report? flagKey) Act.Inner
  rw [MultiProvider.consult, Provider.resolveValue, Task.bind_def, Task.bind_def, Task.bind_assoc]
  refine (h defaultValue.type defaultValue.payload ctx).noting_bind hP fun outcome q => ?_
  rw [Task.pure_def, Task.bind_done, ← MultiProvider.asValue]
  generalize MultiProvider.asValue _ outcome = ended
  have htold : Explained (Act.report? flagKey) Act.Inner
      (.inl (.inquiry name ended) :: ((Act.inquiry name ended).report? flagKey).toList.map .inr) :=
    Task.explained_told trivial
  rw [Act.report?] at htold
  cases hended : ended.toExcept with
  | ok r =>
    rw [hended] at htold
    exact htold
  | error e =>
    rw [hended] at htold
    exact ⟨_, rfl, fun _ => htold⟩

/-- A resolver that blocks and panics is reported in the turn in which the caller hears of it. -/
theorem callHeard_turns {t : FlagType} (name : String)
    (f : σ → Outcome (Resolution t.Carrier) × σ) :
    Turns (Explained (Act.report? flagKey) Act.Inner)
      (BlockingProvider.callHeard journal name f) := by
  have hP := Task.lasting_explained (Act.report? flagKey) Act.Inner
  refine (turns_within hP (Task.onThread f)).noting_bind hP fun ended q => ?_
  have htold : Explained (Act.report? flagKey) Act.Inner
      (.inl (.call name (MultiProvider.asValue t ended)) ::
        ((Act.call name (MultiProvider.asValue t ended)).report? flagKey).toList.map .inr) :=
    Task.explained_told trivial
  cases ended with
  | returned r => exact htold
  | failed e => exact htold
  | panicked p => exact ⟨_, rfl, fun _ => htold⟩

mutual

/-- **What a lookup reports is told by how the calls inside it have ended.** -/
theorem heard_turns (source : Source σ) (t : FlagType) (defaultValue : t.Carrier)
    (ctx : EvaluationContext) :
    Turns (Explained (Act.report? flagKey) Act.Inner)
      ((source.heard journal).resolve t flagKey defaultValue ctx) := by
  have hP := Task.lasting_explained (Act.report? flagKey) Act.Inner
  cases source with
  | plain p => exact turns_within hP (p.resolve t flagKey defaultValue ctx)
  | blocking p =>
    rw [heard]
    simp only [BlockingProvider.toProvider, BlockingProvider.heard]
    cases p.resolve t with
    | none => exact turns_done hP _
    | some f => exact callHeard_turns journal p.name (f flagKey defaultValue ctx)
  | multi id subs strategy hooks relay =>
    rw [heard]
    refine (resolveValue_turns hP (heardSubs_turns subs) fun _ _ _ => turns_within hP _).bind hP ?_
    exact fun _ => turns_done hP _

theorem heardSubs_turns (subs : List (String × Source σ)) {defaultValue : FlagValue}
    {ctx : EvaluationContext} : ∀ sub ∈ heardSubs journal subs,
      Turns (Explained (Act.report? flagKey) Act.Inner)
        (MultiProvider.consult journal.heard flagKey defaultValue ctx sub) := by
  cases subs with
  | nil =>
    rw [heardSubs]
    exact List.forall_mem_nil _
  | cons sub rest =>
    obtain ⟨name, source⟩ := sub
    rw [heardSubs]
    refine List.forall_mem_cons.mpr ⟨?_, heardSubs_turns rest⟩
    exact consult_turns journal (heard_turns source) name

end

end Source

end FeatureFlags
