import FeatureFlags.Proofs.Evaluation.Mimicked
import FeatureFlags.Provider.Multi

/-!
# Overhearing the sub-providers

A lookup of a multi-provider is overheard by running it on a state that also holds the lookups its
sub-providers were asked for so far.  The multi-provider is the same one; only the resolvers of its
sub-providers are wrapped, so that each lookup is noted with what it was given and how it ended.

## Main definitions

* `MultiProvider.Asked` — a lookup that a sub-provider was asked for.
* `MultiProvider.overheard` — a multi-provider whose sub-providers are overheard.
* `MultiProvider.Echoes` — a sub-provider that makes the same moves as a plain one.

## Main results

* `MultiProvider.resolveValue_mimics` — **a lookup makes the same moves whether it is overheard or
  not.**
-/

namespace FeatureFlags

variable {σ : Type}

namespace MultiProvider

open Multi (SubProvider Strategy)

/-! ### Lookups that are noted -/

/-- A lookup that a sub-provider was asked for: the position of the sub-provider, what it was
told, and how the lookup ended. -/
structure Asked where
  position : Nat
  flagKey : String
  defaultValue : FlagValue
  ctx : EvaluationContext
  outcome : Outcome (Resolution FlagValue)

/-- A state together with the lookups asked for so far. -/
abbrev Overheard (σ : Type) := σ × List Asked

/-- Notes a lookup. -/
def note (asked : Asked) : Task (Overheard σ) Unit := Task.modify fun p => (p.1, p.2 ++ [asked])

/-- A sub-provider whose lookups are noted, at a position. -/
def overhearSub (sub : SubProvider σ) (position : Nat) : SubProvider (Overheard σ) where
  name := sub.name
  provider :=
    { sub.provider.within (.first _ _) with
      resolve := fun t flagKey defaultValue ctx => do
        let outcome ← (sub.provider.resolve t flagKey defaultValue ctx).within (.first _ _)
        note ⟨position, flagKey, .ofCarrier t defaultValue, ctx,
          outcome.map (Resolution.map (FlagValue.ofCarrier t))⟩
        return outcome }

/-- A strategy over the state alone. -/
def overhearStrategy (strategy : Strategy σ) : Strategy (Overheard σ) where
  mode := strategy.mode
  accepts flagKey sub r := (strategy.accepts flagKey sub r).within (.first _ _)

/-- A journal of the state alone. -/
def overhearJournal (journal : Journal σ) : Journal (Overheard σ) :=
  fun entry p => (journal entry p.1, p.2)

/-- A multi-provider whose sub-providers are overheard. -/
def overheard (m : MultiProvider σ) : MultiProvider (Overheard σ) where
  id := m.id
  subs := m.subs.zipIdx.map fun (sub, position) => overhearSub sub position
  strategy := overhearStrategy m.strategy
  hooks := m.hooks.map (Hook.within (.first _ _))

/-! ### Nothing else changes -/

open FeatureFlags.Task (Mimics mimics_all mimics_note mimics_within)

section Echoes

variable {ρ : Type}

/-- A sub-provider on a state with notes that goes by the same name as a plain one and makes the
same moves for a lookup. -/
structure Echoes (w : SubProvider (σ × ρ)) (sub : SubProvider σ) : Prop where
  name : w.name = sub.name
  lookup : ∀ flagKey defaultValue ctx, Mimics True Eq
    (w.provider.resolveValue flagKey defaultValue ctx)
    (sub.provider.resolveValue flagKey defaultValue ctx)

/-- A strategy on a state with notes that makes the same choices. -/
structure SameChoice (strategy' : Strategy (σ × ρ)) (strategy : Strategy σ) : Prop where
  mode : strategy'.mode = strategy.mode
  accepts : ∀ flagKey sub r, Mimics True Eq (strategy'.accepts flagKey sub r)
    (strategy.accepts flagKey sub r)

theorem sameChoice_overhear (strategy : Strategy σ) :
    SameChoice (overhearStrategy strategy) strategy where
  mode := rfl
  accepts _ _ _ := mimics_within _

/-- A sub-provider makes the same moves when it is overheard. -/
theorem echoes_overhearSub (sub : SubProvider σ) (position : Nat) :
    Echoes (overhearSub sub position) sub where
  name := rfl
  lookup flagKey defaultValue ctx := by
    refine (mimics_note (sub.provider.resolve _ _ _ _) _).bind ?_
    rintro outcome _ rfl
    exact .done rfl

theorem echoes_overhear (subs : List (SubProvider σ)) (start : Nat) :
    List.Forall₂ Echoes
      ((subs.zipIdx start).map fun (sub, position) => overhearSub sub position) subs := by
  induction subs generalizing start with
  | nil => exact .nil
  | cons sub rest ih => exact .cons (echoes_overhearSub sub start) (ih (start + 1))

variable {noted : Journal (σ × ρ)} {journal : Journal σ}
  (hjournal : Journal.Matches False noted journal) (flagKey : String) (defaultValue : FlagValue)
  (ctx : EvaluationContext) {strategy' : Strategy (σ × ρ)} {strategy : Strategy σ}
  {echoes : List (SubProvider (σ × ρ))} {subs : List (SubProvider σ)}

include hjournal in
theorem consult_mimics {w : SubProvider (σ × ρ)} {sub : SubProvider σ} (h : Echoes w sub) :
    Mimics True Eq (consult noted flagKey defaultValue ctx w)
      (consult journal flagKey defaultValue ctx sub) := by
  refine (h.lookup flagKey defaultValue ctx).bind ?_
  rintro outcome _ rfl
  rw [h.name]
  cases outcome.toExcept with
  | ok r => exact .done rfl
  | error e => exact (hjournal.log (.inr rfl)).bind fun _ _ _ => .done rfl

include hjournal in
theorem resolveInTurn_mimics (hchoice : SameChoice strategy' strategy)
    (hechoes : List.Forall₂ Echoes echoes subs) (last : Resolution FlagValue) :
    Mimics True Eq
      (resolveInTurn strategy' flagKey (consult noted flagKey defaultValue ctx) last
        echoes)
      (resolveInTurn strategy flagKey (consult journal flagKey defaultValue ctx) last subs) := by
  induction hechoes generalizing last with
  | nil => exact .done rfl
  | cons hsub hrest ih =>
    refine (consult_mimics hjournal flagKey defaultValue ctx hsub).bind ?_
    rintro r _ rfl
    rw [hsub.name]
    refine (hchoice.accepts flagKey _ r).bind ?_
    rintro accepted _ rfl
    cases accepted with
    | true => exact .done rfl
    | false => exact ih r

theorem choose_mimics (hchoice : SameChoice strategy' strategy)
    (hechoes : List.Forall₂ Echoes echoes subs) (last : Resolution FlagValue)
    (answers : List (Resolution FlagValue)) :
    Mimics True Eq (choose strategy' flagKey last (echoes.zip answers))
      (choose strategy flagKey last (subs.zip answers)) := by
  induction hechoes generalizing last answers with
  | nil => exact .done rfl
  | cons hsub hrest ih =>
    cases answers with
    | nil => exact .done rfl
    | cons r answers =>
      rw [List.zip_cons_cons, List.zip_cons_cons, choose, choose, hsub.name]
      refine (hchoice.accepts flagKey _ r).bind ?_
      rintro accepted _ rfl
      cases accepted with
      | true => exact .done rfl
      | false => exact ih r answers

include hjournal in
/-- **A lookup makes the same moves** with sub-providers that do, and a strategy that makes the same
choices. -/
theorem resolveValue_mimics_of_echoes {m' : MultiProvider (σ × ρ)} {m : MultiProvider σ}
    (hchoice : SameChoice m'.strategy m.strategy) (hechoes : List.Forall₂ Echoes m'.subs m.subs) :
    Mimics True Eq (m'.resolveValue noted flagKey defaultValue ctx)
      (m.resolveValue journal flagKey defaultValue ctx) := by
  unfold resolveValue
  rw [hchoice.mode]
  cases m.strategy.mode with
  | sequential => exact resolveInTurn_mimics hjournal flagKey defaultValue ctx hchoice hechoes _
  | parallel =>
    refine (mimics_all (hechoes.imp fun w sub h => ?_)).bind ?_
    · exact consult_mimics hjournal flagKey defaultValue ctx h
    rintro answers _ rfl
    exact choose_mimics flagKey hchoice hechoes _ answers

include hjournal in
/-- The providers they make do so, too. -/
theorem resolve_mimics_of_echoes {m' : MultiProvider (σ × ρ)} {m : MultiProvider σ}
    (hchoice : SameChoice m'.strategy m.strategy) (hechoes : List.Forall₂ Echoes m'.subs m.subs)
    (relay' : Cell (σ × ρ) Multi.Relay) (relay : Cell σ Multi.Relay) (t : FlagType)
    (fallback : t.Carrier) :
    Mimics True Eq ((m'.toProvider noted relay').resolve t flagKey fallback ctx)
      ((m.toProvider journal relay).resolve t flagKey fallback ctx) := by
  refine (resolveValue_mimics_of_echoes hjournal flagKey _ ctx hchoice hechoes).bind ?_
  rintro r _ rfl
  exact .done rfl

end Echoes

variable (journal : Journal σ) (flagKey : String) (defaultValue : FlagValue)
  (ctx : EvaluationContext)

/-- **A lookup makes the same moves whether it is overheard or not.** -/
theorem resolveValue_mimics (m : MultiProvider σ) :
    Mimics True Eq (m.overheard.resolveValue (overhearJournal journal) flagKey defaultValue ctx)
      (m.resolveValue journal flagKey defaultValue ctx) :=
  resolveValue_mimics_of_echoes journal.beside_matches flagKey defaultValue ctx
    (sameChoice_overhear m.strategy) (echoes_overhear m.subs 0)

end MultiProvider

end FeatureFlags
