import FeatureFlags.Proofs.Evaluation.Noting
import FeatureFlags.Proofs.Multi.Answers

/-!
# Evaluations through a multi-provider

An evaluation through a multi-provider is overheard by having its lookups overheard, and watched as
any other.  What the multi-provider has found among its sub-providers is known at the end, because
nobody else touches what was overheard.

## Main definitions

* `Evaluation.overheard` — an evaluation whose multi-provider is overheard.
* `MultiProvider.Consistent` — outcomes of all sub-providers that go with an evaluation.
* `Client.detailsOverheard` — details for a caller, overheard and watched.

## Main results

* `Client.details_follows` — **details are the same whether they are overheard or not.**
* `Client.detailsOverheard_found` — what is known of them.
-/

namespace FeatureFlags

variable {σ : Type}

/-! ### Overheard evaluations -/

open MultiProvider (Agree Found Overheard overhearJournal)

namespace Evaluation

/-- An evaluation whose multi-provider is overheard. -/
def overheard (journal : Journal σ) (relay : Cell σ Multi.Relay) (m : MultiProvider σ)
    (e : Evaluation σ) : Evaluation (Overheard σ) :=
  e.withCallbacks (m.overheard.toProvider (overhearJournal journal) (relay.beside _))
    (e.hooks.map (Hook.within (.first _ _)))

variable {journal : Journal σ} {relay : Cell σ Multi.Relay} {m : MultiProvider σ}

/-- A multi-provider makes the same moves for a lookup when it is overheard. -/
theorem resolve_overheard_mimics (t : FlagType) (flagKey : String) (fallback : t.Carrier)
    (ctx : EvaluationContext) :
    Task.Mimics True Eq
      ((m.overheard.toProvider (overhearJournal journal) (relay.beside _)).resolve t flagKey fallback
        ctx)
      ((m.toProvider journal relay).resolve t flagKey fallback ctx) :=
  MultiProvider.resolve_mimics_of_echoes journal.beside_matches flagKey ctx
    (MultiProvider.sameChoice_overhear m.strategy) (MultiProvider.echoes_overhear m.subs 0) _ _ _ _

/-- What is known of the lookup of a multi-provider: it gives back what was found. -/
def FoundBy (m : MultiProvider σ) (call : Call) (p : Overheard σ) : Prop :=
  match call with
  | .lookup flagKey defaultValue ctx outcome =>
    ∃ r, outcome = givenBack defaultValue.type r ∧ Found m flagKey defaultValue ctx r p.2
  | _ => True

theorem FoundBy.confined {call : Call} {p p' : Overheard σ} (h : FoundBy m call p)
    (hp : (Cell.first _ _).Confined p p') : FoundBy m call p' := by
  obtain ⟨s, rfl⟩ := hp
  exact h

/-- A lookup gives back what is found. -/
theorem resolveValue_foundBy (journal : Journal σ) (relay : Cell σ Multi.Relay)
    (h : MultiProvider.TakesSound m.strategy) (flagKey : String) (defaultValue : FlagValue)
    (ctx : EvaluationContext) (s : σ) :
    ((m.overheard.toProvider (overhearJournal journal) (relay.beside _)).resolveValue flagKey
      defaultValue ctx).Ensures (Cell.first _ _).Confined
        (fun outcome p => FoundBy m (.lookup flagKey defaultValue ctx outcome) p) (s, []) := by
  refine (Task.ensures_map _ _ _ _).mpr ((Task.ensures_map _ _ _ _).mpr ?_)
  rw [FlagValue.ofCarrier_payload]
  refine (MultiProvider.resolveValue_found journal h flagKey defaultValue ctx s).mono ?_
  exact fun r p hfound => ⟨r, ofExcept_toCarrier defaultValue.type r, hfound⟩

end Evaluation

/-! ### Outcomes that go with an evaluation -/

namespace MultiProvider

open Evaluation (Call FoundBy Known Watched givenBack)

variable {m : MultiProvider σ} {flagKey : String} {defaultValue : FlagValue}
  {q : Watched (Overheard σ)}

/-- Outcomes of all sub-providers that go with the lookup of an evaluation: they are those of the
sub-providers that were asked, and any for the others. -/
def Consistent (m : MultiProvider σ) (flagKey : String) (defaultValue : FlagValue)
    (q : Watched (Overheard σ)) (outcomes : List (Outcome (Resolution FlagValue))) : Prop :=
  outcomes.length = m.subs.length ∧ ∃ ctx outcome,
    .lookup flagKey defaultValue ctx outcome ∈ q.2 ∧ Agree flagKey defaultValue ctx outcomes q.1.2

/-- With a lookup there are outcomes that go with it. -/
theorem exists_consistent (hknown : Known (FoundBy m) q) {ctx : EvaluationContext}
    {outcome : Outcome (Resolution FlagValue)}
    (hcall : .lookup flagKey defaultValue ctx outcome ∈ q.2) :
    ∃ outcomes, m.Consistent flagKey defaultValue q outcomes := by
  obtain ⟨r, -, ⟨outcomes, hlength, hagree⟩, -⟩ := hknown _ hcall rfl
  exact ⟨outcomes, hlength, ctx, outcome, hcall, hagree⟩

/-- Outcomes of sub-providers that were all asked in their order. -/
theorem consistent_of_asks {outcomes : List (Outcome (Resolution FlagValue))}
    {ctx : EvaluationContext} {outcome : Outcome (Resolution FlagValue)}
    (hlength : outcomes.length = m.subs.length)
    (hcall : .lookup flagKey defaultValue ctx outcome ∈ q.2)
    (hasked : q.1.2 = asks flagKey defaultValue ctx 0 outcomes) :
    m.Consistent flagKey defaultValue q outcomes := by
  refine ⟨hlength, ctx, outcome, hcall, ?_⟩
  rw [hasked]
  exact agree_asks_iff.mpr List.prefix_rfl

/-- The lookup gives back the answer after a run of errors, which is of the type of the default. -/
theorem Consistent.lookup {earlier later : List (Outcome (Resolution FlagValue))}
    {outcome : Outcome (Resolution FlagValue)}
    (h : m.Consistent flagKey defaultValue q (earlier ++ outcome :: later))
    (hknown : Known (FoundBy m) q)
    (hearlier : ∀ o ∈ earlier, (answer defaultValue o).isError = true)
    (houtcome : (answer defaultValue outcome).isError = false ∨ later = []) :
    (∃ ctx, .lookup flagKey defaultValue ctx
        (givenBack defaultValue.type (answer defaultValue outcome)) ∈ q.2) ∧
      (answer defaultValue outcome).value.type = defaultValue.type := by
  obtain ⟨hlength, ctx, _, hcall, hagree⟩ := h
  obtain ⟨r, rfl, -, hfound⟩ := hknown _ hcall rfl
  obtain ⟨rfl, htype⟩ := hfound earlier outcome later hlength hagree hearlier houtcome
  exact ⟨⟨ctx, hcall⟩, htype⟩

end MultiProvider

/-! ### Through a client -/

namespace Client

open Api (State)
open Evaluation (Course FoundBy Known Watched typedDetails)
open FeatureFlags.Task (FollowsFrom)

variable {W : Type} (host : Host W) (client : Client) (m : MultiProvider (State W)) (t : FlagType)
  (flagKey : String) (fallback : t.Carrier) (ctx : EvaluationContext)
  (options : EvaluationOptions)

/-- Details for a caller who asked for a flag type, with the calls of the evaluation noted, and
those of the sub-providers of a multi-provider. -/
def detailsOverheard :
    Task (Watched (Overheard (State W))) (Except Panic (EvaluationDetails t.Carrier)) := do
  let result ← .read fun q =>
    let e := client.evaluation host t flagKey (.ofCarrier t fallback) ctx options q.1.1
    (e.overheard host.log (Api.relayCell m.id) m).watched.run (overhearJournal host.log).watched
  return result.map (typedDetails t fallback)

variable {m} {s : State W}

/-- **Details through a multi-provider are the same whether they are overheard or not.** -/
theorem details_follows
    (hprovider : (client.evaluation host t flagKey (.ofCarrier t fallback) ctx options s).provider =
      m.toProvider host.log (Api.relayCell m.id)) :
    FollowsFrom ((Cell.first _ _).beside _) Eq
      (client.detailsOverheard host m t flagKey fallback ctx options)
      (client.details host t flagKey fallback ctx options) ((s, []), []) :=
  client.detailsNoting_follows host t flagKey fallback ctx options hprovider rfl
    Evaluation.resolve_overheard_mimics []

/-- What is known of details through a multi-provider: the evaluation goes in one of the five
ways, its lookup gives back what the multi-provider has found, and if it gets as far there are
outcomes that go with it. -/
theorem detailsOverheard_found (h : MultiProvider.TakesSound m.strategy) (s : State W) :
    let e := client.evaluation host t flagKey (.ofCarrier t fallback) ctx options s
    let e' := e.overheard host.log (Api.relayCell m.id) m
    (client.detailsOverheard host m t flagKey fallback ctx options).Ensures
      ((Cell.first _ _).beside _).Confined
      (fun result q => e.Gives (fun details => ∃ untyped,
          details = typedDetails t fallback untyped ∧ Course e' e'.positions q.2 untyped ∧
            (e.Reaches q.2 → ∃ outcomes,
              m.Consistent flagKey (.ofCarrier t fallback) q outcomes)) result ∧
        Known (FoundBy m) q) ((s, []), []) := by
  intro e e'
  have hresolve := fun ctx (s : State W) => Evaluation.resolveValue_foundBy host.log
    (Api.relayCell m.id) h flagKey (.ofCarrier t fallback) ctx s
  have hknown := client.detailsNoting_known host t flagKey fallback ctx options
    (fun _ _ _ hfound hp => hfound.confined hp) hresolve s
  refine hknown.mono ?_
  rintro result q ⟨hgives, hknown⟩
  refine ⟨hgives.mono ?_, hknown⟩
  rintro _ ⟨untyped, rfl, hcourse⟩
  refine ⟨untyped, rfl, hcourse, fun hreaches => ?_⟩
  obtain ⟨ctx', outcome, hcall⟩ := hcourse.exists_lookup hreaches
  exact MultiProvider.exists_consistent hknown hcall

end Client

end FeatureFlags
