import FeatureFlags.Proofs.Multi.Overheard
import FeatureFlags.Proofs.Task.Contributes
import FeatureFlags.Provider.NoOp

/-!
# Which answer a multi-provider takes

A lookup of a multi-provider takes the first answer that its strategy accepts, in the order of the
sub-providers, or the last answer if it accepts none.  The two modes differ in whom they ask: one
after the other, no sub-provider behind the accepted one is asked; all at once, every one is asked
once, in whatever order the lookups end.  They do not differ in the answer.

What a strategy does when it is asked about an answer is left open by the definition; here it only
decides, by a predicate.

## Main definitions

* `MultiProvider.answer` — what the outcome of a lookup counts as.
* `MultiProvider.select` — the first accepted answer, or else the last one.
* `MultiProvider.InTurn` — how far sub-providers are asked in turn, and which answer is taken.

## Main results

* `MultiProvider.resolveInTurn_contributes`, `MultiProvider.askAll_contributes` — who is asked in
  either mode.
* `MultiProvider.resolveValue_selects` — **the answer is the selected one in both modes, and those
  are asked who have to be.**
-/

namespace FeatureFlags

namespace MultiProvider

open FeatureFlags.Task (Contributes contributes_all contributes_done contributes_modify
  contributes_note contributes_within)
open Multi (RunMode Strategy SubProvider)

variable {σ : Type}

/-! ### Selecting an answer -/

/-- What the outcome of a lookup counts as: a failure or a panic is an error that carries the
default. -/
def answer (defaultValue : FlagValue) (outcome : Outcome (Resolution FlagValue)) :
    Resolution FlagValue :=
  match outcome.toExcept with
  | .ok r => r
  | .error e => .ofError defaultValue e

/-- An outcome of a lookup of a flag type, as one about flag values. -/
def asValue (t : FlagType) (o : Outcome (Resolution t.Carrier)) : Outcome (Resolution FlagValue) :=
  o.map (Resolution.map (FlagValue.ofCarrier t))

/-- The first answer that is accepted, or else the last one, or else `last`. -/
def select (accepted : String × Resolution FlagValue → Bool) (last : Resolution FlagValue)
    (answers : List (String × Resolution FlagValue)) : Resolution FlagValue :=
  ((answers.find? accepted).or answers.getLast?).elim last (·.2)

section Select

variable {accepted : String × Resolution FlagValue → Bool} {a : String × Resolution FlagValue}

@[simp] theorem select_nil (last : Resolution FlagValue) : select accepted last [] = last := rfl

theorem select_cons_of_accepted (h : accepted a = true) (last : Resolution FlagValue)
    (rest : List (String × Resolution FlagValue)) : select accepted last (a :: rest) = a.2 := by
  rw [select, List.find?_cons_of_pos h, Option.some_or, Option.elim_some]

/-- An answer that is not accepted is the last one so far. -/
theorem select_cons_of_not (h : accepted a = false) (last : Resolution FlagValue)
    (rest : List (String × Resolution FlagValue)) :
    select accepted last (a :: rest) = select accepted a.2 rest := by
  have hnot : ¬accepted a = true := by simp [h]
  rw [select, select, List.find?_cons_of_neg hnot]
  cases rest.find? accepted with
  | some found => rfl
  | none =>
    rw [Option.none_or, Option.none_or, List.getLast?_cons]
    cases rest.getLast? with
    | none => rfl
    | some found => rfl

end Select

/-- A strategy that only decides, by a predicate. -/
def Decides (strategy : Strategy σ) (accepts : String → String → Resolution FlagValue → Bool) :
    Prop :=
  ∀ flagKey sub r, strategy.accepts flagKey sub r = .done (accepts flagKey sub r)

/-- A strategy that only decides does so when it is overheard. -/
theorem Decides.overhear {strategy : Strategy σ}
    {accepts : String → String → Resolution FlagValue → Bool} (h : Decides strategy accepts) :
    Decides (overhearStrategy strategy) accepts := by
  intro flagKey sub r
  change (strategy.accepts flagKey sub r).within (.first _ _) = _
  rw [h]
  rfl

/-- Choosing among answers is selecting, if the strategy only decides. -/
theorem choose_eq_select {strategy : Strategy σ}
    {accepts : String → String → Resolution FlagValue → Bool} (h : Decides strategy accepts)
    (flagKey : String) (last : Resolution FlagValue)
    (answers : List (SubProvider σ × Resolution FlagValue)) :
    choose strategy flagKey last answers =
      .done (select (fun a => accepts flagKey a.1 a.2) last
        (answers.map fun a => (a.1.name, a.2))) := by
  induction answers generalizing last with
  | nil => rfl
  | cons a rest ih =>
    obtain ⟨sub, r⟩ := a
    rw [choose, h, Task.bind_def, Task.bind_done, List.map_cons]
    cases haccepted : accepts flagKey sub.name r with
    | true =>
      rw [select_cons_of_accepted haccepted]
      rfl
    | false =>
      rw [select_cons_of_not haccepted]
      exact ih r

/-! ### Asking in turn -/

/-- Asking in turn: every outcome but the last one counts as an answer that is not accepted, and
nobody is left to be asked unless the last one is accepted. -/
inductive InTurn (accepted : String × Resolution FlagValue → Bool) (defaultValue : FlagValue) :
    Resolution FlagValue → List String → List (Outcome (Resolution FlagValue)) →
      Resolution FlagValue → Prop where
  | nobody {last : Resolution FlagValue} : InTurn accepted defaultValue last [] [] last
  | taken {last : Resolution FlagValue} {name : String} {rest : List String}
      {outcome : Outcome (Resolution FlagValue)}
      (h : accepted (name, answer defaultValue outcome) = true) :
      InTurn accepted defaultValue last (name :: rest) [outcome] (answer defaultValue outcome)
  | goOn {last r : Resolution FlagValue} {name : String} {rest : List String}
      {outcome : Outcome (Resolution FlagValue)}
      {outcomes : List (Outcome (Resolution FlagValue))}
      (h : accepted (name, answer defaultValue outcome) = false)
      (hrest : InTurn accepted defaultValue (answer defaultValue outcome) rest outcomes r) :
      InTurn accepted defaultValue last (name :: rest) (outcome :: outcomes) r

/-- **Asking in turn takes the answer that is selected among all**, and ends with it: the outcomes
of those who are not asked are of no account. -/
theorem InTurn.eq_select {accepted : String × Resolution FlagValue → Bool}
    {defaultValue : FlagValue} {last r : Resolution FlagValue} {names : List String}
    {asked outcomes : List (Outcome (Resolution FlagValue))}
    (h : InTurn accepted defaultValue last names asked r) (hasked : asked <+: outcomes)
    (hlength : outcomes.length = names.length) :
    r = select accepted last (names.zip (outcomes.map (answer defaultValue))) ∧
      asked.length =
        min ((names.zip (outcomes.map (answer defaultValue))).findIdx accepted + 1)
          names.length := by
  induction h generalizing outcomes with
  | nobody => exact ⟨rfl, by simp⟩
  | @taken last name rest outcome h =>
    obtain ⟨more, rfl⟩ := hasked
    rw [List.singleton_append, List.map_cons, List.zip_cons_cons, select_cons_of_accepted h,
      List.findIdx_cons, h]
    simp
  | @goOn last r name rest outcome outcomes' h hrest ih =>
    obtain ⟨more, rfl⟩ := hasked
    rw [List.cons_append, List.length_cons, List.length_cons] at hlength
    obtain ⟨hr, hasked⟩ := ih (List.prefix_append outcomes' more) (by omega)
    rw [List.cons_append, List.map_cons, List.zip_cons_cons, select_cons_of_not h,
      List.findIdx_cons, h, List.length_cons, List.length_cons, hasked]
    refine ⟨hr, ?_⟩
    dsimp only [cond_false]
    omega

/-! ### Who is asked -/

section Asked

variable (journal : Journal σ) (flagKey : String) (defaultValue : FlagValue)
  (ctx : EvaluationContext)

/-- The lookups with these outcomes, from a position on. -/
def asks (start : Nat) (outcomes : List (Outcome (Resolution FlagValue))) : List Asked :=
  (outcomes.zipIdx start).map fun (outcome, position) =>
    ⟨position, flagKey, defaultValue, ctx, outcome⟩

/-- A task whose end is noted contributes that note. -/
theorem contributes_noted {α : Type} (t : Task σ α) (describe : α → Asked) :
    Contributes (fun a l => l = [describe a])
      ((t.within (.first _ _)).bind fun a => (note (describe a)).bind fun _ => .done a) := by
  intro p
  refine (contributes_within t p).bind ?_
  rintro a l rfl p
  exact ⟨[describe a], rfl, rfl⟩

/-- A sub-provider is asked once, for a flag of the type of the default. -/
theorem consult_contributes_typed (sub : SubProvider σ) (position : Nat) :
    Contributes (fun r l => ∃ o : Outcome (Resolution defaultValue.type.Carrier),
        r = answer defaultValue (asValue _ o) ∧
          l = asks flagKey defaultValue ctx position [asValue _ o])
      (consult (overhearJournal journal) flagKey defaultValue ctx
        (overhearSub sub position)) := by
  have hresolve : Contributes
      (fun outcome l => ∃ o : Outcome (Resolution defaultValue.type.Carrier),
        outcome = asValue _ o ∧ l = asks flagKey defaultValue ctx position [outcome])
      ((overhearSub sub position).provider.resolveValue flagKey defaultValue ctx) := by
    intro p
    refine ((contributes_noted (sub.provider.resolve _ _ _ _) _ p).bind ?_)
    rintro o l rfl p
    -- the default went to the resolver as a payload and is noted as the value it stands for
    rw [FlagValue.ofCarrier_payload]
    exact ⟨o, rfl, rfl⟩
  intro p
  refine (hresolve p).bind ?_
  rintro _ l ⟨o, rfl, rfl⟩ p
  cases hend : (asValue _ o).toExcept with
  | ok r => exact ⟨o, by rw [answer, hend], rfl⟩
  | error e =>
    refine ⟨[], (List.append_nil _).symm, o, ?_, List.append_nil _⟩
    rw [answer, hend]

theorem consult_contributes (sub : SubProvider σ) (position : Nat) :
    Contributes (fun r l => ∃ outcome, r = answer defaultValue outcome ∧
        l = asks flagKey defaultValue ctx position [outcome])
      (consult (overhearJournal journal) flagKey defaultValue ctx
        (overhearSub sub position)) := by
  refine (consult_contributes_typed journal flagKey defaultValue ctx sub position).mono ?_
  rintro r l ⟨o, hanswer, hasked⟩
  exact ⟨asValue _ o, hanswer, hasked⟩

/-- Sub-providers are asked in turn. -/
theorem resolveInTurn_contributes {strategy : Strategy σ}
    {accepts : String → String → Resolution FlagValue → Bool} (h : Decides strategy accepts)
    (subs : List (SubProvider σ)) (start : Nat) (last : Resolution FlagValue) :
    Contributes (fun r l => ∃ outcomes, l = asks flagKey defaultValue ctx start outcomes ∧
        InTurn (fun a => accepts flagKey a.1 a.2) defaultValue last (subs.map (·.name)) outcomes r)
      (resolveInTurn (overhearStrategy strategy) flagKey
        (consult (overhearJournal journal) flagKey defaultValue ctx) last
        ((subs.zipIdx start).map fun (sub, position) => overhearSub sub position)) := by
  induction subs generalizing start last with
  | nil => exact contributes_done ⟨[], rfl, .nobody⟩
  | cons sub rest ih =>
    refine (consult_contributes journal flagKey defaultValue ctx sub start).bind ?_
    rintro _ _ ⟨outcome, rfl, rfl⟩
    change Contributes _ (((overhearStrategy strategy).accepts flagKey sub.name _).bind _)
    rw [h.overhear, Task.bind_done]
    cases haccepted : accepts flagKey sub.name (answer defaultValue outcome) with
    | true => exact contributes_done ⟨[outcome], rfl, .taken haccepted⟩
    | false =>
      refine (ih (start + 1) (answer defaultValue outcome)).mono ?_
      rintro r _ ⟨outcomes, rfl, hturn⟩
      exact ⟨outcome :: outcomes, rfl, .goOn haccepted hturn⟩

/-- The shares of sub-providers that are each asked once. -/
theorem exists_outcomes {subs : List (SubProvider σ)} {start : Nat}
    {shares : List (Resolution FlagValue × List Asked)}
    (h : List.Forall₂ (fun i share => ∃ outcome, share.1 = answer defaultValue outcome ∧
      share.2 = asks flagKey defaultValue ctx i.2 [outcome]) (subs.zipIdx start) shares) :
    ∃ outcomes : List (Outcome (Resolution FlagValue)), outcomes.length = subs.length ∧
      shares.map (·.1) = outcomes.map (answer defaultValue) ∧
        shares.flatMap (·.2) = asks flagKey defaultValue ctx start outcomes := by
  induction subs generalizing start shares with
  | nil =>
    cases h with
    | nil => exact ⟨[], rfl, rfl, rfl⟩
  | cons sub rest ih =>
    rw [List.zipIdx_cons] at h
    cases h with
    | @cons _ share _ shares hshare hrest =>
      obtain ⟨outcome, hanswer, hasked⟩ := hshare
      obtain ⟨outcomes, hlength, hanswers, hall⟩ := ih hrest
      refine ⟨outcome :: outcomes, ?_, ?_, ?_⟩
      · rw [List.length_cons, List.length_cons, hlength]
      · rw [List.map_cons, List.map_cons, hanswer, hanswers]
      · rw [List.flatMap_cons, hasked, hall]
        rfl

/-- Sub-providers are asked all at once. -/
theorem askAll_contributes (subs : List (SubProvider σ)) :
    Contributes (fun answers l => ∃ outcomes : List (Outcome (Resolution FlagValue)),
        outcomes.length = subs.length ∧ answers = outcomes.map (answer defaultValue) ∧
          l.Perm (asks flagKey defaultValue ctx 0 outcomes))
      (Task.all ((subs.zipIdx.map fun (sub, position) => overhearSub sub position).map
        (consult (overhearJournal journal) flagKey defaultValue ctx))) := by
  rw [List.map_map]
  refine (contributes_all (R := fun i r l => ∃ outcome, r = answer defaultValue outcome ∧
    l = asks flagKey defaultValue ctx i.2 [outcome]) fun i _ => ?_).mono ?_
  · exact consult_contributes journal flagKey defaultValue ctx i.1 i.2
  rintro _ l ⟨shares, rfl, hshares, hl⟩
  obtain ⟨outcomes, hlength, hanswers, hall⟩ := exists_outcomes flagKey defaultValue ctx hshares
  exact ⟨outcomes, hlength, hanswers, hall ▸ hl⟩

/-! ### What was asked, against what might have been answered -/

/-- Outcomes of all sub-providers that agree with every lookup that was asked for. -/
def Agree (flagKey : String) (defaultValue : FlagValue) (ctx : EvaluationContext)
    (outcomes : List (Outcome (Resolution FlagValue))) (asked : List Asked) : Prop :=
  ∀ a ∈ asked, ∃ outcome, outcomes[a.position]? = some outcome ∧
    a = ⟨a.position, flagKey, defaultValue, ctx, outcome⟩

variable {flagKey defaultValue ctx}

/-- Outcomes agree with the lookups of the first sub-providers exactly if they begin with
theirs. -/
theorem agree_asks_iff {asked outcomes : List (Outcome (Resolution FlagValue))} :
    Agree flagKey defaultValue ctx outcomes (asks flagKey defaultValue ctx 0 asked) ↔
      asked <+: outcomes := by
  rw [List.prefix_iff_getElem?]
  constructor
  · intro h i hi
    have hmem : (⟨i, flagKey, defaultValue, ctx, asked[i]⟩ : Asked) ∈
        asks flagKey defaultValue ctx 0 asked := by
      refine List.mem_map.mpr ⟨(asked[i], i), ?_, rfl⟩
      rw [List.mem_zipIdx_iff_getElem?]
      exact List.getElem?_eq_getElem hi
    obtain ⟨outcome, hget, heq⟩ := h _ hmem
    rw [hget]
    exact (congrArg (fun a => some a.outcome) heq).symm
  · intro h a ha
    obtain ⟨⟨outcome, i⟩, hmem, rfl⟩ := List.mem_map.mp ha
    rw [List.mem_zipIdx_iff_getElem?] at hmem
    obtain ⟨hi, hget⟩ := List.getElem?_eq_some_iff.mp hmem
    exact ⟨outcome, (h i hi).trans (congrArg some hget), rfl⟩

theorem position_asks (asked : List (Outcome (Resolution FlagValue))) :
    (asks flagKey defaultValue ctx 0 asked).map (·.position) = List.range asked.length := by
  rw [asks, List.map_map, List.range_eq_range', ← List.zipIdx_map_snd 0 asked]
  rfl

theorem Agree.perm {outcomes : List (Outcome (Resolution FlagValue))} {asked asked' : List Asked}
    (hperm : asked.Perm asked') (h : Agree flagKey defaultValue ctx outcomes asked) :
    Agree flagKey defaultValue ctx outcomes asked' :=
  fun a ha => h a (hperm.mem_iff.mpr ha)

end Asked

/-! ### The answer -/

/-- What a lookup has to do with the outcomes of the sub-providers: the answer is selected among
all of them; in turn, those are asked who come before the accepted one, and that one; all at once,
every one is asked once. -/
def Selects (m : MultiProvider σ) (accepts : String → String → Resolution FlagValue → Bool)
    (flagKey : String) (defaultValue : FlagValue)
    (outcomes : List (Outcome (Resolution FlagValue))) (r : Resolution FlagValue)
    (asked : List Asked) : Prop :=
  let answers := (m.subs.map (·.name)).zip (outcomes.map (answer defaultValue))
  let accepted := fun a : String × Resolution FlagValue => accepts flagKey a.1 a.2
  r = select accepted (noAnswer defaultValue) answers ∧
    match m.strategy.mode with
    | .sequential =>
      asked.map (·.position) = List.range (min (answers.findIdx accepted + 1) m.subs.length)
    | .parallel => (asked.map (·.position)).Perm (List.range m.subs.length)

variable {m : MultiProvider σ} {accepts : String → String → Resolution FlagValue → Bool}
  {flagKey : String} {defaultValue : FlagValue} {ctx : EvaluationContext}

theorem InTurn.length_le {accepted : String × Resolution FlagValue → Bool}
    {last r : Resolution FlagValue} {names : List String}
    {asked : List (Outcome (Resolution FlagValue))}
    (h : InTurn accepted defaultValue last names asked r) : asked.length ≤ names.length := by
  induction h with
  | nobody => exact Nat.le_refl _
  | taken h => exact Nat.succ_le_succ (Nat.zero_le _)
  | goOn h hrest ih => exact Nat.succ_le_succ ih

/-- Sub-providers that were asked in turn: those who were not asked may have any outcome. -/
theorem selects_of_inTurn (hmode : m.strategy.mode = .sequential)
    {asked : List (Outcome (Resolution FlagValue))} {r : Resolution FlagValue}
    (hturn : InTurn (fun a => accepts flagKey a.1 a.2) defaultValue (noAnswer defaultValue)
      (m.subs.map (·.name)) asked r) :
    (∃ outcomes, outcomes.length = m.subs.length ∧ Agree flagKey defaultValue ctx outcomes
        (asks flagKey defaultValue ctx 0 asked)) ∧
      ∀ outcomes, outcomes.length = m.subs.length →
        Agree flagKey defaultValue ctx outcomes (asks flagKey defaultValue ctx 0 asked) →
          Selects m accepts flagKey defaultValue outcomes r
            (asks flagKey defaultValue ctx 0 asked) := by
  have hlength := hturn.length_le
  rw [List.length_map] at hlength
  constructor
  · refine ⟨asked ++ List.replicate (m.subs.length - asked.length)
      (.returned (noAnswer defaultValue)), ?_, agree_asks_iff.mpr (List.prefix_append _ _)⟩
    rw [List.length_append, List.length_replicate]
    omega
  · intro outcomes houtcomes hagree
    have hnames : outcomes.length = (m.subs.map (·.name)).length := by
      rw [houtcomes, List.length_map]
    obtain ⟨hr, hasked⟩ := hturn.eq_select (agree_asks_iff.mp hagree) hnames
    rw [Selects, hmode]
    refine ⟨hr, ?_⟩
    rw [position_asks, hasked, List.length_map]

/-- Sub-providers that were asked all at once: their outcomes are known. -/
theorem selects_of_all (hmode : m.strategy.mode = .parallel)
    {outcomes : List (Outcome (Resolution FlagValue))} (hlength : outcomes.length = m.subs.length)
    {asked : List Asked} (hasked : asked.Perm (asks flagKey defaultValue ctx 0 outcomes)) :
    (∃ outcomes, outcomes.length = m.subs.length ∧
        Agree flagKey defaultValue ctx outcomes asked) ∧
      ∀ others, others.length = m.subs.length → Agree flagKey defaultValue ctx others asked →
        Selects m accepts flagKey defaultValue others
          (select (fun a => accepts flagKey a.1 a.2) (noAnswer defaultValue)
            ((m.subs.map (·.name)).zip (outcomes.map (answer defaultValue)))) asked := by
  constructor
  · exact ⟨outcomes, hlength, (agree_asks_iff.mpr (List.prefix_refl outcomes)).perm hasked.symm⟩
  · intro others hothers hagree
    have heq : outcomes = others :=
      (agree_asks_iff.mp (hagree.perm hasked)).eq_of_length (hlength.trans hothers.symm)
    rw [Selects, hmode, heq]
    refine ⟨rfl, (hasked.map _).trans ?_⟩
    rw [position_asks, hlength]

/-- The sub-providers keep their names when they are overheard. -/
theorem names_overheard (m : MultiProvider σ) (answers : List (Resolution FlagValue)) :
    (m.overheard.subs.zip answers).map (fun a => (a.1.name, a.2)) =
      (m.subs.map (·.name)).zip answers := by
  have hnames : m.overheard.subs.map (·.name) = m.subs.map (·.name) := by
    rw [overheard, List.map_map]
    change m.subs.zipIdx.map ((·.name) ∘ Prod.fst) = _
    rw [← List.map_map, List.zipIdx_map_fst]
  rw [← hnames, List.zip_map_left]
  rfl

/-- An overheard lookup selects its answer in both modes. -/
theorem overheard_selects (journal : Journal σ) (m : MultiProvider σ)
    (accepts : String → String → Resolution FlagValue → Bool) (h : Decides m.strategy accepts)
    (flagKey : String) (defaultValue : FlagValue) (ctx : EvaluationContext) (s : σ) :
    (m.overheard.resolveValue (overhearJournal journal) flagKey defaultValue ctx).Ensures
      (Cell.first _ _).Confined
      (fun r p =>
        (∃ outcomes, outcomes.length = m.subs.length ∧
          Agree flagKey defaultValue ctx outcomes p.2) ∧
        ∀ outcomes, outcomes.length = m.subs.length → Agree flagKey defaultValue ctx outcomes p.2 →
          Selects m accepts flagKey defaultValue outcomes r p.2) (s, []) := by
  suffices hcontributes : Contributes
      (fun r asked =>
        (∃ outcomes, outcomes.length = m.subs.length ∧
          Agree flagKey defaultValue ctx outcomes asked) ∧
        ∀ outcomes, outcomes.length = m.subs.length →
          Agree flagKey defaultValue ctx outcomes asked →
            Selects m accepts flagKey defaultValue outcomes r asked)
      (m.overheard.resolveValue (overhearJournal journal) flagKey defaultValue ctx) from
    hcontributes.ensures s
  have hoverheard : m.overheard.strategy.mode = m.strategy.mode := rfl
  unfold resolveValue
  rw [hoverheard]
  cases hmode : m.strategy.mode with
  | sequential =>
    refine (resolveInTurn_contributes journal flagKey defaultValue ctx h m.subs 0 _).mono ?_
    rintro r _ ⟨asked, rfl, hturn⟩
    exact selects_of_inTurn hmode hturn
  | parallel =>
    refine (askAll_contributes journal flagKey defaultValue ctx m.subs).bind ?_
    rintro _ asked ⟨outcomes, hlength, rfl, hasked⟩
    have hdecides : Decides m.overheard.strategy accepts := h.overhear
    rw [choose_eq_select hdecides, names_overheard]
    refine contributes_done ?_
    rw [List.append_nil]
    exact selects_of_all hmode hlength hasked

/-- **The answer is the selected one in both modes, and those are asked who have to be.**  Some
outcomes of all sub-providers agree with the lookups that were asked for, and for all that do, the
answer is selected among them, whatever the outcomes of those who were not asked.  A sub-provider
that fails or panics answers with the default and its error, and without sub-providers that is the
answer.  The lookup makes the same moves whether it is overheard or not. -/
theorem resolveValue_selects (journal : Journal σ) (m : MultiProvider σ)
    (accepts : String → String → Resolution FlagValue → Bool) (h : Decides m.strategy accepts)
    (flagKey : String) (defaultValue : FlagValue) (ctx : EvaluationContext) (s : σ) :
    Task.Mimics True Eq
        (m.overheard.resolveValue (overhearJournal journal) flagKey defaultValue ctx)
        (m.resolveValue journal flagKey defaultValue ctx) ∧
      (∀ r, answer defaultValue (.returned r) = r) ∧
      (∀ e, answer defaultValue (.failed e) =
        { value := defaultValue
          variant := none
          reason := some .error
          metadata := .empty
          errorCode := some e.code
          errorMessage := e.message }) ∧
      (∀ p, answer defaultValue (.panicked p) =
        { value := defaultValue
          variant := none
          reason := some .error
          metadata := .empty
          errorCode := some .general
          errorMessage := some p.message }) ∧
      noAnswer defaultValue =
        { value := defaultValue
          variant := none
          reason := some .error
          metadata := .empty
          errorCode := some .general
          errorMessage := some "No provider returned a result" } ∧
      (m.overheard.resolveValue (overhearJournal journal) flagKey defaultValue ctx).Ensures
        (Cell.first _ _).Confined
        (fun r p =>
          (∃ outcomes, outcomes.length = m.subs.length ∧
            Agree flagKey defaultValue ctx outcomes p.2) ∧
          ∀ outcomes, outcomes.length = m.subs.length →
            Agree flagKey defaultValue ctx outcomes p.2 →
              Selects m accepts flagKey defaultValue outcomes r p.2) (s, []) := by
  refine ⟨resolveValue_mimics journal flagKey defaultValue ctx m, fun r => rfl, fun e => rfl, ?_,
    rfl, overheard_selects journal m accepts h flagKey defaultValue ctx s⟩
  intro p
  have hmessage : "" ++ p.message = p.message := String.empty_append
  exact congrArg (fun message => Resolution.ofError defaultValue (.general message)) hmessage

/-- A sub-provider that does nothing but answer lookups. -/
def answering (name : String) (resolve : ∀ t : FlagType, t.Carrier →
    Task Unit (Outcome (Resolution t.Carrier))) : SubProvider Unit where
  name := name
  provider :=
    { NoOp.provider Unit with resolve := fun t _ defaultValue _ => resolve t defaultValue }

/-- A sub-provider that fails, one that waits before it answers and one that answers at once, all
asked at once. -/
def threeSubProviders : MultiProvider Unit where
  id := .application 0
  subs :=
    [answering "failing" fun _ _ => .done (.failed (.general "down")),
      answering "slow" fun _ defaultValue => .suspend (.done (.returned (.ofValue defaultValue))),
      answering "quick" fun _ defaultValue => .done (.returned (NoOp.answer defaultValue))]
  strategy := .firstSuccessful Unit
  hooks := []

/-- The lookup of the slow sub-provider ends last, and its answer is the selected one. -/
theorem selects_slow :
    let journal : Journal Unit := fun _ s => s
    let ended := (threeSubProviders.overheard.resolveValue (overhearJournal journal) "flag"
      (.bool true) .empty).run ((), [])
    ended.2.2.map (·.position) = [0, 2, 1] ∧ ended.1 = .ofValue (.bool true) ∧
      ∃ outcomes, outcomes.length = 3 ∧
        Selects threeSubProviders (fun _ _ r => !r.isError) "flag" (.bool true) outcomes ended.1
          ended.2.2 := by
  intro journal ended
  obtain ⟨-, -, -, -, -, hensures⟩ :=
    resolveValue_selects journal threeSubProviders (fun _ _ r => !r.isError) (fun _ _ _ => rfl)
      "flag" (.bool true) .empty ()
  obtain ⟨⟨outcomes, hlength, hagree⟩, hselects⟩ :=
    Task.run_of_ensures (fun p => ⟨p.1, rfl⟩) hensures
  exact ⟨rfl, rfl, outcomes, hlength, hselects outcomes hlength hagree⟩

end MultiProvider

end FeatureFlags
