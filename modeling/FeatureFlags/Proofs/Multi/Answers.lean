import FeatureFlags.Proofs.Evaluation.Answered
import FeatureFlags.Proofs.Multi.Selection
import FeatureFlags.Proofs.Task.Rely

/-!
# The answer that no error precedes

The strategies of the library take the first answer that is no error.  Whatever the sub-providers
are called, this is the answer after a run of errors, or else the last error; and whoever gives it
has been asked.  A sub-provider answers through a resolver of the type of the default, so what it
answers is of that type, though not always valid for it.

## Main definitions

* `MultiProvider.TakesSound` — a strategy that takes the first answer that is no error.
* `MultiProvider.Asked.Typed` — a lookup whose answer is of the type of its default.
* `MultiProvider.Found` — what a lookup has found, among outcomes that go with it.

## Main results

* `MultiProvider.resolveValue_guarantees` — a lookup changes what its sub-providers change.
* `MultiProvider.resolveValue_found` — **the answer after a run of errors is the one that is
  found.**
-/

namespace FeatureFlags

namespace MultiProvider

open FeatureFlags.Task (Guarantees guarantees_all guarantees_confined guarantees_done
  guarantees_modify)
open Multi (Strategy SubProvider)

variable {σ : Type}

/-! ### What a lookup changes -/

section Changes

variable {step : σ → σ → Prop} {journal : Journal σ} {strategy : Strategy σ} {flagKey : String}
  {defaultValue : FlagValue} {ctx : EvaluationContext}
  (hjournal : ∀ entry s, step s (journal entry s))
  (haccepts : ∀ sub r, (strategy.accepts flagKey sub r).Guarantees step)

include hjournal in
theorem consult_guarantees {sub : SubProvider σ}
    (h : (sub.provider.resolveValue flagKey defaultValue ctx).Guarantees step) :
    (consult journal flagKey defaultValue ctx sub).Guarantees step := by
  refine h.bind fun outcome => ?_
  cases outcome.toExcept with
  | ok r => exact guarantees_done r
  | error e => exact (guarantees_modify (hjournal _)).bind fun _ => guarantees_done _

include haccepts in
theorem resolveInTurn_guarantees {ask : SubProvider σ → Task σ (Resolution FlagValue)}
    {subs : List (SubProvider σ)} (hask : ∀ sub ∈ subs, (ask sub).Guarantees step)
    (last : Resolution FlagValue) :
    (resolveInTurn strategy flagKey ask last subs).Guarantees step := by
  induction subs generalizing last with
  | nil => exact guarantees_done last
  | cons sub rest ih =>
    obtain ⟨hsub, hrest⟩ := List.forall_mem_cons.mp hask
    refine hsub.bind fun r => (haccepts sub.name r).bind fun accepted => ?_
    cases accepted with
    | true => exact guarantees_done r
    | false => exact ih hrest r

include haccepts in
theorem choose_guarantees (last : Resolution FlagValue)
    (answers : List (SubProvider σ × Resolution FlagValue)) :
    (choose strategy flagKey last answers).Guarantees step := by
  induction answers generalizing last with
  | nil => exact guarantees_done last
  | cons a rest ih =>
    obtain ⟨sub, r⟩ := a
    refine (haccepts sub.name r).bind fun accepted => ?_
    cases accepted with
    | true => exact guarantees_done r
    | false => exact ih r

include hjournal in
/-- **A lookup changes the state as its sub-providers, its strategy and its reports do.** -/
theorem resolveValue_guarantees {m : MultiProvider σ}
    (haccepts : ∀ sub r, (m.strategy.accepts flagKey sub r).Guarantees step)
    (hsubs : ∀ sub ∈ m.subs,
      (sub.provider.resolveValue flagKey defaultValue ctx).Guarantees step) :
    (m.resolveValue journal flagKey defaultValue ctx).Guarantees step := by
  have hask : ∀ sub ∈ m.subs, (consult journal flagKey defaultValue ctx sub).Guarantees step :=
    fun sub hsub => consult_guarantees hjournal (hsubs sub hsub)
  unfold resolveValue
  cases m.strategy.mode with
  | sequential => exact resolveInTurn_guarantees haccepts hask _
  | parallel =>
    refine Guarantees.bind (guarantees_all fun t ht => ?_) fun answers => ?_
    · obtain ⟨sub, hsub, rfl⟩ := List.mem_map.mp ht
      exact hask sub hsub
    · exact choose_guarantees haccepts _ _

end Changes

/-! ### Answers are of the type of the default -/

/-- A lookup whose answer, if there is one, is of the type of its default. -/
def Asked.Typed (a : Asked) : Prop :=
  ∀ r, a.outcome = .returned r → r.value.type = a.defaultValue.type

/-- Lookups are noted, all of them with an answer of the type of the default. -/
def NotesTyped (p p' : Overheard σ) : Prop :=
  ∃ new, p'.2 = p.2 ++ new ∧ ∀ a ∈ new, a.Typed

theorem NotesTyped.of_eq {p p' : Overheard σ} (h : p'.2 = p.2) : NotesTyped p p' :=
  ⟨[], by rw [h, List.append_nil], fun _ ha => absurd ha List.not_mem_nil⟩

theorem NotesTyped.trans {p p' p'' : Overheard σ} (h : NotesTyped p p')
    (h' : NotesTyped p' p'') : NotesTyped p p'' := by
  obtain ⟨new, hnew, htyped⟩ := h
  obtain ⟨new', hnew', htyped'⟩ := h'
  refine ⟨new ++ new', by rw [hnew', hnew, List.append_assoc], ?_⟩
  intro a ha
  rcases List.mem_append.mp ha with ha | ha
  · exact htyped a ha
  · exact htyped' a ha

/-- A task over the state notes nothing. -/
theorem guarantees_within {α : Type} (t : Task σ α) :
    Guarantees NotesTyped (t.within (Cell.first σ (List Asked))) := by
  refine (guarantees_confined t).mono ?_
  rintro p _ ⟨s, rfl⟩
  exact .of_eq rfl

/-- What a resolver of a flag type answers is of that type. -/
theorem typed_of_resolver {t : FlagType} (position : Nat) (flagKey : String) (fallback : t.Carrier)
    (ctx : EvaluationContext) (outcome : Outcome (Resolution t.Carrier)) :
    Asked.Typed ⟨position, flagKey, .ofCarrier t fallback, ctx,
      outcome.map (Resolution.map (FlagValue.ofCarrier t))⟩ := by
  intro r hr
  cases outcome with
  | returned answer =>
    have hvalue : r = answer.map (FlagValue.ofCarrier t) := (Outcome.returned.inj hr).symm
    rw [hvalue, FlagValue.type_ofCarrier]
    exact FlagValue.type_ofCarrier t _
  | failed e => cases hr
  | panicked p => cases hr

/-- A sub-provider that is overheard notes its lookup. -/
theorem overhearSub_guarantees (sub : SubProvider σ) (position : Nat) (flagKey : String)
    (defaultValue : FlagValue) (ctx : EvaluationContext) :
    ((overhearSub sub position).provider.resolveValue flagKey defaultValue ctx).Guarantees
      NotesTyped := by
  refine Guarantees.bind ?_ fun outcome => guarantees_done _
  refine (guarantees_within (sub.provider.resolve _ _ _ _)).bind fun outcome => ?_
  refine Guarantees.bind (guarantees_modify fun p => ?_) fun _ => guarantees_done outcome
  refine ⟨[_], rfl, fun a ha => ?_⟩
  rw [List.mem_singleton.mp ha]
  exact typed_of_resolver position flagKey defaultValue.payload ctx outcome

/-- **All lookups of a multi-provider are typed.** -/
theorem resolveValue_typed (journal : Journal σ) (m : MultiProvider σ) (flagKey : String)
    (defaultValue : FlagValue) (ctx : EvaluationContext) (s : σ) :
    (m.overheard.resolveValue (overhearJournal journal) flagKey defaultValue ctx).Ensures
      (Cell.first _ _).Confined (fun _ p => ∀ a ∈ p.2, a.Typed) (s, []) := by
  have hall : (m.overheard.resolveValue (overhearJournal journal) flagKey defaultValue
      ctx).Guarantees NotesTyped := by
    refine resolveValue_guarantees (fun _ _ => .of_eq rfl) (fun _ _ => guarantees_within _) ?_
    intro sub hsub
    obtain ⟨⟨plain, position⟩, -, rfl⟩ := List.mem_map.mp hsub
    exact overhearSub_guarantees plain position flagKey defaultValue ctx
  have hensures := hall.ensures (fun _ => .of_eq rfl) (fun h h' => h.trans h') (s, [])
  refine (hensures.of_others ?_).mono ?_
  · rintro p _ ⟨s', rfl⟩
    exact .of_eq rfl
  · rintro _ p ⟨new, hnew, htyped⟩
    rw [hnew]
    exact htyped

/-! ### The first answer that is no error -/

/-- A strategy that takes the first answer that is no error. -/
abbrev TakesSound (strategy : Strategy σ) : Prop := Decides strategy fun _ _ r => !r.isError

/-- The strategies of the library do. -/
theorem takesSound_of_strategy {m : MultiProvider σ}
    (h : m.strategy = .firstMatch σ ∨ m.strategy = .firstSuccessful σ) :
    TakesSound m.strategy := by
  rcases h with h | h
  all_goals
    rw [h]
    exact fun _ _ _ => rfl

/-- Names have no part in a choice that does not look at them: the answer after those that are not
accepted is selected, if it is accepted itself or the last one. -/
theorem select_zip {accepted : Resolution FlagValue → Bool} {names : List String}
    {earlier later : List (Resolution FlagValue)} {r : Resolution FlagValue}
    (hlength : names.length = (earlier ++ r :: later).length)
    (hearlier : ∀ x ∈ earlier, accepted x = false) (hr : accepted r = true ∨ later = [])
    (last : Resolution FlagValue) :
    select (fun a => accepted a.2) last (names.zip (earlier ++ r :: later)) = r := by
  induction earlier generalizing names last with
  | nil =>
    obtain ⟨name, names, rfl⟩ : ∃ name rest, names = name :: rest :=
      List.exists_cons_of_length_eq_add_one hlength
    rw [List.nil_append, List.zip_cons_cons]
    cases haccepted : accepted r with
    | true => exact select_cons_of_accepted haccepted ..
    | false =>
      rw [select_cons_of_not haccepted]
      rcases hr with hr | rfl
      · rw [haccepted] at hr
        exact absurd hr Bool.false_ne_true
      · rw [List.zip_nil_right, select_nil]
  | cons x earlier ih =>
    obtain ⟨name, names, rfl⟩ : ∃ name rest, names = name :: rest :=
      List.exists_cons_of_length_eq_add_one hlength
    obtain ⟨hx, hearlier⟩ := List.forall_mem_cons.mp hearlier
    rw [List.cons_append, List.zip_cons_cons, select_cons_of_not hx]
    exact ih (Nat.succ.inj hlength) hearlier x

/-- Those who are not accepted come before the first one that is. -/
theorem le_findIdx_zip {accepted : Resolution FlagValue → Bool} {names : List String}
    {earlier : List (Resolution FlagValue)} (hlength : earlier.length ≤ names.length)
    (hearlier : ∀ x ∈ earlier, accepted x = false) (later : List (Resolution FlagValue)) :
    earlier.length ≤ (names.zip (earlier ++ later)).findIdx fun a => accepted a.2 := by
  induction earlier generalizing names with
  | nil => exact Nat.zero_le _
  | cons x earlier ih =>
    obtain ⟨name, names, rfl⟩ : ∃ name rest, names = name :: rest := by
      cases names with
      | nil => exact absurd hlength (by simp)
      | cons name names => exact ⟨name, names, rfl⟩
    obtain ⟨hx, hearlier⟩ := List.forall_mem_cons.mp hearlier
    rw [List.cons_append, List.zip_cons_cons, List.findIdx_cons]
    rw [hx, cond_false, List.length_cons]
    exact Nat.succ_le_succ (ih (Nat.le_of_succ_le_succ hlength) hearlier)

section Found

variable {m : MultiProvider σ} {flagKey : String} {defaultValue : FlagValue}
  {ctx : EvaluationContext} {earlier later : List (Outcome (Resolution FlagValue))}
  {outcome : Outcome (Resolution FlagValue)} {r : Resolution FlagValue} {asked : List Asked}

/-- The answer after a run of errors is selected, if it is no error or the last one, and whoever
gives it has been asked. -/
theorem Selects.of_errors
    (h : Selects m (fun _ _ r => !r.isError) flagKey defaultValue (earlier ++ outcome :: later) r
      asked)
    (hlength : (earlier ++ outcome :: later).length = m.subs.length)
    (hearlier : ∀ o ∈ earlier, (answer defaultValue o).isError = true)
    (houtcome : (answer defaultValue outcome).isError = false ∨ later = []) :
    r = answer defaultValue outcome ∧ earlier.length ∈ asked.map (·.position) := by
  have hnames : (m.subs.map (·.name)).length =
      (earlier.map (answer defaultValue) ++
        answer defaultValue outcome :: later.map (answer defaultValue)).length := by
    simpa using hlength.symm
  have herrors : ∀ x ∈ earlier.map (answer defaultValue), (!x.isError) = false := by
    intro x hx
    obtain ⟨o, ho, rfl⟩ := List.mem_map.mp hx
    rw [hearlier o ho]
    rfl
  have hlast : (!(answer defaultValue outcome).isError) = true ∨
      later.map (answer defaultValue) = [] := by
    rcases houtcome with houtcome | rfl
    · exact .inl (by rw [houtcome]; rfl)
    · exact .inr rfl
  obtain ⟨hr, hasked⟩ := h
  rw [List.map_append, List.map_cons] at hr hasked
  constructor
  · rw [hr]
    exact select_zip hnames herrors hlast _
  · have hposition : earlier.length < m.subs.length := by
      rw [← hlength]
      simp
    cases hmode : m.strategy.mode with
    | sequential =>
      have hnames' : (earlier.map (answer defaultValue)).length ≤ (m.subs.map (·.name)).length := by
        simpa using Nat.le_of_lt hposition
      have hbefore := le_findIdx_zip hnames' herrors
        (answer defaultValue outcome :: later.map (answer defaultValue))
      rw [List.length_map] at hbefore
      rw [hmode] at hasked
      rw [hasked, List.mem_range]
      exact Nat.lt_min.mpr ⟨Nat.lt_succ_of_le hbefore, hposition⟩
    | parallel =>
      rw [hmode] at hasked
      exact hasked.mem_iff.mpr (List.mem_range.mpr hposition)

/-- What a sub-provider that has been asked answers is of the type of the default, and so is the
default. -/
theorem Agree.type_answer
    (hagree : Agree flagKey defaultValue ctx (earlier ++ outcome :: later) asked)
    (htyped : ∀ a ∈ asked, a.Typed) (hasked : earlier.length ∈ asked.map (·.position)) :
    (answer defaultValue outcome).value.type = defaultValue.type := by
  obtain ⟨a, ha, hposition⟩ := List.mem_map.mp hasked
  obtain ⟨outcome', hget, heq⟩ := hagree a ha
  rw [hposition, List.getElem?_append_right (Nat.le_refl _), Nat.sub_self,
    List.getElem?_cons_zero] at hget
  have houtcome : a.outcome = outcome := by
    rw [heq]
    exact (Option.some.inj hget).symm
  have hdefault : a.defaultValue = defaultValue := by rw [heq]
  rw [answer]
  cases hend : outcome.toExcept with
  | error e => rfl
  | ok r =>
    have hreturned := houtcome.trans (Outcome.toExcept_eq_ok_iff.mp hend)
    exact hdefault ▸ htyped a ha r hreturned

/-- What a lookup has found.  Some outcomes of all sub-providers go with the lookups that were
asked for; and of all that do, the answer after a run of errors is found, if it is no error or the
last one. -/
def Found (m : MultiProvider σ) (flagKey : String) (defaultValue : FlagValue)
    (ctx : EvaluationContext) (r : Resolution FlagValue) (asked : List Asked) : Prop :=
  (∃ outcomes, outcomes.length = m.subs.length ∧ Agree flagKey defaultValue ctx outcomes asked) ∧
    ∀ earlier outcome later, (earlier ++ outcome :: later).length = m.subs.length →
      Agree flagKey defaultValue ctx (earlier ++ outcome :: later) asked →
        (∀ o ∈ earlier, (answer defaultValue o).isError = true) →
          ((answer defaultValue outcome).isError = false ∨ later = []) →
            r = answer defaultValue outcome ∧ r.value.type = defaultValue.type

/-- **The answer after a run of errors is the one that is found**, whichever way the sub-providers
are asked, and it is of the type of the default. -/
theorem resolveValue_found (journal : Journal σ) {m : MultiProvider σ} (h : TakesSound m.strategy)
    (flagKey : String) (defaultValue : FlagValue) (ctx : EvaluationContext) (s : σ) :
    (m.overheard.resolveValue (overhearJournal journal) flagKey defaultValue ctx).Ensures
      (Cell.first _ _).Confined (fun r p => Found m flagKey defaultValue ctx r p.2) (s, []) := by
  have hselects := overheard_selects journal m _ h flagKey defaultValue ctx s
  have htyped := resolveValue_typed journal m flagKey defaultValue ctx s
  refine (hselects.and htyped).mono ?_
  rintro r p ⟨⟨hsome, hall⟩, htyped⟩
  refine ⟨hsome, fun earlier outcome later hlength hagree hearlier houtcome => ?_⟩
  obtain ⟨hr, hasked⟩ := (hall _ hlength hagree).of_errors hlength hearlier houtcome
  exact ⟨hr, hr ▸ hagree.type_answer htyped hasked⟩

end Found

end MultiProvider

end FeatureFlags
