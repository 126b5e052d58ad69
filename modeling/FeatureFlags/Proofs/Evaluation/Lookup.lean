import FeatureFlags.Proofs.Evaluation.Keeping
import FeatureFlags.Proofs.Evaluation.Watched

/-!
# What is known of a lookup

The resolver may know more of its lookup than how it ended: how the outcome goes together with
what the lookup left in the state.  Hooks, reports and others come between the lookup and the end
of the evaluation.  If they all keep to changes of one kind, and what is known does not suffer
from these, it is still known at the end.

## Main definitions

* `Evaluation.Aside step` — a change of a watched state that makes no lookup.
* `Evaluation.Known K` — something is known of every lookup.

## Main results

* `Evaluation.run_known` — **what the resolver ensures of its lookup is known at the end.**
-/

namespace FeatureFlags

open FeatureFlags.Task (Beside Guarantees guarantees_done guarantees_modify)

variable {σ α : Type}

namespace Evaluation

/-! ### Watched evaluations -/

/-- A change of a watched state that changes the state along `step` and makes no lookup. -/
def Aside (step : σ → σ → Prop) (p p' : Watched σ) : Prop :=
  step p.1 p'.1 ∧ ∃ calls, p'.2 = p.2 ++ calls ∧ ∀ call ∈ calls, call.step ≠ .lookup

/-- Something is known of every lookup that has been made. -/
def Known (K : Call → σ → Prop) (p : Watched σ) : Prop :=
  ∀ call ∈ p.2, call.step = .lookup → K call p.1

section Watched

variable {step : σ → σ → Prop}

theorem Aside.of_beside {p p' : Watched σ} (h : Beside step p p') : Aside step p p' := by
  refine ⟨h.1, [], ?_, fun _ hcall => absurd hcall List.not_mem_nil⟩
  rw [h.2, List.append_nil]

theorem aside_refl (hrefl : ∀ s, step s s) (p : Watched σ) : Aside step p p :=
  .of_beside ⟨hrefl p.1, rfl⟩

theorem aside_trans (step : σ → σ → Prop)
    (htrans : ∀ {s s' s''}, step s s' → step s' s'' → step s s'') {p p' p'' : Watched σ}
    (h : Aside step p p') (h' : Aside step p' p'') : Aside step p p'' := by
  obtain ⟨hs, calls, hcalls, hnone⟩ := h
  obtain ⟨hs', more, hmore, hnone'⟩ := h'
  refine ⟨htrans hs hs', calls ++ more, ?_, ?_⟩
  · rw [hmore, hcalls, List.append_assoc]
  · intro call hcall
    rcases List.mem_append.mp hcall with hcall | hcall
    · exact hnone call hcall
    · exact hnone' call hcall

/-- What is known of lookups stays known when others are aside, if it does not suffer from what
they do to the state. -/
theorem Known.aside {K : Call → σ → Prop} (hK : ∀ call s s', K call s → step s s' → K call s')
    {p p' : Watched σ} (h : Known K p) (hp : Aside step p p') : Known K p' := by
  obtain ⟨hs, calls, hcalls, hnone⟩ := hp
  intro call hcall hlookup
  rw [hcalls] at hcall
  rcases List.mem_append.mp hcall with hcall | hcall
  · exact hK call p.1 p'.1 (h call hcall hlookup) hs
  · exact absurd hlookup (hnone call hcall)

/-- A task whose call is noted makes no lookup, if that is none. -/
theorem guarantees_note (hrefl : ∀ s, step s s) {t : Task σ α} (h : t.Guarantees step)
    {describe : α → Call} (hdescribe : ∀ a, (describe a).step ≠ .lookup) :
    Guarantees (Aside step)
      ((t.within (Cell.first σ (List Call))).bind fun a =>
        (note (describe a)).bind fun _ => .done a) := by
  refine Guarantees.bind (h.within_first.mono fun _ _ => Aside.of_beside) fun a => ?_
  refine Guarantees.bind (guarantees_modify fun p => ?_) fun _ => guarantees_done a
  refine ⟨hrefl p.1, [describe a], rfl, ?_⟩
  intro call hcall
  rw [List.mem_singleton.mp hcall]
  exact hdescribe a

/-- A hook keeps to a kind of change when it is watched, and makes no lookup. -/
theorem keeps_watched (hrefl : ∀ s, step s s) {hook : Hook σ} (h : hook.Keeps step)
    (position : Nat) : (hook.watched position).Keeps (Aside step) where
  before ctx hints data := guarantees_note hrefl (h.before ctx hints data) fun _ => Step.noConfusion
  after ctx details hints data :=
    guarantees_note hrefl (h.after ctx details hints data) fun _ => Step.noConfusion
  error ctx err hints data :=
    guarantees_note hrefl (h.error ctx err hints data) fun _ => Step.noConfusion
  finish ctx hints data := guarantees_note hrefl (h.finish ctx hints data) fun _ => Step.noConfusion

theorem keeps_watchedAll (hrefl : ∀ s, step s s) {hooks : List (Hook σ)}
    (h : ∀ hook ∈ hooks, hook.Keeps step) :
    ∀ hook ∈ Hook.watchedAll hooks, hook.Keeps (Aside step) := by
  intro watched hwatched
  obtain ⟨⟨hook, position⟩, hmem, rfl⟩ := List.mem_map.mp hwatched
  exact keeps_watched hrefl (h hook (List.fst_mem_of_mem_zipIdx hmem)) position

/-- The resolver makes the one lookup there is. -/
theorem resolveValue_known {K : Call → σ → Prop} {p : Provider σ} {flagKey : String}
    {defaultValue : FlagValue} {ctx : EvaluationContext} {q : Watched σ}
    (hresolve : (p.resolveValue flagKey defaultValue ctx).Ensures step
      (fun outcome s => K (.lookup flagKey defaultValue ctx outcome) s) q.1)
    (hnone : ∀ call ∈ q.2, call.step ≠ .lookup) :
    (p.watched.resolveValue flagKey defaultValue ctx).Ensures (Beside step)
      (fun _ q' => Known K q') q := by
  rw [Provider.resolveValue, Task.bind_def, Task.ensures_bind] at hresolve ⊢
  refine (Task.ensures_bind _ _ _ _).mpr ?_
  refine hresolve.within_first.mono ?_
  rintro outcome q₁ ⟨houtcome, hnotes⟩
  intro call hcall hlookup
  dsimp only at hcall ⊢
  rw [hnotes] at hcall
  rcases List.mem_append.mp hcall with hcall | hcall
  · exact absurd hlookup (hnone call hcall)
  · rw [List.mem_singleton.mp hcall, FlagValue.ofCarrier_payload]
    exact houtcome

variable {e : Evaluation σ} {journal : Journal σ} {K : Call → σ → Prop} {start : σ}
  (hrefl : ∀ s, step s s) (htrans : ∀ {s s' s''}, step s s' → step s' s'' → step s s'')
  (hjournal : ∀ entry s, step s (journal entry s))
  (hK : ∀ call s s', K call s → step s s' → K call s')
  (hresolve : ∀ ctx s, step start s →
    (e.provider.resolveValue e.flagKey e.defaultValue ctx).Ensures step
      (fun outcome s' => K (.lookup e.flagKey e.defaultValue ctx outcome) s') s)

include hjournal in
theorem journal_aside (entry : LogEntry) (p : Watched σ) :
    Aside step p (journal.watched entry p) :=
  .of_beside ⟨hjournal entry p.1, rfl⟩

include hrefl htrans hjournal hK hresolve in
theorem attempt_known {chain : HookChain (Watched σ)} (hchain : Keeping (Aside step) chain)
    {s : σ} (hs : step start s) :
    (e.watched.attempt journal.watched chain).Ensures (Beside step)
      (fun tried q => Keeping (Aside step) tried.chain ∧ Known K q) (s, []) := by
  have hnothing : Known K (s, []) := fun _ hcall => absurd hcall List.not_mem_nil
  rw [attempt]
  by_cases hkind : e.watched.defaultValue.type ≠ e.watched.flagType
  · rw [if_pos hkind]
    exact ⟨hchain, hnothing⟩
  rw [if_neg hkind, Task.bind_def, Task.ensures_bind]
  refine (((runBefore_abides (journal_aside hjournal) _ hchain _ _ _).ensures (aside_refl hrefl)
    (aside_trans step htrans) _).of_others fun _ _ => Aside.of_beside).mono ?_
  rintro ⟨after, ctx, given⟩ q ⟨hkeeping, hq⟩
  cases given with
  | error err => exact ⟨hkeeping, hnothing.aside hK hq⟩
  | ok given =>
    obtain ⟨hstep, calls, hcalls, hnone⟩ := hq
    rw [List.nil_append] at hcalls
    dsimp only
    rw [Task.bind_def, Task.ensures_bind]
    refine Task.Ensures.mono (resolveValue_known (hresolve _ q.1 (htrans hs hstep))
      (hcalls ▸ hnone)) ?_
    intro outcome q₁ hknown
    cases outcome.toExcept.bind e.watched.accept with
    | error err => exact ⟨hkeeping, hknown⟩
    | ok details =>
      dsimp only
      rw [Task.bind_def, Task.ensures_bind]
      refine (((runAfter_abides _ hkeeping ctx details).ensures (aside_refl hrefl)
        (aside_trans step htrans) q₁).of_others fun _ _ => Aside.of_beside).mono ?_
      rintro ⟨final, result⟩ q₂ ⟨hfinal, hq₂⟩
      exact ⟨hfinal, hknown.aside hK hq₂⟩

include hrefl htrans hjournal in
/-- The stages that close an evaluation make no lookup. -/
theorem runFinish_aside (hints : HookHints) (ctx : HookContext) {chain : HookChain (Watched σ)}
    (hchain : Keeping (Aside step) chain) (p : Watched σ) :
    (chain.runFinish journal.watched hints ctx).Ensures (Beside step)
      (fun _ q => Aside step p q) p := by
  refine (((runFinish_abides (journal_aside hjournal) hints ctx hchain).ensures (aside_refl hrefl)
    (aside_trans step htrans) p).of_others fun _ _ => Aside.of_beside).mono ?_
  exact fun _ _ h => h.2

include hrefl htrans hjournal in
theorem closing_aside (hints : HookHints) (ctx : HookContext) (err : EvaluationError) (result : α)
    {chain : HookChain (Watched σ)} (hchain : Keeping (Aside step) chain) (p : Watched σ) :
    Task.Ensures (Beside step)
      (do
        let chain ← chain.runError journal.watched hints ctx err
        let _ ← chain.runFinish journal.watched hints ctx
        return result)
      (fun _ q => Aside step p q) p := by
  rw [Task.bind_def, Task.ensures_bind]
  refine (((runError_abides (journal_aside hjournal) hints ctx err hchain).ensures
    (aside_refl hrefl) (aside_trans step htrans) p).of_others fun _ _ => Aside.of_beside).mono ?_
  rintro after q ⟨hafter, hq⟩
  rw [Task.bind_def, Task.ensures_bind]
  refine (runFinish_aside hrefl htrans hjournal hints ctx hafter q).mono ?_
  exact fun _ _ hq' => aside_trans step htrans hq hq'

include hrefl htrans hjournal hK hresolve in
theorem runWith_known {chain : HookChain (Watched σ)} (hchain : Keeping (Aside step) chain) :
    (e.watched.runWith journal.watched chain).Ensures (Beside step)
      (fun _ q => Known K q) (start, []) := by
  have hnothing : ∀ s, Known K (s, []) := fun _ _ hcall => absurd hcall List.not_mem_nil
  rw [runWith, Task.bind_def, Task.ensures_bind]
  refine (Task.ensures_modify _ _ _).mpr ?_
  cases e.watched.status.shortCircuitCode? with
  | some code =>
    refine (closing_aside hrefl htrans hjournal e.hints _ _ _ hchain _).mono ?_
    exact fun _ _ hq => (hnothing _).aside hK hq
  | none =>
    dsimp only
    rw [Task.bind_def, Task.ensures_bind]
    refine (attempt_known hrefl htrans hjournal hK hresolve hchain (hjournal _ start)).mono ?_
    rintro ⟨after, ctx, result⟩ q ⟨hafter, hknown⟩
    cases result with
    | ok details =>
      dsimp only
      rw [Task.bind_def, Task.ensures_bind]
      refine (runFinish_aside hrefl htrans hjournal e.hints ctx hafter q).mono ?_
      exact fun _ _ hq => hknown.aside hK hq
    | error err =>
      dsimp only
      rw [Task.bind_def, Task.ensures_bind]
      refine (Task.ensures_modify _ _ _).mpr ?_
      refine (closing_aside hrefl htrans hjournal e.hints ctx err _ hafter _).mono ?_
      intro _ _ hq
      exact (hknown.aside hK (journal_aside hjournal _ q)).aside hK hq

include hrefl htrans hjournal hK hresolve in
/-- **What the resolver ensures of its lookup is known at the end**, whatever hooks and others do
that keeps to the same kind of change. -/
theorem run_known (hhooks : ∀ hook ∈ e.hooks, hook.Keeps step) :
    (e.watched.run journal.watched).Ensures (Beside step) (fun _ q => Known K q) (start, []) := by
  rw [run]
  cases hselect : HookChain.select e.watched.flagType e.watched.hooks with
  | error panic => exact fun _ hcall => absurd hcall List.not_mem_nil
  | ok chain =>
    have hchain : Keeping (Aside step) chain :=
      forall_of_select (keeps_watchedAll hrefl hhooks) hselect
    exact (Task.ensures_map _ _ _ _).mpr
      (runWith_known hrefl htrans hjournal hK hresolve hchain)

end Watched

end Evaluation

end FeatureFlags
