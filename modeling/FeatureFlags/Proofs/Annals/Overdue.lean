import FeatureFlags.Proofs.Annals.Status

/-!
# Starts that outlive their lifetime

An instance that is bound again may still have a start under way from before.  The outcome of that
start is applied like any other: which lifetime a start was begun for is not known to the registry.
So an instance whose own start has not ended is not ready, and is asked for no value, unless the
outcome of an overdue start has been applied to it; and then it no longer is one that is not ready.

## Main definitions

* `Annals.Unstarted` — neither a start of the last lifetime of an instance has ended nor has the
  instance announced anything in it.
* `Annals.Overdue` — a start from before the last lifetime of an instance has ended in it.

## Main results

* `Annals.notReady_unless_overdue` — **an unstarted instance is not ready exactly if no start of it
  is overdue.**
-/

namespace FeatureFlags

open Api (Act ShortCircuits stateAfter)

namespace Annals

/-- The last lifetime of an instance began with a binding, no start that was begun for it has
ended, and the instance has announced nothing in it. -/
structure Unstarted (id : ProviderId) (annals : Annals) : Prop where
  opening : opening? id annals = some (.bound id)
  pending : ∀ outcome, .reported id (lifetimes id annals) outcome ∉ current id annals
  silent : ∀ event code, .announced id event code ∉ current id annals

/-- A start that was begun for an earlier lifetime of an instance has ended in the last one. -/
def Overdue (id : ProviderId) (annals : Annals) : Prop :=
  ∃ lifetime < lifetimes id annals, ∃ outcome, .reported id lifetime outcome ∈ current id annals

variable {id : ProviderId} {annals : Annals}

theorem mem_of_mem_current {e : Entry} (he : e ∈ current id annals) : e ∈ annals :=
  (List.rtakeWhile_suffix _ annals).subset he

/-- Nothing is applied to an unstarted instance but the outcomes of overdue starts. -/
theorem Unstarted.applied_eq_nil (h : Unstarted id annals)
    (hlifetimes : ∀ lifetime outcome, .reported id lifetime outcome ∈ annals →
      lifetime ≤ lifetimes id annals)
    (hoverdue : ¬Overdue id annals) : applied id (current id annals) = [] := by
  rw [applied, List.filterMap_eq_nil_iff]
  intro e he
  cases e with
  | bound | made | unbound => rfl
  | announced other event code =>
    have hother : other ≠ id := by
      rintro rfl
      exact h.silent event code he
    exact if_neg hother
  | reported other lifetime outcome =>
    have hother : other ≠ id := by
      rintro rfl
      rcases (hlifetimes lifetime outcome (mem_of_mem_current he)).lt_or_eq with hearlier | rfl
      · exact hoverdue ⟨lifetime, hearlier, outcome, he⟩
      · exact h.pending outcome he
    exact if_neg hother

/-- An instance to which the outcome of a start has been applied is not one that is not ready. -/
theorem status_ne_notReady_of_reported {lifetime : Nat} {outcome : Except EvaluationError Unit}
    (h : .reported id lifetime outcome ∈ current id annals) : status id annals ≠ .notReady := by
  have happlied : Lifecycle.startEvent outcome ∈ applied id (current id annals) :=
    List.mem_filterMap.mpr ⟨_, h, if_pos rfl⟩
  refine ProviderStatus.onEvents_ne_notReady_of_mem happlied ?_ _
  cases outcome with
  | ok => exact ProviderEvent.noConfusion
  | error => exact ProviderEvent.noConfusion

variable {W : Type} {host : Host W}

/-- **An unstarted instance is not ready exactly if no start of it is overdue.**  After any run,
take a bound instance whose own start has not ended and that has announced nothing since it last
became bound.  If no start from before has ended since then, it is not ready, and no evaluation
that it serves is started; otherwise it no longer is one that is not ready. -/
theorem notReady_unless_overdue (c : Chronicle host) (world : W) (acts : List (Act W))
    (id : ProviderId) (hid : (stateAfter host world acts).registry.isBound id = true)
    (hunstarted : Unstarted id (c.annals world acts)) :
    let s := stateAfter host world acts
    (¬Overdue id (c.annals world acts) →
      s.registry.statusOf id = .notReady ∧ ShortCircuits host s id .providerNotReady) ∧
    (Overdue id (c.annals world acts) → s.registry.statusOf id ≠ .notReady) := by
  intro s
  have hstatus : s.registry.statusOf id = status id (c.annals world acts) :=
    c.statusOf_stateAfter hid
  constructor
  · intro hoverdue
    have happlied : applied id (current id (c.annals world acts)) = [] :=
      hunstarted.applied_eq_nil ((c.orderly world acts).faithful.lifetimes id) hoverdue
    have hnotReady : s.registry.statusOf id = .notReady := by
      rw [hstatus, status, firstStatus, hunstarted.opening, happlied]
      rfl
    refine ⟨hnotReady, Api.shortCircuits_of_status ?_ host⟩
    rw [hnotReady]
    rfl
  · rintro ⟨lifetime, -, outcome, hreported⟩
    rw [hstatus]
    exact status_ne_notReady_of_reported hreported

/-! ### A provider that is bound again while it is being started -/

/-- A provider is bound; while it is being started, another one takes its place and is replaced by
it in turn. -/
def rebinding : List (Act Unit) :=
  [.bind .default ⟨.application 0, "slow"⟩, .advance 0, .advance 0, .advance 0,
    .bind .default ⟨.application 1, "other"⟩, .bind .default ⟨.application 0, "slow"⟩]

/-- The first start ends, but not the second one. -/
def outliving : List (Act Unit) := rebinding ++ [.advance 0, .advance 0, .advance 0]

/-- After the second binding the provider is not ready. -/
theorem notReady_when_bound_again :
    let s := stateAfter Lifecycle.patient () rebinding
    let annals := patientChronicle.annals () rebinding
    lifetimes (.application 0) annals = 2 ∧ Unstarted (.application 0) annals ∧
      s.registry.statusOf (.application 0) = .notReady ∧
        ShortCircuits Lifecycle.patient s (.application 0) .providerNotReady := by
  intro s annals
  have hcurrent : current (.application 0) annals = [] := rfl
  have hunstarted : Unstarted (.application 0) annals :=
    ⟨rfl, fun _ => hcurrent ▸ List.not_mem_nil, fun _ _ => hcurrent ▸ List.not_mem_nil⟩
  obtain ⟨hnotReady, -⟩ := notReady_unless_overdue patientChronicle () rebinding (.application 0)
    (by decide) hunstarted
  refine ⟨rfl, hunstarted, hnotReady ?_⟩
  rintro ⟨lifetime, -, outcome, hreported⟩
  exact List.not_mem_nil (hcurrent ▸ hreported)

/-- The outcome of the first start makes it ready although its own start has not ended. -/
theorem ready_when_overdue :
    let s := stateAfter Lifecycle.patient () outliving
    let annals := patientChronicle.annals () outliving
    s.registry.isBound (.application 0) = true ∧ Unstarted (.application 0) annals ∧
      current (.application 0) annals = [.reported (.application 0) 1 (.ok ())] ∧
        s.registry.statusOf (.application 0) = .ready := by
  intro s annals
  have hcurrent : current (.application 0) annals = [.reported (.application 0) 1 (.ok ())] := rfl
  refine ⟨by decide, ⟨rfl, fun outcome hmem => ?_, fun event code hmem => ?_⟩, hcurrent,
    by decide⟩
  · -- the own start would be the second one
    have hlifetimes : lifetimes (.application 0) annals = 2 := rfl
    rw [hcurrent, hlifetimes, List.mem_singleton] at hmem
    exact absurd (Entry.reported.inj hmem).2.1 (by decide)
  · rw [hcurrent, List.mem_singleton] at hmem
    exact Entry.noConfusion hmem

end Annals

end FeatureFlags
