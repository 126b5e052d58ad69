import FeatureFlags.Proofs.Multi.Relay
import FeatureFlags.Proofs.Status.History
import FeatureFlags.Proofs.Task.Ensures

/-!
# How the starts of sub-providers ended

A multi-provider puts the ends of its sub-providers' starts to two uses.  Each of them becomes
the status of its sub-provider, and the aggregate of the relay is the worst of these; and all of
them together become one error of the multi-provider's own start, of no special kind.

## Main definitions

* `Multi.statusAfter` — the status of a sub-provider whose start ended in some way.
* `Multi.aggregateAfter` — FATAL if one failed for good, else ERROR if one failed, else READY.
* `Multi.reportedAfter` — ERROR if one failed, else READY.

## Main results

* `Multi.Relay.statuses_started` — the statuses in the relay once the starts have ended.
* `Multi.worst_statusAfter` — the worst of them.
* `Multi.reportedAfter_eq_aggregateAfter_iff` — **the two agree unless a start failed for
  good.**
* `MultiProvider.recordStarts_ensures` — how the starts ended is recorded one after the other.
-/

namespace FeatureFlags

namespace Outcome

/-- A start that failed. -/
def isFailure : Outcome Unit → Bool
  | returned () => false
  | failed _ => true
  | panicked _ => true

/-- A start that failed with the code that marks its provider as unusable for good. -/
def isFatal : Outcome Unit → Bool
  | returned () => false
  | failed e => e.isFatal
  | panicked _ => false

theorem isFailure_of_isFatal {o : Outcome Unit} (h : o.isFatal = true) : o.isFailure = true := by
  cases o with
  | returned => exact h
  | failed e => rfl
  | panicked p => rfl

end Outcome

namespace Multi

open MultiProvider (guarded startedStatus startFailure?)

/-! ### One start -/

/-- The status of a sub-provider whose start ended in some way. -/
def statusAfter (o : Outcome Unit) : ProviderStatus := startedStatus (guarded o)

theorem statusAfter_eq_fatal_iff {o : Outcome Unit} :
    statusAfter o = .fatal ↔ o.isFatal = true := by
  cases o with
  | returned => simp [statusAfter, startedStatus, guarded, Outcome.toExceptWith, Outcome.isFatal]
  | failed e =>
    simp only [statusAfter, startedStatus, guarded, Outcome.toExceptWith, Outcome.isFatal]
    cases e.isFatal <;> simp
  | panicked p =>
    -- a panic is an error of no special kind
    simp [statusAfter, startedStatus, guarded, Outcome.toExceptWith, Outcome.isFatal,
      EvaluationError.isFatal, EvaluationError.general, EvaluationError.of]

theorem statusAfter_eq_ready_iff {o : Outcome Unit} :
    statusAfter o = .ready ↔ o.isFailure = false := by
  cases o with
  | returned => simp [statusAfter, startedStatus, guarded, Outcome.toExceptWith, Outcome.isFailure]
  | failed e =>
    simp only [statusAfter, startedStatus, guarded, Outcome.toExceptWith, Outcome.isFailure]
    cases e.isFatal <;> simp
  | panicked p =>
    simp [statusAfter, startedStatus, guarded, Outcome.toExceptWith, Outcome.isFailure,
      EvaluationError.isFatal, EvaluationError.general, EvaluationError.of]

/-- There is no other status that a start leads to. -/
theorem statusAfter_cases (o : Outcome Unit) :
    statusAfter o = .ready ∨ statusAfter o = .error ∨ statusAfter o = .fatal := by
  unfold statusAfter startedStatus
  split
  · exact .inl rfl
  · split
    · exact .inr (.inr rfl)
    · exact .inr (.inl rfl)

/-- A start that failed has a clause of its own in the error of the multi-provider. -/
theorem startFailure?_eq_none_iff {sub : String} {o : Outcome Unit} :
    startFailure? sub (guarded o) = none ↔ o.isFailure = false := by
  cases o with
  | returned => simp [startFailure?, guarded, Outcome.toExceptWith, Outcome.isFailure]
  | failed e => simp [startFailure?, guarded, Outcome.toExceptWith, Outcome.isFailure]
  | panicked p => simp [startFailure?, guarded, Outcome.toExceptWith, Outcome.isFailure]

/-! ### All of them -/

/-- FATAL if one of the starts failed for good, else ERROR if one failed, else READY. -/
def aggregateAfter (outcomes : List (Outcome Unit)) : ProviderStatus :=
  if outcomes.any Outcome.isFatal then .fatal
  else if outcomes.any Outcome.isFailure then .error
  else .ready

/-- ERROR if one of the starts failed, else READY. -/
def reportedAfter (outcomes : List (Outcome Unit)) : ProviderStatus :=
  if outcomes.any Outcome.isFailure then .error else .ready

/-- **The two agree unless a start failed for good.** -/
theorem reportedAfter_eq_aggregateAfter_iff (outcomes : List (Outcome Unit)) :
    reportedAfter outcomes = aggregateAfter outcomes ↔ outcomes.any Outcome.isFatal = false := by
  unfold reportedAfter aggregateAfter
  cases hfatal : outcomes.any Outcome.isFatal with
  | false => simp
  | true =>
    obtain ⟨o, ho, hone⟩ := List.any_eq_true.mp hfatal
    have hfailure : outcomes.any Outcome.isFailure = true :=
      List.any_eq_true.mpr ⟨o, ho, Outcome.isFailure_of_isFatal hone⟩
    rw [hfailure]
    simp

/-- The worst status is fatal exactly if a start failed for good. -/
theorem worst_statusAfter_eq_fatal_iff {outcomes : List (Outcome Unit)} :
    ProviderStatus.worst (outcomes.map statusAfter) = .fatal ↔
      outcomes.any Outcome.isFatal = true := by
  rw [ProviderStatus.worst_eq_fatal_iff, List.mem_map, List.any_eq_true]
  constructor
  · rintro ⟨o, ho, hstatus⟩
    exact ⟨o, ho, statusAfter_eq_fatal_iff.mp hstatus⟩
  · rintro ⟨o, ho, hone⟩
    exact ⟨o, ho, statusAfter_eq_fatal_iff.mpr hone⟩

/-- It is ready exactly if no start failed. -/
theorem worst_statusAfter_eq_ready_iff {outcomes : List (Outcome Unit)} :
    ProviderStatus.worst (outcomes.map statusAfter) = .ready ↔
      ¬outcomes.any Outcome.isFailure = true := by
  rw [ProviderStatus.worst_eq_ready_iff, List.any_eq_true]
  constructor
  · rintro hall ⟨o, ho, hone⟩
    have hready := statusAfter_eq_ready_iff.mp (hall _ (List.mem_map_of_mem ho))
    rw [hready] at hone
    exact Bool.noConfusion hone
  · intro hnone status hstatus
    obtain ⟨o, ho, rfl⟩ := List.mem_map.mp hstatus
    rw [statusAfter_eq_ready_iff, Bool.eq_false_iff]
    exact fun hone => hnone ⟨o, ho, hone⟩

/-- The worst status that the starts lead to. -/
theorem worst_statusAfter (outcomes : List (Outcome Unit)) :
    ProviderStatus.worst (outcomes.map statusAfter) = aggregateAfter outcomes := by
  have hcases : ∃ o, ProviderStatus.worst (outcomes.map statusAfter) = statusAfter o := by
    rcases ProviderStatus.worst_eq_ready_or_mem (outcomes.map statusAfter) with hready | hmem
    · exact ⟨.returned (), hready⟩
    · obtain ⟨o, -, hworst⟩ := List.mem_map.mp hmem
      exact ⟨o, hworst.symm⟩
  obtain ⟨o, hworst⟩ := hcases
  unfold aggregateAfter
  by_cases hfatal : outcomes.any Outcome.isFatal = true
  · rw [if_pos hfatal]
    exact worst_statusAfter_eq_fatal_iff.mpr hfatal
  rw [if_neg hfatal]
  by_cases hfailure : outcomes.any Outcome.isFailure = true
  · rw [if_pos hfailure]
    -- what is neither fatal nor ready after a start is an error
    rcases statusAfter_cases o with hready | herror | hbad
    · exact absurd hfailure (worst_statusAfter_eq_ready_iff.mp (hworst.trans hready))
    · exact hworst.trans herror
    · exact absurd (worst_statusAfter_eq_fatal_iff.mp (hworst.trans hbad)) hfatal
  · rw [if_neg hfailure]
    exact worst_statusAfter_eq_ready_iff.mpr hfailure

/-- The error of the multi-provider's own start has no clause exactly if no start failed. -/
theorem clauses_eq_nil_iff {names : List String} {outcomes : List (Outcome Unit)}
    (hlength : names.length = outcomes.length) :
    ((names.zip (outcomes.map guarded)).filterMap fun (sub, result) => startFailure? sub result) =
      [] ↔ ¬outcomes.any Outcome.isFailure = true := by
  rw [List.filterMap_eq_nil_iff, List.any_eq_true]
  have hresults : (names.zip (outcomes.map guarded)).map (·.2) = outcomes.map guarded :=
    List.map_snd_zip (by rw [List.length_map]; exact Nat.le_of_eq hlength.symm)
  constructor
  · rintro hnone ⟨o, ho, hone⟩
    have hmem : guarded o ∈ (names.zip (outcomes.map guarded)).map (·.2) := by
      rw [hresults]
      exact List.mem_map_of_mem ho
    obtain ⟨⟨sub, result⟩, he, heq⟩ := List.mem_map.mp hmem
    have hclause : startFailure? sub result = none := hnone _ he
    rw [show result = guarded o from heq, startFailure?_eq_none_iff, hone] at hclause
    exact Bool.noConfusion hclause
  · rintro hnone ⟨sub, result⟩ he
    have hmem : result ∈ (names.zip (outcomes.map guarded)).map (·.2) := List.mem_map_of_mem he
    rw [hresults] at hmem
    obtain ⟨o, ho, rfl⟩ := List.mem_map.mp hmem
    rw [startFailure?_eq_none_iff, Bool.eq_false_iff]
    exact fun hone => hnone ⟨o, ho, hone⟩

/-! ### In the relay -/

namespace Relay

/-- The relay once the starts of its sub-providers have ended. -/
def started (relay : Relay) (names : List String) (outcomes : List (Outcome Unit)) : Relay :=
  (names.zip (outcomes.map guarded)).foldl
    (fun r (sub, result) => r.setStatus sub (startedStatus result)) relay

/-- Every start becomes the status of its sub-provider; the statuses before it stay. -/
theorem statuses_started_append {relay : Relay} {before coming : Table String ProviderStatus}
    {outcomes : List (Outcome Unit)} (hstatuses : relay.statuses = before ++ coming)
    (hkeys : (Table.keys (before ++ coming)).Nodup) (hlength : coming.length = outcomes.length) :
    (relay.started (Table.keys coming) outcomes).statuses =
      before ++ (Table.keys coming).zip (outcomes.map statusAfter) := by
  induction outcomes generalizing relay before coming with
  | nil =>
    rw [List.length_eq_zero_iff.mp hlength] at hstatuses ⊢
    exact hstatuses
  | cons o rest ih =>
    obtain ⟨⟨sub, old⟩, coming, rfl⟩ := List.exists_cons_of_length_eq_add_one hlength
    have hsub : sub ∉ Table.keys before := by
      rw [Table.keys, List.map_append, List.map_cons] at hkeys
      exact fun hmem => (List.nodup_append.mp hkeys).2.2 sub hmem sub List.mem_cons_self rfl
    have hnext : (relay.setStatus sub (statusAfter o)).statuses =
        (before ++ [(sub, statusAfter o)]) ++ coming := by
      rw [setStatus]
      dsimp only
      rw [hstatuses, Table.put_append_cons hsub, List.append_assoc, List.singleton_append]
    have hkeys' : (Table.keys ((before ++ [(sub, statusAfter o)]) ++ coming)).Nodup := by
      simpa [Table.keys] using hkeys
    have hrest := ih hnext hkeys' (Nat.succ.inj hlength)
    rw [List.append_assoc, List.singleton_append] at hrest
    exact hrest

/-- **The statuses in the relay** once the starts have ended are those that they lead to, each
under the name of its sub-provider. -/
theorem statuses_started {relay : Relay} {names : List String} {outcomes : List (Outcome Unit)}
    (hkeys : Table.keys relay.statuses = names) (hnames : names.Nodup)
    (hlength : names.length = outcomes.length) :
    (relay.started names outcomes).statuses = names.zip (outcomes.map statusAfter) := by
  subst hkeys
  have hcoming : relay.statuses.length = outcomes.length := by
    rw [← hlength, Table.keys, List.length_map]
  have hall : relay.statuses = [] ++ relay.statuses := rfl
  exact statuses_started_append hall hnames hcoming

/-- The aggregate is the worst of them. -/
theorem aggregate_started {relay : Relay} {names : List String} {outcomes : List (Outcome Unit)}
    (hkeys : Table.keys relay.statuses = names) (hnames : names.Nodup)
    (hlength : names.length = outcomes.length) (hsome : names ≠ []) :
    (relay.started names outcomes).aggregate = aggregateAfter outcomes := by
  have hguarded : (names.zip (outcomes.map guarded)).map (·.1) = names :=
    List.map_fst_zip (by rw [List.length_map]; exact Nat.le_of_eq hlength)
  have hstatuses : (names.zip (outcomes.map statusAfter)).map (·.2) = outcomes.map statusAfter :=
    List.map_snd_zip (by rw [List.length_map]; exact Nat.le_of_eq hlength.symm)
  have hsettled : (relay.started names outcomes).Settled := by
    refine settled_started (hkeys ▸ hnames) ?_ ?_
    · intro hnil
      rw [hnil] at hguarded
      exact hsome hguarded.symm
    · intro name hname
      rw [hguarded, ← hkeys]
      exact hname
  rw [hsettled.aggregate, statuses_started hkeys hnames hlength, hstatuses, worst_statusAfter]

end Relay

end Multi

/-- **How the starts ended is recorded one after the other.**  What is known of the state together
with the relay in it, and stays true of another relay that is put there, is true of the relay once
they all have been recorded. -/
theorem MultiProvider.recordStarts_ensures {σ : Type} {relay : Cell σ Multi.Relay}
    {others : σ → σ → Prop} {P : Multi.Relay → σ → Prop}
    (hget : ∀ r s, P r s → relay.get s = r)
    (hset : ∀ r r' s, P r s → P r' (relay.set r' s)) (names : List String)
    (outcomes : List (Outcome Unit)) {r : Multi.Relay} {s : σ} (h : P r s) :
    (Task.each (fun (sub, result) => recordStart relay sub result)
      (names.zip (outcomes.map guarded))).Ensures others
        (fun _ s' => P (r.started names outcomes) s') s := by
  unfold Multi.Relay.started
  induction names.zip (outcomes.map guarded) generalizing r s with
  | nil => exact h
  | cons e rest ih =>
    rw [Task.each_cons, Task.ensures_bind]
    refine (Task.ensures_modify _ _ _).mpr ?_
    rw [hget r s h]
    exact ih (hset r _ s h)

end FeatureFlags
