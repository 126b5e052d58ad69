import FeatureFlags.Proofs.Lifecycle.Pool
import Mathlib.Data.List.Count

/-!
# Conservation of lifecycle calls

Every time an instance becomes bound it is started once, and every time it becomes unbound it
is shut down once: as soon as the bindings have changed the call is owed, and it stays owed
until it is made.  What other calls do meanwhile changes neither count.

## Main definitions

* `Lifecycle.System.made`, `Lifecycle.System.owed` — the calls of a stage that were made on an
  instance, and those still to be made.
* `Lifecycle.System.Balanced` — the books of the system.
* `Lifecycle.Pool.made` — the calls of a stage that were made in a run.

## Main results

* `Lifecycle.System.Balanced.step` — every step keeps the books balanced.
* `Lifecycle.Pool.conservation` — **calls made and owed add up to changes of bindings.**
-/

namespace FeatureFlags

namespace Lifecycle

/-- Whether a duty is a stage of an instance. -/
def Duty.isOf (stage : Stage) (id : ProviderId) (duty : Duty) : Bool :=
  duty.stage == stage && duty.id == id

/-- Whether it is written down that a stage of an instance was done. -/
def Note.isOf (stage : Stage) (id : ProviderId) : Note → Bool
  | .did duty => duty.isOf stage id
  | _ => false

/-! ### Counting duties -/

section Counting

variable {stage : Stage} {id : ProviderId} {history : History} {jobs : List LifecycleJob}

/-- A call does as much of a stage to an instance as its jobs ask for, if every job does so
once for the instance it is about. -/
theorem countP_duties {asks : LifecycleJob → Option ProviderId}
    (hjob : ∀ job, (duties history job).countP (Duty.isOf stage id) =
      if asks job = some id then 1 else 0) :
    (jobs.flatMap (duties history)).countP (Duty.isOf stage id) =
      (jobs.filterMap asks).count id := by
  induction jobs with
  | nil => rfl
  | cons job rest ih =>
    rw [List.flatMap_cons, List.countP_append, ih, hjob, List.filterMap_cons]
    cases hasks : asks job with
    | none => rw [if_neg (by simp), Nat.zero_add]
    | some asked =>
      rw [List.count_cons, Nat.add_comm]
      by_cases hid : asked = id
      · rw [if_pos (by rw [hid]), if_pos (by rw [hid, beq_self_eq_true])]
      · rw [if_neg (fun h => hid (Option.some.inj h)), if_neg (fun h => hid (beq_iff_eq.mp h))]

theorem countP_duties_startUp :
    (jobs.flatMap (duties history)).countP (Duty.isOf .startUp id) =
      (jobs.filterMap LifecycleJob.starts?).count id := by
  apply countP_duties
  rintro (p | p)
  · rfl
  · by_cases hid : p.id = id
    · simp [duties, startStages, Duty.isOf, LifecycleJob.starts?, hid]
    · simp [duties, startStages, Duty.isOf, LifecycleJob.starts?, hid]

theorem countP_duties_shutDown :
    (jobs.flatMap (duties history)).countP (Duty.isOf .shutDown id) =
      (jobs.filterMap LifecycleJob.stops?).count id := by
  apply countP_duties
  rintro (p | p)
  · by_cases hid : p.id = id
    · simp [duties, stopStages, Duty.isOf, LifecycleJob.stops?, hid]
    · simp [duties, stopStages, Duty.isOf, LifecycleJob.stops?, hid]
  · rfl

/-- What the registry makes for itself is started once, in being made. -/
theorem countP_creation_startUp (made : List ProviderId) :
    (made.flatMap creation).countP (Note.isOf .startUp id) = made.count id := by
  induction made with
  | nil => rfl
  | cons head rest ih =>
    rw [List.flatMap_cons, List.countP_append, ih, List.count_cons, Nat.add_comm]
    by_cases hid : head = id
    · simp [creation, Note.isOf, Duty.isOf, hid]
    · simp [creation, Note.isOf, Duty.isOf, hid]

theorem countP_creation_shutDown (made : List ProviderId) :
    (made.flatMap creation).countP (Note.isOf .shutDown id) = 0 := by
  induction made with
  | nil => rfl
  | cons head rest ih =>
    rw [List.flatMap_cons, List.countP_append, ih]
    rfl

/-- What is written down of a duty is that it was done. -/
theorem countP_notes (duty : Duty) (outcome : Except EvaluationError Unit) :
    (duty.notes outcome).countP (Note.isOf stage id) =
      if duty.isOf stage id then 1 else 0 := by
  unfold Duty.notes
  split
  · rw [List.countP_cons, List.countP_singleton]
    exact Nat.zero_add _
  · exact List.countP_singleton

/-- A change of bindings does nothing to an instance by itself. -/
theorem countP_changes (before after : Registry) :
    (System.changes before after).countP (Note.isOf stage id) = 0 := by
  rw [System.changes, List.countP_append, List.countP_map, List.countP_map]
  rw [List.countP_eq_zero.mpr (fun _ _ => by simp [Note.isOf]),
    List.countP_eq_zero.mpr (fun _ _ => by simp [Note.isOf])]

end Counting

/-! ### Counting changes of bindings -/

section Changes

variable {id : ProviderId}

theorem count_bound_changes (before after : Registry) :
    (System.changes before after).count (.bound id) = (Registry.gained before after).count id := by
  rw [System.changes, List.count_append]
  rw [List.count_eq_zero_of_not_mem (by simp), Nat.zero_add]
  exact List.count_map_of_injective _ Note.bound (fun _ _ h => Note.bound.inj h) id

theorem count_unbound_changes (before after : Registry) :
    (System.changes before after).count (.unbound id) = (Registry.lost before after).count id := by
  rw [System.changes, List.count_append]
  rw [List.count_eq_zero_of_not_mem (l := List.map Note.bound _) (by simp), Nat.add_zero]
  exact List.count_map_of_injective _ Note.unbound (fun _ _ h => Note.unbound.inj h) id

/-- How many lifetimes have begun after a change of bindings. -/
theorem lifetimes_changes (history : History) (before after : Registry) (id : ProviderId) :
    lifetimes (history ++ System.changes before after) id =
      history.count (.bound id) + if after.isBound id && !before.isBound id then 1 else 0 := by
  rw [lifetimes, List.count_append, count_bound_changes, Registry.count_gained]

theorem count_creation {note : Note} (hnote : ∀ duty, note ≠ .did duty) (made : List ProviderId) :
    (made.flatMap creation).count note = 0 := by
  apply List.count_eq_zero_of_not_mem
  rw [List.mem_flatMap]
  rintro ⟨head, -, hmem⟩
  rcases List.mem_cons.mp hmem with heq | hmem
  · exact hnote _ heq
  · exact hnote _ (List.mem_singleton.mp hmem)

theorem count_notes {note : Note} (hdid : ∀ duty, note ≠ .did duty)
    (hannounced : ∀ id event code, note ≠ .announced id event code) (duty : Duty)
    (outcome : Except EvaluationError Unit) : (duty.notes outcome).count note = 0 := by
  apply List.count_eq_zero_of_not_mem
  unfold Duty.notes
  split
  · intro hmem
    rcases List.mem_cons.mp hmem with heq | hmem
    · exact hdid _ heq
    · exact hannounced _ _ _ (List.mem_singleton.mp hmem)
  · intro hmem
    exact hdid _ (List.mem_singleton.mp hmem)

end Changes

/-! ### The books of the system -/

namespace System

/-- How often a stage of an instance was done. -/
def made (x : System) (stage : Stage) (id : ProviderId) : Nat :=
  x.history.countP (Note.isOf stage id)

/-- How often a stage of an instance is still to be done by the calls under way. -/
def owed (x : System) (stage : Stage) (id : ProviderId) : Nat :=
  x.calls.flatten.countP (Duty.isOf stage id)

/-- The books of the system: every start made or owed is for an instance that became bound,
every shutdown for one that became unbound, and what became bound more often than unbound is
bound. -/
structure Balanced (x : System) : Prop where
  starts : ∀ id, x.made .startUp id + x.owed .startUp id = x.history.count (.bound id)
  stops : ∀ id, x.made .shutDown id + x.owed .shutDown id = x.history.count (.unbound id)
  bindings : ∀ id, x.history.count (.bound id) =
    x.history.count (.unbound id) + if x.registry.isBound id then 1 else 0

/-- A call that does its next duty moves it from one side of the books to the other. -/
theorem made_add_owed_turn {x : System} {before later : List (List Duty)} {duty : Duty}
    {rest : List Duty} (hcalls : x.calls = before ++ (duty :: rest) :: later)
    (outcome : Except EvaluationError Unit) (stage : Stage) (id : ProviderId) (r : Registry) :
    let y : System := ⟨r, before ++ rest :: later, x.history ++ duty.notes outcome⟩
    y.made stage id + y.owed stage id = x.made stage id + x.owed stage id := by
  intro y
  have hmade : y.made stage id = x.made stage id + if duty.isOf stage id then 1 else 0 := by
    rw [made, made, List.countP_append, countP_notes]
  have howed : x.owed stage id = y.owed stage id + if duty.isOf stage id then 1 else 0 := by
    rw [owed, owed, hcalls]
    show (before ++ (duty :: rest) :: later).flatten.countP _ =
      (before ++ rest :: later).flatten.countP _ + _
    rw [List.flatten_append, List.flatten_append, List.flatten_cons, List.flatten_cons,
      List.countP_append, List.countP_append, List.countP_append, List.countP_append,
      List.countP_cons]
    omega
  omega

/-- A change of bindings owes a start for what it gains, except for what is made in doing
so. -/
theorem starts_rebind {x : System} {after : Registry} {jobs : List LifecycleJob}
    {made : List ProviderId} (hchange : Registry.Change x.registry after jobs made)
    (id : ProviderId) :
    (x.rebind after jobs made).made .startUp id + (x.rebind after jobs made).owed .startUp id =
      x.made .startUp id + x.owed .startUp id + (Registry.gained x.registry after).count id := by
  have hgained := hchange.starts.count_eq id
  rw [List.count_append] at hgained
  rw [System.made, owed, System.made, owed, rebind]
  dsimp only
  rw [List.countP_append, List.countP_append, countP_changes, countP_creation_startUp,
    List.flatten_append, List.countP_append, List.flatten_singleton, countP_duties_startUp]
  omega

/-- A change of bindings owes a shutdown for what it loses. -/
theorem stops_rebind {x : System} {after : Registry} {jobs : List LifecycleJob}
    {made : List ProviderId} (hchange : Registry.Change x.registry after jobs made)
    (id : ProviderId) :
    (x.rebind after jobs made).made .shutDown id + (x.rebind after jobs made).owed .shutDown id =
      x.made .shutDown id + x.owed .shutDown id + (Registry.lost x.registry after).count id := by
  have hlost := hchange.stops.count_eq id
  rw [System.made, owed, System.made, owed, rebind]
  dsimp only
  rw [List.countP_append, List.countP_append, countP_changes, countP_creation_shutDown,
    List.flatten_append, List.countP_append, List.flatten_singleton, countP_duties_shutDown]
  omega

theorem count_bound_rebind (x : System) (after : Registry) (jobs : List LifecycleJob)
    (made : List ProviderId) (id : ProviderId) :
    (x.rebind after jobs made).history.count (.bound id) =
      x.history.count (.bound id) + (Registry.gained x.registry after).count id := by
  rw [rebind]
  dsimp only
  rw [List.count_append, List.count_append, count_bound_changes,
    count_creation (fun _ => Note.noConfusion), Nat.add_zero]

theorem count_unbound_rebind (x : System) (after : Registry) (jobs : List LifecycleJob)
    (made : List ProviderId) (id : ProviderId) :
    (x.rebind after jobs made).history.count (.unbound id) =
      x.history.count (.unbound id) + (Registry.lost x.registry after).count id := by
  rw [rebind]
  dsimp only
  rw [List.count_append, List.count_append, count_unbound_changes,
    count_creation (fun _ => Note.noConfusion), Nat.add_zero]

/-- Doing a duty binds and unbinds nothing. -/
theorem count_bound_notes (history : History) (duty : Duty) (outcome : Except EvaluationError Unit)
    (id : ProviderId) :
    (history ++ duty.notes outcome).count (.bound id) = history.count (.bound id) := by
  rw [List.count_append, count_notes (fun _ => Note.noConfusion) (fun _ _ _ => Note.noConfusion),
    Nat.add_zero]

theorem count_unbound_notes (history : History) (duty : Duty)
    (outcome : Except EvaluationError Unit) (id : ProviderId) :
    (history ++ duty.notes outcome).count (.unbound id) = history.count (.unbound id) := by
  rw [List.count_append, count_notes (fun _ => Note.noConfusion) (fun _ _ _ => Note.noConfusion),
    Nat.add_zero]

theorem balanced_fresh : fresh.Balanced where
  starts id := by
    by_cases hid : id = .builtin 0
    · subst hid
      rfl
    · have hne : ProviderId.builtin 0 ≠ id := fun h => hid h.symm
      simp [made, owed, fresh, creation, Note.isOf, Duty.isOf, hne]
  stops id := rfl
  bindings id := by
    by_cases hid : id = .builtin 0
    · subst hid
      rfl
    · have hne : ProviderId.builtin 0 ≠ id := fun h => hid h.symm
      have hunbound : Registry.isBound (Registry.fresh 0) id = false := by
        rw [Registry.isBound_fresh, beq_eq_false_iff_ne]
        exact hne
      simp [fresh, creation, hunbound, hne]

/-- **Every step keeps the books balanced.** -/
theorem Balanced.step {x y : System} (hx : x.Balanced) (h : Step x y) : y.Balanced := by
  cases h with
  | nothing => exact hx
  | @rebind after jobs made hchange =>
    refine ⟨fun id => ?_, fun id => ?_, fun id => ?_⟩
    · rw [starts_rebind hchange, count_bound_rebind, hx.starts]
    · rw [stops_rebind hchange, count_unbound_rebind, hx.stops]
    · rw [count_bound_rebind, count_unbound_rebind, hx.bindings, Registry.count_gained,
        Registry.count_lost]
      show _ = _ + _ + if after.isBound id then 1 else 0
      -- before and after, bound or not
      cases x.registry.isBound id <;> cases after.isBound id <;> simp
  | @turn before later duty rest outcome hcalls =>
    -- what was owed is made now, and no binding changes
    refine ⟨fun id => ?_, fun id => ?_, fun id => ?_⟩
    · rw [made_add_owed_turn hcalls, count_bound_notes]
      exact hx.starts id
    · rw [made_add_owed_turn hcalls, count_unbound_notes]
      exact hx.stops id
    · rw [count_bound_notes, count_unbound_notes, isBound_apply]
      exact hx.bindings id
  | @emit announced event code =>
    refine ⟨fun id => ?_, fun id => ?_, fun id => ?_⟩
    · rw [made, List.countP_append, List.count_append]
      exact hx.starts id
    · rw [made, List.countP_append, List.count_append]
      exact hx.stops id
    · rw [List.count_append, List.count_append, Registry.isBound_announce_getD]
      exact hx.bindings id

theorem balanced_after (moves : List Move) : (fresh.after moves).Balanced :=
  after_induction balanced_fresh (fun _ _ _ hx h => hx.step h) moves

end System

/-! ### The books of a pool -/

/-- How often a stage of an instance was done. -/
def Pool.made {W : Type} (x : Pool W) (stage : Stage) (id : ProviderId) : Nat :=
  x.history.countP (Note.isOf stage id)

section Pool

variable {W : Type} {x : System} {pool : Pool W}

/-- A call of a provider that is made is seen. -/
theorem Mirrors.made_eq (h : Mirrors x pool) {stage : Stage} (hstage : stage.isCall = true)
    (id : ProviderId) : pool.made stage id = x.made stage id := by
  rw [Pool.made, ← h.history, List.countP_filter, System.made]
  congr 1
  funext note
  cases note with
  | did duty =>
    by_cases hduty : duty.stage = stage
    · rw [show Note.isSeen (.did duty) = duty.stage.isCall from rfl, hduty, hstage, Bool.and_true]
    · rw [show Note.isOf stage id (.did duty) = (duty.stage == stage && duty.id == id) from rfl,
        beq_eq_false_iff_ne.mpr hduty, Bool.false_and, Bool.false_and]
  | bound _ => rfl
  | unbound _ => rfl
  | announced _ _ _ => rfl

/-- A change of bindings is seen. -/
theorem Mirrors.count_eq (h : Mirrors x pool) {note : Note} (hnote : note.isSeen = true) :
    pool.history.count note = x.history.count note := by
  rw [← h.history]
  exact List.count_filter hnote

/-- **Conservation of lifecycle calls**, in every run and for every instance.  The calls under
way owe certain duties; the starts made or owed are as many as the times the instance became
bound, and the shutdowns made or owed as many as the times it became unbound.  So when no call
is under way, a bound instance was started once more than it was shut down, and any other as
often.  What is counted is what the calls on the instance do. -/
theorem Pool.conservation {host : Host W} (hhost : host.Discreet) (world : W)
    (acts : List (Act W)) (id : ProviderId) :
    let x := (Pool.fresh world).after host acts
    Records host ∧
    ∃ owed : List (List Duty), List.Forall₂ Owes x.calls owed ∧
      x.made .startUp id + owed.flatten.countP (Duty.isOf .startUp id) =
        x.history.count (.bound id) ∧
      x.made .shutDown id + owed.flatten.countP (Duty.isOf .shutDown id) =
        x.history.count (.unbound id) ∧
      x.history.count (.bound id) =
        x.history.count (.unbound id) + (if x.registry.isBound id then 1 else 0) ∧
      (x.Quiescent →
        x.made .startUp id = x.made .shutDown id + if x.registry.isBound id then 1 else 0) := by
  intro x
  refine ⟨records host, ?_⟩
  -- the books are kept by the system that the run follows
  obtain ⟨moves, hmirrors⟩ : ∃ moves, Mirrors (System.fresh.after moves) x :=
    exists_mirrors hhost world acts
  have hbalanced := System.balanced_after moves
  have hstarts := hbalanced.starts id
  have hstops := hbalanced.stops id
  have hbindings := hbalanced.bindings id
  rw [← hmirrors.made_eq rfl, ← hmirrors.count_eq rfl] at hstarts hstops
  rw [← hmirrors.count_eq rfl, ← hmirrors.count_eq rfl, hmirrors.registry] at hbindings
  refine ⟨_, hmirrors.calls, hstarts, hstops, hbindings, fun hquiescent => ?_⟩
  -- without a call under way nothing is owed
  have howed : ∀ stage, (System.fresh.after moves).owed stage id = 0 := by
    intro stage
    rw [System.owed, hmirrors.pending_eq_nil hquiescent]
    rfl
  rw [howed] at hstarts hstops
  omega

/-- A provider is bound in the place of the default; the calls that are still owed are those
that are left. -/
theorem conservation_of_one_binding :
    patient.Discreet ∧ ∃ owed, List.Forall₂ Owes ((Pool.fresh ()).after patient
      [.bind .default ⟨.application 1, "only"⟩]).calls owed ∧
        owed.flatten.countP (Duty.isOf .startUp (.application 1)) = 1 := by
  obtain ⟨-, owed, howed, hstarts, -⟩ := Pool.conservation patient_discreet ()
    [.bind .default ⟨.application 1, "only"⟩] (.application 1)
  refine ⟨patient_discreet, owed, howed, ?_⟩
  have hmade : ((Pool.fresh ()).after patient
      [.bind .default ⟨.application 1, "only"⟩]).made .startUp (.application 1) = 0 := by
    decide
  have hbound : ((Pool.fresh ()).after patient
      [.bind .default ⟨.application 1, "only"⟩]).history.count (.bound (.application 1)) = 1 := by
    decide
  omega

end Pool

end Lifecycle

end FeatureFlags
