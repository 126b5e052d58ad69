import FeatureFlags.Proofs.Lifecycle.Conservation
import FeatureFlags.Proofs.Registry.Tidy

/-!
# A registry at rest

The statuses of a registry are changed in several steps: an instance gets an entry when it is
bound, and the call that unbinds it takes the entry away when the instance has been shut down.
Between these steps other calls bind and unbind the same instance, reset the registry, and report
starts of theirs.  Whatever they do, an entry of an unbound instance is there only as long as some
call under way has still to release it, and a bound instance is not ready only as long as some call
under way has still to report its start.  So when no call is under way any more, nothing has leaked
and nothing was forgotten.

## Main definitions

* `Lifecycle.System.IsDue` — some call under way has still to do a stage of an instance.
* `Lifecycle.System.Tidy` — the statuses are in step but for what the calls have still to do.
* `Slot.ofDomain` — the slot that a call of an application names.

## Main results

* `Lifecycle.System.Tidy.play` — **every move keeps the statuses in step.**
* `Lifecycle.Pool.at_rest` — **when no call is under way, the statuses are those of the bound
  instances**, and each of them has been started.
-/

namespace FeatureFlags

/-! ### Calls of an application -/

/-- The slot that a call of an application names. -/
def Slot.ofDomain : Option String → Slot
  | none => .default
  | some name => .domain name

/-- A call for the empty string is refused; any other binds the slot that it names. -/
theorem Api.setProvider_eq {W : Type} (host : Host W) (domain : Option String) (p : ProviderRef) :
    Api.setProvider host domain p =
      if Slot.ofDomain domain = .domain "" then .done (.error .noDomain)
      else .ok <$> Api.bindProvider host (Slot.ofDomain domain) p := by
  cases domain with
  | none => rfl
  | some name =>
    by_cases hname : name = ""
    · subst hname
      rfl
    · have hslot : Slot.ofDomain (some name) ≠ .domain "" := fun heq => hname (Slot.domain.inj heq)
      rw [if_neg hslot, setProvider]
      · rfl
      · exact hname

namespace Lifecycle

/-! ### What a new call has to do -/

section Duties

variable {history : History} {job : LifecycleJob} {stage : Stage} {id : ProviderId}

theorem mem_duties_of_stops (h : job.stops? = some id) (hstage : stage ∈ stopStages) :
    (⟨stage, id, lifetimes history id⟩ : Duty) ∈ duties history job := by
  cases job with
  | startUp p => exact absurd h.symm (Option.some_ne_none _)
  | shutDown p =>
    obtain rfl : p.id = id := Option.some.inj h
    exact List.mem_map.mpr ⟨stage, hstage, rfl⟩

theorem mem_duties_of_starts (h : job.starts? = some id) (hstage : stage ∈ startStages) :
    (⟨stage, id, lifetimes history id⟩ : Duty) ∈ duties history job := by
  cases job with
  | shutDown p => exact absurd h.symm (Option.some_ne_none _)
  | startUp p =>
    obtain rfl : p.id = id := Option.some.inj h
    exact List.mem_map.mpr ⟨stage, hstage, rfl⟩

/-- Only a job that starts an instance has a stage of a start among its duties. -/
theorem starts_of_mem_duties {duty : Duty} (h : duty ∈ duties history job)
    (hstage : duty.stage ∈ startStages) : job.starts? = some duty.id := by
  cases job with
  | startUp p =>
    obtain ⟨stage, -, rfl⟩ := List.mem_map.mp h
    rfl
  | shutDown p =>
    obtain ⟨stage, hstop, rfl⟩ := List.mem_map.mp h
    have hdisjoint : ∀ stage ∈ stopStages, stage ∉ startStages := by decide
    exact absurd hstage (hdisjoint stage hstop)

end Duties

namespace System

variable {x : System} {stage : Stage} {id : ProviderId}

/-- Some call under way has still to do a stage of an instance. -/
def IsDue (x : System) (stage : Stage) (id : ProviderId) : Prop :=
  ∃ duty ∈ x.calls.flatten, duty.stage = stage ∧ duty.id = id

/-- What is due is done in the next turn or goes on to be due. -/
theorem IsDue.of_turn {before later : List (List Duty)} {duty : Duty} {rest : List Duty}
    (h : x.IsDue stage id) (hcalls : x.calls = before ++ (duty :: rest) :: later)
    (r : Registry) (history : History) :
    System.IsDue ⟨r, before ++ rest :: later, history⟩ stage id ∨
      duty.stage = stage ∧ duty.id = id := by
  obtain ⟨other, hother, hstage⟩ := h
  rw [hcalls, List.flatten_append, List.flatten_cons, List.mem_append, List.mem_append,
    List.mem_cons] at hother
  have hrest : other = duty ∨ other ∈ (before ++ rest :: later).flatten := by
    rw [List.flatten_append, List.flatten_cons, List.mem_append, List.mem_append]
    rcases hother with hbefore | (heq | hmem) | hlater
    · exact .inr (.inl hbefore)
    · exact .inl heq
    · exact .inr (.inr (.inl hmem))
    · exact .inr (.inr (.inr hlater))
  rcases hrest with rfl | hmem
  · exact .inr hstage
  · exact .inl ⟨other, hmem, hstage⟩

section Rebind

variable {after : Registry} {jobs : List LifecycleJob} {made : List ProviderId}

/-- A new call adds its duties to what is due. -/
theorem isDue_rebind {job : LifecycleJob} (hjob : job ∈ jobs) {duty : Duty}
    (hduty : duty ∈ duties (x.history ++ changes x.registry after) job) :
    (x.rebind after jobs made).IsDue duty.stage duty.id := by
  refine ⟨duty, ?_, rfl, rfl⟩
  rw [rebind, List.flatten_append, List.flatten_singleton]
  exact List.mem_append_right _ (List.mem_flatMap.mpr ⟨job, hjob, hduty⟩)

theorem IsDue.rebind (h : x.IsDue stage id) : (x.rebind after jobs made).IsDue stage id := by
  obtain ⟨duty, hduty, hstage⟩ := h
  refine ⟨duty, ?_, hstage⟩
  rw [System.rebind, List.flatten_append]
  exact List.mem_append_left _ hduty

/-- What a new call unbinds it has to release. -/
theorem isDue_release_of_lost (hchange : Registry.Change x.registry after jobs made)
    (hlost : id ∈ Registry.lost x.registry after) :
    (x.rebind after jobs made).IsDue .release id := by
  obtain ⟨job, hjob, hstops⟩ := List.mem_filterMap.mp (hchange.stops.mem_iff.mpr hlost)
  exact isDue_rebind hjob (mem_duties_of_stops hstops (by decide))

/-- What a new call binds it has to start and to report, unless it is made by the call. -/
theorem isDue_report_of_gained (hchange : Registry.Change x.registry after jobs made)
    (hgained : id ∈ Registry.gained x.registry after) (hmade : id ∉ made) :
    (x.rebind after jobs made).IsDue .report id := by
  have hmem := hchange.starts.mem_iff.mpr hgained
  have hstarted := (List.mem_append.mp hmem).resolve_right hmade
  obtain ⟨job, hjob, hstarts⟩ := List.mem_filterMap.mp hstarted
  exact isDue_rebind hjob (mem_duties_of_starts hstarts (by decide))

end Rebind

/-! ### The statuses along a run -/

/-- **A duty that is done** takes an instance off those that have still to be released or reported,
if it is a release or a report; any other changes no status. -/
theorem tidy_apply {r : Registry} {leaving starting : ProviderId → Prop} {duty : Duty}
    (outcome : Except EvaluationError Unit)
    (h : r.Tidy (fun id => leaving id ∨ duty.stage = .release ∧ duty.id = id)
      (fun id => starting id ∨ duty.stage = .report ∧ duty.id = id)) :
    (duty.apply outcome r).Tidy leaving starting := by
  obtain ⟨stage, id, lifetime⟩ := duty
  by_cases hreport : stage = .report
  · subst hreport
    refine Registry.Tidy.report ?_ (h.mono ?_ ?_) _
    · cases outcome <;> exact ProviderEvent.noConfusion
    · exact fun other hother => hother.resolve_right fun hrelease => Stage.noConfusion hrelease.1
    · exact fun other hother => hother.imp_right fun hself => hself.2.symm
  have hstarting : ∀ other, (starting other ∨ stage = .report ∧ id = other) → starting other :=
    fun other hother => hother.resolve_right fun hself => hreport hself.1
  by_cases hrelease : stage = .release
  · subst hrelease
    refine Registry.Tidy.release (h.mono ?_ hstarting)
    exact fun other hother => hother.imp_right fun hself => hself.2.symm
  have hsame : Duty.apply ⟨stage, id, lifetime⟩ outcome r = r := by
    cases stage <;> first | rfl | contradiction
  rw [hsame]
  exact h.mono (fun other hother => hother.resolve_right fun hself => hrelease hself.1) hstarting

/-- The statuses are in step with the bindings, but for what the calls under way have still to
release and to report. -/
def Tidy (x : System) : Prop := x.registry.Tidy (x.IsDue .release) (x.IsDue .report)

theorem tidy_fresh : fresh.Tidy := Registry.tidy_fresh 0 _ _

/-- A change of bindings that adds no more to what is to be done than it unbinds and binds. -/
theorem Tidy.rebind {after : Registry} {jobs : List LifecycleJob} {made : List ProviderId}
    (hchange : Registry.Change x.registry after jobs made)
    (h : after.Tidy (fun id => x.IsDue .release id ∨ id ∈ Registry.lost x.registry after)
      (fun id => x.IsDue .report id ∨ id ∈ Registry.gained x.registry after ∧ id ∉ made)) :
    (x.rebind after jobs made).Tidy := by
  refine Registry.Tidy.mono h ?_ ?_
  · rintro id (hdue | hlost)
    · exact hdue.rebind
    · exact isDue_release_of_lost hchange hlost
  · rintro id (hdue | ⟨hgained, hmade⟩)
    · exact hdue.rebind
    · exact isDue_report_of_gained hchange hgained hmade

/-- **Every move keeps the statuses in step.** -/
theorem Tidy.play (hsound : x.registry.Sound) (h : x.Tidy) (move : Move) : (x.play move).Tidy := by
  cases move with
  | bind slot p =>
    rw [System.play]
    split
    next hpossible =>
      refine Tidy.rebind (Registry.change_bind hsound slot hpossible.2) ?_
      refine (Registry.Tidy.bind h hpossible.1).mono (fun _ hid => hid) ?_
      exact fun id hid => hid.imp_right fun hgained => ⟨hgained, List.not_mem_nil⟩
    next => exact h
  | clear order =>
    rw [System.play]
    split
    next horder =>
      have hchange := Registry.change_clear hsound (List.isPerm_iff.mp horder)
      exact Tidy.rebind hchange (Registry.tidy_fresh _ _ _)
    next => exact h
  | turn call outcome =>
    rcases x.play_turn_cases call outcome with hsame | ⟨_, duty, _, _, hcalls, -, hplay⟩
    · rw [hsame]
      exact h
    · rw [hplay]
      -- what was due is done now, or is due still
      refine tidy_apply outcome (Registry.Tidy.mono h ?_ ?_)
      · exact fun id hid => hid.of_turn hcalls _ _
      · exact fun id hid => hid.of_turn hcalls _ _
  | emit id event code => exact Registry.Tidy.announce h id event code

theorem tidy_after (moves : List Move) : (fresh.after moves).Tidy :=
  (play_induction (fun _ move hsound hx => hx.play hsound move) sound_fresh tidy_fresh moves).2

end System

/-! ### At rest -/

section Rest

variable {W : Type}

/-- **When no call is under way any more, the registry is at rest**: in every run, the instances
with a status are then exactly the bound ones, each once, and none of these is not ready.  Nor is
the empty string ever bound: a call for it is refused before it takes a step, and any other call is
one of those that a run may start, where it makes the same moves. -/
theorem Pool.at_rest {host : Host W} (hhost : host.Discreet) (world : W) (acts : List (Act W)) :
    let x := (Pool.fresh world).after host acts
    (x.Quiescent →
      (Table.keys x.registry.statuses).Perm x.registry.boundIds ∧
      ∀ id, x.registry.isBound id = true → x.registry.statusOf id ≠ .notReady) ∧
    x.registry.domains.find? "" = none ∧
    (∀ domain p, Api.setProvider host domain p =
      if Slot.ofDomain domain = .domain "" then .done (.error .noDomain)
      else .ok <$> Api.bindProvider host (Slot.ofDomain domain) p) ∧
    Records host := by
  intro x
  obtain ⟨moves, hmirrors⟩ : ∃ moves, Mirrors (System.fresh.after moves) x :=
    exists_mirrors hhost world acts
  have htidy := System.tidy_after moves
  rw [System.Tidy, hmirrors.registry] at htidy
  refine ⟨fun hquiescent => ?_, htidy.named, fun domain p => Api.setProvider_eq host domain p,
    records host⟩
  -- without a call under way nothing is due
  have hnothing : ∀ stage id, ¬(System.fresh.after moves).IsDue stage id := by
    rintro stage id ⟨duty, hduty, -⟩
    rw [hmirrors.pending_eq_nil hquiescent] at hduty
    exact List.not_mem_nil hduty
  have hrest := htidy.mono (fun id => hnothing .release id) (fun id => hnothing .report id)
  exact ⟨hrest.perm_boundIds, fun id hbound hstatus => hrest.unready id hbound hstatus⟩

/-- A provider is bound again while it is being shut down: it is started anew, and when the
shutdown has ended its status is still there. -/
theorem at_rest_when_bound_again :
    let acts : List (Act Unit) := [.bind .default ⟨.application 1, "first"⟩] ++
      List.replicate 16 (.advance 0) ++ [.bind .default ⟨.application 2, "second"⟩] ++
      List.replicate 3 (.advance 1) ++ [.bind (.domain "a") ⟨.application 1, "first"⟩] ++
      List.replicate 16 (.advance 2) ++ List.replicate 16 (.advance 1)
    let x := (Pool.fresh ()).after patient acts
    patient.Discreet ∧ x.Quiescent ∧ (Table.keys x.registry.statuses).Perm x.registry.boundIds ∧
      x.registry.statusOf (.application 1) ≠ .notReady := by
  intro acts x
  have hquiescent : x.Quiescent := by decide +kernel
  obtain ⟨hkeys, hready⟩ := (Pool.at_rest patient_discreet () acts).1 hquiescent
  exact ⟨patient_discreet, hquiescent, hkeys, hready _ (by decide +kernel)⟩

end Rest

end Lifecycle

end FeatureFlags
