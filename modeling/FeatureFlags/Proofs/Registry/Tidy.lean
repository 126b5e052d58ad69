import FeatureFlags.Proofs.Registry.Statuses
import FeatureFlags.Proofs.Status.History

/-!
# Statuses and bindings in step

A registry keeps its statuses in a table of its own.  An instance gets its entry in the step in
which it is bound, but it loses the entry only when it has been shut down, and it stops being not
ready only when it has been started or has announced something.  So the table is in step with the
bindings up to what is still to be done: to release the instances that were unbound, and to report
the starts of those that were bound.

## Main definitions

* `Registry.Tidy` — the table is in step, but for the instances that are leaving and those that are
  starting.

## Main results

* `Registry.Tidy.bind`, `Registry.tidy_fresh` — a change of bindings adds to both kinds.
* `Registry.Tidy.release` — **a release takes an instance off the first kind.**
* `Registry.Tidy.announce`, `Registry.Tidy.report` — an event keeps the table in step, and **a
  report takes an instance off the second kind.**
* `Registry.Tidy.perm_boundIds` — when nothing is left to do, the table lists the bound instances.
-/

namespace FeatureFlags

namespace Registry

variable {r after : Registry} {slot : Slot} {p : ProviderRef} {id : ProviderId}
  {leaving starting : ProviderId → Prop}

/-- The table of statuses is in step with the bindings: it has one entry for every bound instance,
and others only for instances that are leaving; of the bound instances only those that are starting
are not ready.  The empty string is no domain. -/
structure Tidy (r : Registry) (leaving starting : ProviderId → Prop) : Prop where
  nodup : (Table.keys r.statuses).Nodup
  listed : ∀ id, r.isBound id = true → id ∈ Table.keys r.statuses
  left : ∀ id ∈ Table.keys r.statuses, r.isBound id = true ∨ leaving id
  unready : ∀ id, r.isBound id = true → r.statusOf id = .notReady → starting id
  named : r.occupant? (.domain "") = none

theorem Tidy.mono {leaving' starting' : ProviderId → Prop} (h : r.Tidy leaving starting)
    (hleaving : ∀ id, leaving id → leaving' id) (hstarting : ∀ id, starting id → starting' id) :
    r.Tidy leaving' starting' where
  nodup := h.nodup
  listed := h.listed
  left id hid := (h.left id hid).imp_right (hleaving id)
  unready id hbound hstatus := hstarting id (h.unready id hbound hstatus)
  named := h.named

/-- **When nothing is left to do**, the table lists exactly the bound instances. -/
theorem Tidy.perm_boundIds (h : r.Tidy (fun _ => False) starting) :
    (Table.keys r.statuses).Perm r.boundIds := by
  apply (List.perm_ext_iff_of_nodup h.nodup r.nodup_boundIds).mpr
  intro id
  rw [mem_boundIds]
  constructor
  · exact fun hid => (h.left id hid).resolve_right not_false
  · exact h.listed id

/-! ### Changes of bindings -/

/-- A registry without bindings of others is in step. -/
theorem tidy_fresh (generation : Nat) (leaving starting : ProviderId → Prop) :
    (fresh generation).Tidy leaving starting where
  nodup := List.nodup_singleton _
  listed id hbound := by
    rw [isBound_fresh, beq_iff_eq] at hbound
    exact List.mem_singleton.mpr hbound.symm
  left id hid := by
    rw [isBound_fresh, beq_iff_eq]
    exact .inl (List.mem_singleton.mp hid).symm
  unready id hbound hstatus := by
    rw [isBound_fresh, beq_iff_eq] at hbound
    rw [← hbound, fresh, statusOf, builtin, Table.find?, if_pos rfl] at hstatus
    exact ProviderStatus.noConfusion hstatus
  named := rfl

theorem occupant?_bind (r : Registry) (slot other : Slot) (p : ProviderRef) :
    (r.bind slot p).1.occupant? other = (r.occupy slot p).occupant? other := by
  rw [bind]
  cases other with
  | default => split <;> rfl
  | domain => split <;> rfl

/-- **A binding** leaves the table in step, but for what it unbinds and what it binds anew. -/
theorem Tidy.bind (h : r.Tidy leaving starting) (hslot : slot ≠ .domain "") :
    (r.bind slot p).1.Tidy (fun id => leaving id ∨ id ∈ lost r (r.bind slot p).1)
      (fun id => starting id ∨ id ∈ gained r (r.bind slot p).1) := by
  have hbound : ∀ id, (r.bind slot p).1.isBound id = true → id = p.id ∨ r.isBound id = true := by
    intro id hid
    rw [isBound_bind] at hid
    by_cases hself : id = p.id
    · exact .inl hself
    · exact .inr (isBound_of_occupy hself hid)
  have hkeys : ∀ id, id ∈ Table.keys (r.bind slot p).1.statuses ↔
      id = p.id ∨ id ∈ Table.keys r.statuses := by
    intro id
    cases hwas : r.isBound p.id with
    | true =>
      rw [statuses_bind_of_bound hwas]
      exact ⟨.inr, fun hid => hid.elim (fun heq => heq ▸ h.listed _ hwas) fun hmem => hmem⟩
    | false => rw [statuses_bind_of_unbound hwas, Table.mem_keys_put]
  refine ⟨?_, fun id hid => ?_, fun id hid => ?_, fun id hid hstatus => ?_, ?_⟩
  · cases hwas : r.isBound p.id with
    | true => exact statuses_bind_of_bound hwas ▸ h.nodup
    | false => exact statuses_bind_of_unbound hwas ▸ Table.nodup_put h.nodup _ _
  · exact (hkeys id).mpr ((hbound id hid).imp_right (h.listed id))
  · -- an entry of an instance that was bound is kept until that one is released
    rcases (hkeys id).mp hid with rfl | hmem
    · exact .inl isBound_bind_self
    cases hnow : (r.bind slot p).1.isBound id with
    | true => exact .inl rfl
    | false =>
      refine .inr ((h.left id hmem).elim (fun hwas => .inr ?_) .inl)
      exact mem_lost.mpr ⟨hwas, hnow⟩
  · cases hwas : r.isBound id with
    | true =>
      rw [statusOf_bind_of_bound hwas] at hstatus
      exact .inl (h.unready id hwas hstatus)
    | false => exact .inr (mem_gained.mpr ⟨hid, hwas⟩)
  · rw [occupant?_bind, occupant?_occupy_of_ne hslot]
    exact h.named

/-! ### What is done afterwards -/

/-- **A release** takes an instance off those that are leaving: its entry is gone, unless it is
bound again. -/
theorem Tidy.release (h : r.Tidy (fun other => leaving other ∨ other = id) starting) :
    (r.release id).Tidy leaving starting := by
  cases hbound : r.isBound id with
  | true =>
    rw [Registry.release, if_pos hbound]
    refine ⟨h.nodup, h.listed, fun other hother => ?_, h.unready, h.named⟩
    rcases h.left other hother with hwas | hleaving | rfl
    · exact .inl hwas
    · exact .inr hleaving
    · exact .inl hbound
  | false =>
    have hkeys : Table.keys (r.release id).statuses = Table.keys (Table.erase id r.statuses) := by
      rw [Registry.release, if_neg (by simp [hbound])]
    refine ⟨?_, fun other hother => ?_, fun other hother => ?_, fun other hother hstatus => ?_, ?_⟩
    · rw [hkeys]
      exact Table.nodup_erase h.nodup id
    · rw [isBound_release] at hother
      rw [hkeys, Table.mem_keys_erase]
      refine ⟨h.listed other hother, ?_⟩
      rintro rfl
      rw [hbound] at hother
      exact Bool.noConfusion hother
    · rw [hkeys, Table.mem_keys_erase] at hother
      rw [isBound_release]
      exact (h.left other hother.1).imp_right fun hleaving => hleaving.resolve_right hother.2
    · rw [isBound_release] at hother
      rw [statusOf_release hother] at hstatus
      exact h.unready other hother hstatus
    · rw [Registry.release, if_neg (by simp [hbound])]
      exact h.named

/-- An event keeps the table in step; only an instance that has changed its configuration and
nothing else may go on being not ready. -/
theorem Tidy.of_announce {event : ProviderEvent} {code : Option ErrorCode}
    (h : r.Tidy leaving starting) (hannounce : r.announce id event code = some after) :
    after.Tidy leaving
      fun other => starting other ∧ (other = id → event = .configurationChanged) := by
  obtain ⟨hbound, hafter⟩ := eq_of_announce hannounce
  have hstatuses : after.statuses = Table.put id _ r.statuses := congrArg statuses hafter
  have hkeys : ∀ other, other ∈ Table.keys after.statuses ↔ other ∈ Table.keys r.statuses := by
    intro other
    rw [hstatuses, Table.mem_keys_put]
    exact ⟨fun hother => hother.elim (fun heq => heq ▸ h.listed id hbound) fun hmem => hmem, .inr⟩
  refine ⟨?_, fun other hother => ?_, fun other hother => ?_, fun other hother hstatus => ?_, ?_⟩
  · rw [hstatuses]
    exact Table.nodup_put h.nodup _ _
  · rw [isBound_announce hannounce] at hother
    exact (hkeys other).mpr (h.listed other hother)
  · rw [isBound_announce hannounce]
    exact h.left other ((hkeys other).mp hother)
  · rw [isBound_announce hannounce] at hother
    by_cases heq : id = other
    · subst heq
      rw [statusOf_announce_self hannounce] at hstatus
      constructor
      · -- whoever is ready at all stays so
        by_contra hnot
        have hready : r.statusOf id ≠ .notReady := fun hwas => hnot (h.unready id hother hwas)
        exact ProviderStatus.onEvent_ne_notReady hready _ _ hstatus
      · intro _
        by_contra hevent
        exact ProviderStatus.onEvent_ne_notReady_of_ne hevent _ _ hstatus
    · rw [statusOf_announce_of_ne heq hannounce] at hstatus
      exact ⟨h.unready other hother hstatus, fun hsame => absurd hsame.symm heq⟩
  · rw [hafter]
    exact h.named

/-- **An event keeps the table in step**, whether it is applied or dropped. -/
theorem Tidy.announce (h : r.Tidy leaving starting) (id : ProviderId) (event : ProviderEvent)
    (code : Option ErrorCode) : ((r.announce id event code).getD r).Tidy leaving starting := by
  cases hannounce : r.announce id event code with
  | none => exact h
  | some after => exact (h.of_announce hannounce).mono (fun _ hleft => hleft) fun _ => And.left

/-- **A report** takes an instance off those that are starting: as long as it is bound, it will not
be not ready again. -/
theorem Tidy.report {event : ProviderEvent} (hevent : event ≠ .configurationChanged)
    (h : r.Tidy leaving fun other => starting other ∨ other = id) (code : Option ErrorCode) :
    ((r.announce id event code).getD r).Tidy leaving starting := by
  cases hannounce : r.announce id event code with
  | none =>
    -- the instance is not bound
    refine ⟨h.nodup, h.listed, h.left, fun other hother hstatus => ?_, h.named⟩
    refine (h.unready other hother hstatus).resolve_right ?_
    rintro rfl
    obtain ⟨after, hafter⟩ := exists_announce hother event code
    exact Option.some_ne_none after (hafter.symm.trans hannounce)
  | some after =>
    refine (h.of_announce hannounce).mono (fun _ hleaving => hleaving) ?_
    rintro other ⟨hstarting, hself⟩
    exact hstarting.resolve_right fun heq => hevent (hself heq)

end Registry

end FeatureFlags
