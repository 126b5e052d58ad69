import FeatureFlags.Proofs.Registry.Bindings

/-!
# Statuses in the registry

What the steps of a registry do to the status of one instance.  An event changes the status of
the instance that it is about and of nobody else; a binding sets the status of the instance that
it binds only if that one was not bound, and a release forgets that of the released instance
only.

## Main results

* `Registry.statusOf_announce_self` — an event, on its own instance.
* `Registry.statusOf_bind_self`, `Registry.statusOf_bind_of_bound` — a binding.
* `Registry.statusOf_release`, `Registry.statusOf_release_of_ne` — a release.
-/

namespace FeatureFlags

namespace Registry

variable {r after : Registry} {id other : ProviderId} {slot : Slot} {p : ProviderRef}
  {event : ProviderEvent} {code : Option ErrorCode}

/-! ### Events -/

/-- An event of a bound instance is applied. -/
theorem exists_announce (hbound : r.isBound id = true) (event : ProviderEvent)
    (code : Option ErrorCode) : ∃ after, r.announce id event code = some after := by
  rw [announce, if_pos hbound]
  exact ⟨_, rfl⟩

/-- An event that is applied is one of a bound instance, and changes its entry alone. -/
theorem eq_of_announce (h : r.announce id event code = some after) :
    r.isBound id = true ∧ after = { r with
      statuses := Table.put id ((r.statusOf id).onEvent event code) r.statuses } := by
  rw [announce] at h
  split at h
  next hbound => exact ⟨hbound, (Option.some.inj h).symm⟩
  next => exact absurd h.symm (Option.some_ne_none _)

theorem statusOf_announce_self (h : r.announce id event code = some after) :
    after.statusOf id = (r.statusOf id).onEvent event code := by
  rw [(eq_of_announce h).2, statusOf, Table.find?_put_self, Option.getD_some]

theorem statusOf_announce_of_ne (hne : id ≠ other) (h : r.announce id event code = some after) :
    after.statusOf other = r.statusOf other := by
  rw [(eq_of_announce h).2, statusOf, Table.find?_put_of_ne hne, statusOf]

/-! ### Releases -/

theorem statusOf_release_of_ne (hne : id ≠ other) :
    (r.release id).statusOf other = r.statusOf other := by
  rw [release]
  split
  · rfl
  · rw [statusOf, Table.find?_erase_of_ne hne, statusOf]

/-- A release forgets the status of nobody who is bound. -/
theorem statusOf_release (hbound : r.isBound other = true) (id : ProviderId) :
    (r.release id).statusOf other = r.statusOf other := by
  by_cases hid : id = other
  · rw [release, if_pos (hid ▸ hbound)]
  · exact statusOf_release_of_ne hid

/-! ### Bindings -/

theorem statuses_occupy (r : Registry) (slot : Slot) (p : ProviderRef) :
    (r.occupy slot p).statuses = r.statuses := by
  cases slot <;> rfl

/-- A binding makes no entry for a provider that was bound already. -/
theorem statuses_bind_of_bound (hbound : r.isBound p.id = true) :
    (r.bind slot p).1.statuses = r.statuses := by
  rw [bind, if_pos hbound, statuses_occupy]

/-- It makes one, or replaces an old one, for a provider that was not. -/
theorem statuses_bind_of_unbound (hunbound : r.isBound p.id = false) :
    (r.bind slot p).1.statuses = Table.put p.id .notReady r.statuses := by
  rw [bind, if_neg (by simp [hunbound]), statuses_occupy]

/-- A binding sets the status of an instance that was not bound. -/
theorem statusOf_bind_self (hunbound : r.isBound p.id = false) :
    (r.bind slot p).1.statusOf p.id = .notReady := by
  rw [statusOf, statuses_bind_of_unbound hunbound, Table.find?_put_self, Option.getD_some]

/-- It leaves the status of every instance that was bound. -/
theorem statusOf_bind_of_bound (hbound : r.isBound id = true) :
    (r.bind slot p).1.statusOf id = r.statusOf id := by
  cases hwas : r.isBound p.id with
  | true => rw [statusOf, statuses_bind_of_bound hwas, statusOf]
  | false =>
    have hne : p.id ≠ id := by
      rintro rfl
      rw [hbound] at hwas
      exact Bool.noConfusion hwas
    rw [statusOf, statuses_bind_of_unbound hwas, Table.find?_put_of_ne hne, statusOf]

/-- What is to be done after an instance that was not bound has been: the one that lost its last
binding, if there is one, is shut down first, and it is another one. -/
theorem jobs_bind (slot : Slot) (hunbound : r.isBound p.id = false) :
    ∃ orphans : List ProviderRef, (∀ old ∈ orphans, old.id ≠ p.id) ∧
      (r.bind slot p).2 = orphans.map .shutDown ++ [.startUp p] := by
  have hnot : ¬r.isBound p.id = true := by simp [hunbound]
  refine ⟨(orphan? (r.occupant? slot) p (r.occupy slot p)).toList, ?_, ?_⟩
  · intro old hold
    have horphan := Option.mem_toList.mp hold
    obtain ⟨-, hkeep⟩ := Option.filter_eq_some_iff.mp horphan
    rw [Bool.and_eq_true, bne_iff_ne] at hkeep
    exact hkeep.1
  · rw [bind, if_neg hnot]

end Registry

end FeatureFlags
