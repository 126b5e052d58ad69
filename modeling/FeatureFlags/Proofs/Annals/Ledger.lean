import FeatureFlags.Proofs.Annals.Entries
import FeatureFlags.Proofs.Registry.Statuses
import Mathlib.Logic.Relation

/-!
# The registry and its annals

Every change of the registry is one of five: a binding, a reset, an event or the outcome of a start
that is applied to a bound instance, and the release of an instance that has been shut down.  Each
of them is put down in the same step, except that a release leaves no trace.

The status of a bound instance follows from the annals.  A binding sets the status of the instance
that it binds only if that one was not bound, and a release forgets the status of an instance only
if it is not bound; so neither touches an instance in the middle of a lifetime.

## Main definitions

* `Annals.Ledger` — a registry with its annals.
* `Annals.Step` — one change of the registry, as it is put down.
* `Annals.Faithful` — the status of every bound instance follows from the annals.

## Main results

* `Annals.Step.faithful` — **every change keeps the annals faithful.**
* `Annals.Steps.lifetime` — what is put down while an instance stays bound.
-/

namespace FeatureFlags

namespace Annals

/-- A registry with its annals. -/
abbrev Ledger := Registry × Annals

/-- The ledger of an instance that has not been used yet. -/
def Ledger.fresh : Ledger := (.fresh 0, [.made (.builtin 0)])

/-- What a binding changes, as it is put down. -/
def rebound (before after : Registry) : Annals :=
  (Registry.lost before after).map .unbound ++ (Registry.gained before after).map .bound

/-- What a reset changes, as it is put down. -/
def cleared (before after : Registry) : Annals :=
  (Registry.lost before after).map .unbound ++ [.made after.defaultProvider.id]

/-- One change of the registry, as it is put down. -/
inductive Step : Ledger → Ledger → Prop where
  | bind {r : Registry} {annals : Annals} (slot : Slot) {p : ProviderRef}
      (hmade : r.hasMade p.id = true) :
      Step (r, annals) ((r.bind slot p).1, annals ++ rebound r (r.bind slot p).1)
  | clear {r : Registry} {annals : Annals} :
      Step (r, annals) (r.clear.1, annals ++ cleared r r.clear.1)
  | announced {r after : Registry} {annals : Annals} {id : ProviderId} {event : ProviderEvent}
      {code : Option ErrorCode} (h : r.announce id event code = some after) :
      Step (r, annals) (after, annals ++ [.announced id event code])
  | reported {r after : Registry} {annals : Annals} {id : ProviderId} {lifetime : Nat}
      {outcome : Except EvaluationError Unit} (hlifetime : lifetime ≤ lifetimes id annals)
      (h : r.announce id (Lifecycle.startEvent outcome).1 (Lifecycle.startEvent outcome).2 =
        some after) :
      Step (r, annals) (after, annals ++ [.reported id lifetime outcome])
  | released {r : Registry} {annals : Annals} (id : ProviderId) :
      Step (r, annals) (r.release id, annals)

/-- Any number of changes. -/
abbrev Steps : Ledger → Ledger → Prop := Relation.ReflTransGen Step

/-- The status of every bound instance follows from the annals, and no start is older than the
lifetimes that have begun. -/
structure Faithful (l : Ledger) : Prop where
  sound : l.1.Sound
  status : ∀ id, l.1.isBound id = true → l.1.statusOf id = status id l.2
  lifetimes : ∀ id lifetime outcome, Entry.reported id lifetime outcome ∈ l.2 →
    lifetime ≤ lifetimes id l.2

/-! ### What a change does to the registry -/

theorem sound_announce {r after : Registry} {id : ProviderId} {event : ProviderEvent}
    {code : Option ErrorCode} (h : r.announce id event code = some after) (hr : r.Sound) :
    after.Sound := by
  intro other hother
  rw [Registry.isBound_announce h] at hother
  rw [Registry.hasMade_announce h]
  exact hr other hother

/-! ### What a change of bindings puts down -/

section Rebound

variable {before after : Registry} {id : ProviderId} {annals : Annals} {e : Entry}

theorem mem_rebound (he : e ∈ rebound before after) :
    (∃ other ∈ Registry.lost before after, e = .unbound other) ∨
      ∃ other ∈ Registry.gained before after, e = .bound other := by
  rcases List.mem_append.mp he with he | he
  · obtain ⟨other, hother, rfl⟩ := List.mem_map.mp he
    exact .inl ⟨other, hother, rfl⟩
  · obtain ⟨other, hother, rfl⟩ := List.mem_map.mp he
    exact .inr ⟨other, hother, rfl⟩

theorem mem_cleared (he : e ∈ cleared before after) :
    (∃ other ∈ Registry.lost before after, e = .unbound other) ∨
      e = .made after.defaultProvider.id := by
  rcases List.mem_append.mp he with he | he
  · obtain ⟨other, hother, rfl⟩ := List.mem_map.mp he
    exact .inl ⟨other, hother, rfl⟩
  · exact .inr (List.mem_singleton.mp he)

/-- A binding begins no lifetime of an instance that it does not gain. -/
theorem begins_rebound (hid : id ∉ Registry.gained before after) (he : e ∈ rebound before after) :
    e.begins id = false := by
  rcases mem_rebound he with ⟨other, -, rfl⟩ | ⟨other, hother, rfl⟩
  · rfl
  · have hne : other ≠ id := fun heq => hid (heq ▸ hother)
    exact decide_eq_false hne

/-- A binding applies no outcome of a start. -/
theorem reported_notMem_rebound {lifetime : Nat} {outcome : Except EvaluationError Unit} :
    .reported id lifetime outcome ∉ rebound before after := by
  intro he
  rcases mem_rebound he with ⟨_, -, heq⟩ | ⟨_, -, heq⟩
  · exact Entry.noConfusion heq
  · exact Entry.noConfusion heq

theorem reported_notMem_cleared {lifetime : Nat} {outcome : Except EvaluationError Unit} :
    .reported id lifetime outcome ∉ cleared before after := by
  intro he
  rcases mem_cleared he with ⟨_, -, heq⟩ | heq
  · exact Entry.noConfusion heq
  · exact Entry.noConfusion heq

/-- An instance that was bound and is not put down as unbound is still bound. -/
theorem isBound_of_rebound (hid : before.isBound id = true)
    (hnot : .unbound id ∉ rebound before after) : after.isBound id = true := by
  by_contra hlost
  refine hnot (List.mem_append_left _ (List.mem_map_of_mem ?_))
  exact Registry.mem_lost.mpr ⟨hid, Bool.eq_false_iff.mpr hlost⟩

/-- A reset unbinds everybody: the only instance that is bound after it did not exist before. -/
theorem unbound_mem_cleared {r : Registry} (hr : r.Sound) (hid : r.isBound id = true) :
    .unbound id ∈ cleared r r.clear.1 := by
  have hchange := Registry.change_clear hr (List.Perm.refl _)
  have hlost : id ∈ Registry.lost r r.clear.1 := by
    refine Registry.mem_lost.mpr ⟨hid, Bool.eq_false_iff.mpr fun hafter => ?_⟩
    have hnew := hchange.isNew id
      (List.mem_singleton.mpr ((Registry.isBound_clear r id).mp hafter))
    exact Bool.false_ne_true (hnew.symm.trans (hr id hid))
  exact List.mem_append_left _ (List.mem_map_of_mem hlost)

/-- Who was bound before is not gained. -/
theorem not_gained_of_bound (hid : before.isBound id = true) :
    id ∉ Registry.gained before after := by
  intro hgained
  exact Bool.false_ne_true ((Registry.mem_gained.mp hgained).2.symm.trans hid)

theorem applied_rebound : applied id (rebound before after) = [] := by
  rw [applied, List.filterMap_eq_nil_iff]
  intro e he
  rcases mem_rebound he with ⟨other, -, rfl⟩ | ⟨other, -, rfl⟩
  · rfl
  · rfl

theorem status_rebound_of_not (hid : id ∉ Registry.gained before after) :
    status id (annals ++ rebound before after) = status id annals := by
  rw [status_append fun e he => begins_rebound hid he, applied_rebound]
  rfl

/-- An instance that a binding gains is not ready. -/
theorem status_rebound_of_gained (hid : id ∈ Registry.gained before after) :
    status id (annals ++ rebound before after) = .notReady := by
  obtain ⟨first, later, hsplit, hlater⟩ : ∃ first later,
      Registry.gained before after = first ++ id :: later ∧ id ∉ later := by
    obtain ⟨first, later, hsplit⟩ := List.append_of_mem hid
    refine ⟨first, later, hsplit, ?_⟩
    have hnodup := Registry.nodup_gained before after
    rw [hsplit] at hnodup
    exact (List.nodup_cons.mp hnodup.of_append_right).1
  have hannals : annals ++ rebound before after =
      annals ++ ((Registry.lost before after).map Entry.unbound ++ first.map Entry.bound) ++
        [Entry.bound id] ++ later.map Entry.bound := by
    rw [rebound, hsplit]
    simp
  have hbegins : (Entry.bound id).begins id = true := decide_eq_true rfl
  have hrest : ∀ e ∈ later.map Entry.bound, e.begins id = false := by
    intro e he
    obtain ⟨other, hother, rfl⟩ := List.mem_map.mp he
    have hne : other ≠ id := fun heq => hlater (heq ▸ hother)
    exact decide_eq_false hne
  have happlied : applied id (later.map Entry.bound) = [] := by
    rw [applied, List.filterMap_map]
    exact List.filterMap_eq_nil_iff.mpr fun _ _ => rfl
  rw [hannals, status_append hrest, status_of_begins hbegins, happlied]
  rfl

end Rebound

/-! ### The status after a change -/

section Status

variable {r after : Registry} {annals : Annals} {id : ProviderId}

theorem status_of_bind {slot : Slot} {p : ProviderRef}
    (hstatus : ∀ id, r.isBound id = true → r.statusOf id = status id annals)
    (hid : (r.bind slot p).1.isBound id = true) :
    (r.bind slot p).1.statusOf id = status id (annals ++ rebound r (r.bind slot p).1) := by
  by_cases hbefore : r.isBound id = true
  · exact (Registry.statusOf_bind_of_bound hbefore).trans
      ((hstatus id hbefore).trans (status_rebound_of_not (not_gained_of_bound hbefore)).symm)
  · -- whoever is bound now and was not before is the provider that was put into the slot
    have hunbound : r.isBound id = false := Bool.eq_false_iff.mpr hbefore
    have hp : id = p.id := by
      by_contra hne
      rw [Registry.isBound_bind] at hid
      exact hbefore (Registry.isBound_of_occupy hne hid)
    subst hp
    exact (Registry.statusOf_bind_self hunbound).trans
      (status_rebound_of_gained (Registry.mem_gained.mpr ⟨hid, hunbound⟩)).symm

/-- After a reset the default of the registry's own is bound, and ready. -/
theorem status_of_clear (hid : r.clear.1.isBound id = true) :
    r.clear.1.statusOf id = status id (annals ++ cleared r r.clear.1) := by
  have hdefault : id = .builtin (r.generation + 1) := (Registry.isBound_clear r id).mp hid
  subst hdefault
  have hbegins : (Entry.made r.clear.1.defaultProvider.id).begins
      (.builtin (r.generation + 1)) = true := decide_eq_true rfl
  rw [cleared, ← List.append_assoc, status_of_begins hbegins]
  simp [Registry.clear, Registry.fresh, Registry.statusOf, Registry.builtin, Table.find?,
    Entry.firstStatus]

/-- An event, or the outcome of a start, that is applied and put down. -/
theorem status_of_applied {target : ProviderId} {event : ProviderEvent} {code : Option ErrorCode}
    {e : Entry} (hstatus : ∀ id, r.isBound id = true → r.statusOf id = status id annals)
    (h : r.announce target event code = some after)
    (he : ∀ id, e.applied? id = if target = id then some (event, code) else none)
    (hbegins : ∀ id, e.begins id = false) (hid : after.isBound id = true) :
    after.statusOf id = status id (annals ++ [e]) := by
  rw [Registry.isBound_announce h] at hid
  have hmore : ∀ other ∈ [e], other.begins id = false := by
    intro other hother
    rw [List.mem_singleton.mp hother]
    exact hbegins id
  rw [status_append hmore]
  by_cases htarget : target = id
  · subst htarget
    have happlied : applied target [e] = [(event, code)] := by simp [applied, he]
    rw [Registry.statusOf_announce_self h, hstatus target hid, happlied]
    rfl
  · have happlied : applied id [e] = [] := by simp [applied, he, htarget]
    rw [Registry.statusOf_announce_of_ne htarget h, hstatus id hid, happlied]
    rfl

end Status

/-! ### One change -/

variable {l l' : Ledger} {id : ProviderId}

theorem Step.sound (h : Step l l') (hl : l.1.Sound) : l'.1.Sound := by
  cases h with
  | bind slot hmade => exact (Registry.change_bind hl slot hmade).isMade
  | clear => exact (Registry.change_clear hl (List.Perm.refl _)).isMade
  | announced h => exact sound_announce h hl
  | reported _ h => exact sound_announce h hl
  | released other =>
    intro id hid
    rw [Registry.isBound_release] at hid
    rw [Registry.hasMade_release]
    exact hl id hid

/-- Annals only grow. -/
theorem Step.grows (h : Step l l') : ∃ more, l'.2 = l.2 ++ more := by
  cases h with
  | bind | clear | announced | reported => exact ⟨_, rfl⟩
  | released => exact ⟨[], (List.append_nil _).symm⟩

/-- An instance that is bound stays so unless it is put down that it was unbound, and until then no
lifetime of it begins. -/
theorem Step.lifetime (h : Step l l') (hl : l.1.Sound) (hid : l.1.isBound id = true) :
    ∃ more, l'.2 = l.2 ++ more ∧ (Entry.unbound id ∉ more →
      l'.1.isBound id = true ∧ ∀ e ∈ more, e.begins id = false) := by
  cases h with
  | bind slot hmade =>
    refine ⟨_, rfl, fun hmore => ⟨isBound_of_rebound hid hmore, fun e he => ?_⟩⟩
    exact begins_rebound (not_gained_of_bound hid) he
  | clear => exact ⟨_, rfl, fun hmore => absurd (unbound_mem_cleared hl hid) hmore⟩
  | announced h =>
    refine ⟨_, rfl, fun _ => ⟨(Registry.isBound_announce h).trans hid, fun e he => ?_⟩⟩
    rw [List.mem_singleton.mp he]
    rfl
  | reported _ h =>
    refine ⟨_, rfl, fun _ => ⟨(Registry.isBound_announce h).trans hid, fun e he => ?_⟩⟩
    rw [List.mem_singleton.mp he]
    rfl
  | @released r annals other =>
    refine ⟨[], (List.append_nil _).symm, fun _ => ⟨?_, fun e he => absurd he List.not_mem_nil⟩⟩
    exact (Registry.isBound_release r other).trans hid

/-- After every change, the status of a bound instance follows from the annals. -/
theorem Step.status (h : Step l l') (hl : Faithful l) (hid : l'.1.isBound id = true) :
    l'.1.statusOf id = status id l'.2 := by
  cases h with
  | bind => exact status_of_bind hl.status hid
  | clear => exact status_of_clear hid
  | announced h => exact status_of_applied hl.status h (fun _ => rfl) (fun _ => rfl) hid
  | reported _ h => exact status_of_applied hl.status h (fun _ => rfl) (fun _ => rfl) hid
  | released other =>
    rw [Registry.isBound_release] at hid
    exact (Registry.statusOf_release hid other).trans (hl.status id hid)

/-- A start whose outcome is put down was begun for a lifetime that had begun. -/
theorem Step.of_reported (h : Step l l') {lifetime : Nat} {outcome : Except EvaluationError Unit}
    (hmem : .reported id lifetime outcome ∈ l'.2) :
    .reported id lifetime outcome ∈ l.2 ∨ lifetime ≤ lifetimes id l.2 := by
  cases h with
  | bind => exact .inl ((List.mem_append.mp hmem).resolve_right reported_notMem_rebound)
  | clear => exact .inl ((List.mem_append.mp hmem).resolve_right reported_notMem_cleared)
  | announced =>
    refine .inl ((List.mem_append.mp hmem).resolve_right fun he => ?_)
    exact Entry.noConfusion (List.mem_singleton.mp he)
  | reported hlifetime =>
    rcases List.mem_append.mp hmem with hold | hnew
    · exact .inl hold
    · cases List.mem_singleton.mp hnew
      exact .inr hlifetime
  | released => exact .inl hmem

/-- A start that is put down is no older than the lifetimes that have begun. -/
theorem Step.lifetimes (h : Step l l')
    (hl : ∀ lifetime outcome, .reported id lifetime outcome ∈ l.2 → lifetime ≤ lifetimes id l.2)
    {lifetime : Nat} {outcome : Except EvaluationError Unit}
    (hmem : .reported id lifetime outcome ∈ l'.2) : lifetime ≤ lifetimes id l'.2 := by
  obtain ⟨more, hmore⟩ := h.grows
  have hgrows : Annals.lifetimes id l.2 ≤ Annals.lifetimes id l'.2 :=
    lifetimes_mono ⟨more, hmore.symm⟩
  rcases h.of_reported hmem with hold | hnew
  · exact (hl lifetime outcome hold).trans hgrows
  · exact hnew.trans hgrows

/-- **Every change keeps the annals faithful.** -/
theorem Step.faithful (h : Step l l') (hl : Faithful l) : Faithful l' where
  sound := h.sound hl.sound
  status _ hid := h.status hl hid
  lifetimes id _ _ hmem := h.lifetimes (hl.lifetimes id) hmem

/-! ### Any number of changes -/

theorem faithful_fresh : Faithful Ledger.fresh where
  sound := Lifecycle.System.sound_fresh
  status id hid := by
    have hid' : id = .builtin 0 := by
      rw [Ledger.fresh, Registry.isBound_fresh, beq_iff_eq] at hid
      exact hid.symm
    subst hid'
    rfl
  lifetimes id lifetime outcome hmem := Entry.noConfusion (List.mem_singleton.mp hmem)

theorem Steps.faithful (h : Steps l l') (hl : Faithful l) : Faithful l' := by
  induction h with
  | refl => exact hl
  | tail _ hstep ih => exact hstep.faithful ih

theorem Steps.grows (h : Steps l l') : l.2 <+: l'.2 := by
  induction h with
  | refl => exact List.prefix_refl _
  | tail _ hstep ih =>
    obtain ⟨more, hmore⟩ := hstep.grows
    exact ih.trans ⟨more, hmore.symm⟩

/-- **What is put down while an instance stays bound** begins no lifetime of it. -/
theorem Steps.lifetime (h : Steps l l') (hl : Faithful l) (hid : l.1.isBound id = true) :
    ∃ more, l'.2 = l.2 ++ more ∧ (Entry.unbound id ∉ more →
      l'.1.isBound id = true ∧ ∀ e ∈ more, e.begins id = false) := by
  induction h with
  | refl =>
    refine ⟨[], (List.append_nil _).symm, fun _ => ⟨hid, fun e he => ?_⟩⟩
    exact absurd he List.not_mem_nil
  | @tail m l' hsteps hstep ih =>
    obtain ⟨more, hmore, hkept⟩ := ih
    obtain ⟨last, hlast⟩ := hstep.grows
    refine ⟨more ++ last, by rw [hlast, hmore, List.append_assoc], fun hnot => ?_⟩
    obtain ⟨hbound, hbegins⟩ := hkept fun hmem => hnot (List.mem_append_left _ hmem)
    obtain ⟨last', hlast', hstay⟩ := hstep.lifetime (Steps.faithful hsteps hl).sound hbound
    obtain rfl := List.append_cancel_left (hlast.symm.trans hlast')
    obtain ⟨hbound', hbegins'⟩ := hstay fun hmem => hnot (List.mem_append_right _ hmem)
    refine ⟨hbound', fun e he => ?_⟩
    rcases List.mem_append.mp he with he | he
    · exact hbegins e he
    · exact hbegins' e he

end Annals

end FeatureFlags
