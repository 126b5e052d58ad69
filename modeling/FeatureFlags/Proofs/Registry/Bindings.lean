import FeatureFlags.Registry
import FeatureFlags.Proofs.SortedMap.Lookup

/-!
# Bindings

Which instances a registry binds, and what a change of bindings does to them.  An instance
may sit in the default slot and in any number of domains at once; it counts as bound as long
as it sits anywhere.

The jobs that a change of bindings hands out are compared with what has really changed: an
instance is to be started exactly if it was bound nowhere and now is bound somewhere, and to
be shut down exactly if it was bound somewhere and now is bound nowhere.

## Main definitions

* `Registry.boundIds` — the bound instances, each once.
* `Registry.lost`, `Registry.gained` — the instances that a change of bindings unbinds, and
  those that it binds.
* `Registry.Change` — what a change of bindings asks for, held against what it changes.

## Main results

* `Registry.isBound_iff_occupant` — bound means to sit in some slot.
* `Registry.change_bind`, `Registry.change_clear` — **the jobs are exactly for the instances
  that were gained and lost.**
-/

namespace FeatureFlags

/-- The instance that a job is to start. -/
def LifecycleJob.starts? : LifecycleJob → Option ProviderId
  | .startUp p => some p.id
  | .shutDown _ => none

/-- The instance that a job is to shut down. -/
def LifecycleJob.stops? : LifecycleJob → Option ProviderId
  | .startUp _ => none
  | .shutDown p => some p.id

namespace Registry

variable {r : Registry} {slot : Slot} {p : ProviderRef} {id : ProviderId}

/-! ### Slots -/

/-- An instance is bound exactly if it sits in some slot. -/
theorem isBound_iff_occupant :
    r.isBound id = true ↔ ∃ slot q, r.occupant? slot = some q ∧ q.id = id := by
  rw [isBound, List.any_eq_true]
  constructor
  · rintro ⟨q, hq, hid⟩
    rcases List.mem_cons.mp hq with rfl | hq
    · exact ⟨.default, _, rfl, beq_iff_eq.mp hid⟩
    · obtain ⟨⟨name, _⟩, hentry, rfl⟩ := List.mem_map.mp hq
      exact ⟨.domain name, _, (Entries.find?_eq_some_iff r.domains.sorted).mpr hentry,
        beq_iff_eq.mp hid⟩
  · rintro ⟨slot, q, hq, rfl⟩
    refine ⟨q, ?_, beq_self_eq_true _⟩
    cases slot with
    | default => exact List.mem_cons.mpr (.inl (Option.some.inj hq).symm)
    | domain name =>
      have hentry := (Entries.find?_eq_some_iff r.domains.sorted).mp hq
      exact List.mem_cons_of_mem _ (List.mem_map.mpr ⟨_, hentry, rfl⟩)

theorem occupant?_occupy_self : (r.occupy slot p).occupant? slot = some p := by
  cases slot with
  | default => rfl
  | domain name => exact SortedMap.find?_insert_self r.domains name p

theorem occupant?_occupy_of_ne {other : Slot} (h : slot ≠ other) :
    (r.occupy slot p).occupant? other = r.occupant? other := by
  cases slot with
  | default =>
    cases other with
    | default => exact absurd rfl h
    | domain => rfl
  | domain name =>
    cases other with
    | default => rfl
    | domain other =>
      have hne : name ≠ other := fun heq => h (congrArg Slot.domain heq)
      exact SortedMap.find?_insert_of_ne r.domains hne p

/-- A provider that is put into a slot is bound. -/
theorem isBound_occupy_self : (r.occupy slot p).isBound p.id = true :=
  isBound_iff_occupant.mpr ⟨slot, p, occupant?_occupy_self, rfl⟩

/-- Nobody else becomes bound by it. -/
theorem isBound_of_occupy (hid : id ≠ p.id) (h : (r.occupy slot p).isBound id = true) :
    r.isBound id = true := by
  obtain ⟨other, q, hq, rfl⟩ := isBound_iff_occupant.mp h
  by_cases hother : slot = other
  · subst hother
    rw [occupant?_occupy_self] at hq
    exact absurd (congrArg ProviderRef.id (Option.some.inj hq).symm) hid
  · rw [occupant?_occupy_of_ne hother] at hq
    exact isBound_iff_occupant.mpr ⟨other, q, hq, rfl⟩

/-- Whoever is bound no longer sat in that slot. -/
theorem occupant?_of_unbound (hbefore : r.isBound id = true)
    (hafter : (r.occupy slot p).isBound id = false) :
    ∃ old, r.occupant? slot = some old ∧ old.id = id := by
  obtain ⟨other, q, hq, rfl⟩ := isBound_iff_occupant.mp hbefore
  by_cases hother : slot = other
  · exact ⟨q, hother ▸ hq, rfl⟩
  · have hstill : (r.occupy slot p).isBound q.id = true :=
      isBound_iff_occupant.mpr ⟨other, q, (occupant?_occupy_of_ne hother).trans hq, rfl⟩
    rw [hstill] at hafter
    exact absurd hafter (by simp)

/-! ### The bound instances -/

theorem mem_distinct {seen : List ProviderId} {refs : List ProviderRef} :
    id ∈ (distinct seen refs).map ProviderRef.id ↔ id ∈ refs.map ProviderRef.id ∧ id ∉ seen := by
  induction refs generalizing seen with
  | nil => simp [distinct]
  | cons q rest ih =>
    rw [distinct]
    by_cases hseen : seen.contains q.id = true
    · rw [if_pos hseen, ih, List.map_cons, List.mem_cons]
      have hmem := List.contains_iff_mem.mp hseen
      constructor
      · rintro ⟨hrest, hnot⟩
        exact ⟨.inr hrest, hnot⟩
      · rintro ⟨rfl | hrest, hnot⟩
        · exact absurd hmem hnot
        · exact ⟨hrest, hnot⟩
    · rw [if_neg hseen, List.map_cons, List.map_cons, List.mem_cons, List.mem_cons, ih,
        List.mem_cons]
      have hnot : q.id ∉ seen := fun hmem => hseen (List.contains_iff_mem.mpr hmem)
      constructor
      · rintro (rfl | ⟨hrest, hno⟩)
        · exact ⟨.inl rfl, hnot⟩
        · exact ⟨.inr hrest, fun hmem => hno (.inr hmem)⟩
      · rintro ⟨rfl | hrest, hno⟩
        · exact .inl rfl
        · by_cases heq : id = q.id
          · exact .inl heq
          · exact .inr ⟨hrest, fun hmem => hmem.elim heq hno⟩

theorem nodup_distinct (seen : List ProviderId) (refs : List ProviderRef) :
    ((distinct seen refs).map ProviderRef.id).Nodup := by
  induction refs generalizing seen with
  | nil => exact List.nodup_nil
  | cons q rest ih =>
    rw [distinct]
    by_cases hseen : seen.contains q.id = true
    · rw [if_pos hseen]
      exact ih seen
    · rw [if_neg hseen, List.map_cons, List.nodup_cons]
      exact ⟨fun hmem => (mem_distinct.mp hmem).2 List.mem_cons_self, ih _⟩

/-- The bound instances, each once. -/
def boundIds (r : Registry) : List ProviderId := (distinct [] r.bindings).map ProviderRef.id

theorem nodup_boundIds (r : Registry) : r.boundIds.Nodup := nodup_distinct [] r.bindings

theorem mem_boundIds : id ∈ r.boundIds ↔ r.isBound id = true := by
  rw [boundIds, mem_distinct, isBound, List.any_eq_true, List.mem_map]
  constructor
  · rintro ⟨⟨q, hq, rfl⟩, -⟩
    exact ⟨q, hq, beq_self_eq_true _⟩
  · rintro ⟨q, hq, hid⟩
    exact ⟨⟨q, hq, beq_iff_eq.mp hid⟩, List.not_mem_nil⟩

/-- The instances that a change of bindings unbinds. -/
def lost (r after : Registry) : List ProviderId := r.boundIds.filter fun id => !after.isBound id

/-- The instances that a change of bindings binds. -/
def gained (r after : Registry) : List ProviderId := lost after r

theorem mem_lost {after : Registry} :
    id ∈ lost r after ↔ r.isBound id = true ∧ after.isBound id = false := by
  rw [lost, List.mem_filter, mem_boundIds, Bool.not_eq_true']

theorem mem_gained {after : Registry} :
    id ∈ gained r after ↔ after.isBound id = true ∧ r.isBound id = false := mem_lost

theorem nodup_lost (r after : Registry) : (lost r after).Nodup := r.nodup_boundIds.filter _

theorem nodup_gained (r after : Registry) : (gained r after).Nodup := nodup_lost after r

/-- How often an instance is lost in one change of bindings. -/
theorem count_lost (r after : Registry) (id : ProviderId) :
    (lost r after).count id = if r.isBound id && !after.isBound id then 1 else 0 := by
  by_cases hlost : id ∈ lost r after
  · obtain ⟨hbefore, hafter⟩ := mem_lost.mp hlost
    rw [List.count_eq_one_of_mem (nodup_lost r after) hlost, hbefore, hafter]
    rfl
  · rw [List.count_eq_zero_of_not_mem hlost, if_neg]
    intro h
    rw [Bool.and_eq_true, Bool.not_eq_true'] at h
    exact hlost (mem_lost.mpr h)

theorem count_gained (r after : Registry) (id : ProviderId) :
    (gained r after).count id = if after.isBound id && !r.isBound id then 1 else 0 :=
  count_lost after r id

/-! ### The jobs of a change of bindings -/

/-- Binding a slot changes the same bindings as putting the provider there. -/
theorem isBound_bind : (r.bind slot p).1.isBound id = (r.occupy slot p).isBound id := by
  rw [bind]
  split <;> rfl

theorem isBound_bind_self : (r.bind slot p).1.isBound p.id = true :=
  isBound_bind.trans isBound_occupy_self

/-- Whoever loses its last binding is the orphan, and it is another one than the provider
that takes its place. -/
theorem mem_orphan?_iff :
    (∃ old, orphan? (r.occupant? slot) p (r.occupy slot p) = some old ∧ old.id = id) ↔
      r.isBound id = true ∧ (r.occupy slot p).isBound id = false := by
  constructor
  · rintro ⟨old, horphan, rfl⟩
    obtain ⟨hold, hkeep⟩ := Option.filter_eq_some_iff.mp horphan
    rw [Bool.and_eq_true, Bool.not_eq_true'] at hkeep
    exact ⟨isBound_iff_occupant.mpr ⟨slot, old, hold, rfl⟩, hkeep.2⟩
  · rintro ⟨hbefore, hafter⟩
    obtain ⟨old, hold, rfl⟩ := occupant?_of_unbound hbefore hafter
    refine ⟨old, Option.filter_eq_some_iff.mpr ⟨hold, ?_⟩, rfl⟩
    -- the provider that takes the slot is bound, so it is not the one that was unbound
    have hne : old.id ≠ p.id := by
      intro heq
      rw [heq, isBound_occupy_self] at hafter
      exact absurd hafter (by simp)
    rw [Bool.and_eq_true, Bool.not_eq_true', bne_iff_ne]
    exact ⟨hne, hafter⟩

/-- **A binding starts exactly what it gains.** -/
theorem starting_bind (r : Registry) (slot : Slot) (p : ProviderRef) :
    ((r.bind slot p).2.filterMap LifecycleJob.starts?).Perm (gained r (r.bind slot p).1) := by
  have hended : ∀ old : Option ProviderRef,
      (old.toList.map LifecycleJob.shutDown).filterMap LifecycleJob.starts? = [] := by
    rintro (_ | old) <;> rfl
  by_cases hbound : r.isBound p.id = true
  · -- the provider is bound already: nothing is started, and nothing is gained
    have hjobs : (r.bind slot p).2.filterMap LifecycleJob.starts? = [] := by
      rw [bind, if_pos hbound]
      exact hended _
    rw [hjobs]
    apply List.Perm.symm
    rw [List.perm_nil, List.eq_nil_iff_forall_not_mem]
    intro id hid
    obtain ⟨hafter, hbefore⟩ := mem_gained.mp hid
    rw [isBound_bind] at hafter
    by_cases heq : id = p.id
    · rw [heq, hbound] at hbefore
      exact absurd hbefore (by simp)
    · rw [isBound_of_occupy heq hafter] at hbefore
      exact absurd hbefore (by simp)
  · -- the provider is started, and it is all that is gained
    have hjobs : (r.bind slot p).2.filterMap LifecycleJob.starts? = [p.id] := by
      rw [bind, if_neg hbound]
      show (_ ++ [LifecycleJob.startUp p]).filterMap LifecycleJob.starts? = _
      rw [List.filterMap_append, hended]
      rfl
    rw [hjobs]
    apply (List.perm_ext_iff_of_nodup (List.nodup_singleton _) (nodup_gained _ _)).mpr
    intro id
    rw [List.mem_singleton, mem_gained, isBound_bind]
    constructor
    · rintro rfl
      exact ⟨isBound_occupy_self, Bool.not_eq_true _ ▸ hbound⟩
    · rintro ⟨hafter, hbefore⟩
      by_contra hne
      rw [isBound_of_occupy hne hafter] at hbefore
      exact absurd hbefore (by simp)

/-- **A binding shuts down exactly what it loses.** -/
theorem stopping_bind (r : Registry) (slot : Slot) (p : ProviderRef) :
    ((r.bind slot p).2.filterMap LifecycleJob.stops?).Perm (lost r (r.bind slot p).1) := by
  have hjobs : (r.bind slot p).2.filterMap LifecycleJob.stops? =
      (orphan? (r.occupant? slot) p (r.occupy slot p)).toList.map ProviderRef.id := by
    have hended : ∀ old : Option ProviderRef,
        (old.toList.map LifecycleJob.shutDown).filterMap LifecycleJob.stops? =
          old.toList.map ProviderRef.id := by
      rintro (_ | old) <;> rfl
    rw [bind]
    by_cases hbound : r.isBound p.id = true
    · rw [if_pos hbound]
      exact hended _
    · rw [if_neg hbound]
      show (_ ++ [LifecycleJob.startUp p]).filterMap LifecycleJob.stops? = _
      rw [List.filterMap_append, hended]
      exact List.append_nil _
  rw [hjobs]
  have hnodup : ((orphan? (r.occupant? slot) p (r.occupy slot p)).toList.map
      ProviderRef.id).Nodup := by
    cases orphan? (r.occupant? slot) p (r.occupy slot p) with
    | none => exact List.nodup_nil
    | some old => exact List.nodup_singleton _
  apply (List.perm_ext_iff_of_nodup hnodup (nodup_lost _ _)).mpr
  intro id
  rw [mem_lost, isBound_bind, ← mem_orphan?_iff, List.mem_map]
  constructor
  · rintro ⟨old, hold, hid⟩
    exact ⟨old, Option.mem_toList.mp hold, hid⟩
  · rintro ⟨old, hold, hid⟩
    exact ⟨old, Option.mem_toList.mpr hold, hid⟩

/-- A reset starts nothing. -/
theorem starting_clear (r : Registry) : r.clear.2.filterMap LifecycleJob.starts? = [] := by
  show ((distinct [] r.bindings).map LifecycleJob.shutDown).filterMap LifecycleJob.starts? = []
  rw [List.filterMap_map]
  exact List.filterMap_eq_nil_iff.mpr fun _ _ => rfl

/-- **A reset shuts down every bound instance once.** -/
theorem stopping_clear (r : Registry) :
    r.clear.2.filterMap LifecycleJob.stops? = r.boundIds := by
  show ((distinct [] r.bindings).map LifecycleJob.shutDown).filterMap LifecycleJob.stops? = _
  rw [List.filterMap_map, boundIds, ← List.filterMap_eq_map]
  rfl

/-- A fresh registry binds its own default. -/
theorem isBound_fresh (generation : Nat) (id : ProviderId) :
    (fresh generation).isBound id = (ProviderId.builtin generation == id) := by
  show ([builtin generation].any (·.id == id)) = _
  rw [List.any_cons, List.any_nil, Bool.or_false]
  rfl

/-- After a reset only the new default is bound. -/
theorem isBound_clear (r : Registry) (id : ProviderId) :
    r.clear.1.isBound id = true ↔ id = .builtin (r.generation + 1) := by
  rw [show r.clear.1.isBound id = (ProviderId.builtin (r.generation + 1) == id) from
    isBound_fresh _ id, beq_iff_eq]
  exact eq_comm

/-! ### Changes of bindings -/

/-- Whether an instance exists: the defaults that the registry makes for itself come into
being one after the other. -/
def hasMade (r : Registry) : ProviderId → Bool
  | .builtin generation => generation ≤ r.generation
  | .application _ => true

/-- What a change of bindings asks for: to start what it gains, apart from what is made in
doing so, and to shut down what it loses. -/
structure Change (r after : Registry) (jobs : List LifecycleJob) (made : List ProviderId) :
    Prop where
  starts : (jobs.filterMap LifecycleJob.starts? ++ made).Perm (gained r after)
  stops : (jobs.filterMap LifecycleJob.stops?).Perm (lost r after)
  hasMade : ∀ id, after.hasMade id = true ↔ r.hasMade id = true ∨ id ∈ made
  isNew : ∀ id ∈ made, r.hasMade id = false
  isMade : ∀ id, after.isBound id = true → after.hasMade id = true

/-- What a change starts was not bound before, and is now. -/
theorem Change.isBound_of_starts {after : Registry} {jobs : List LifecycleJob}
    {made : List ProviderId} (h : Change r after jobs made) {job : LifecycleJob}
    (hjob : job ∈ jobs) (hstarts : job.starts? = some id) :
    after.isBound id = true ∧ r.isBound id = false := by
  have hmem : id ∈ jobs.filterMap LifecycleJob.starts? :=
    List.mem_filterMap.mpr ⟨job, hjob, hstarts⟩
  exact mem_gained.mp (h.starts.subset (List.mem_append_left _ hmem))

/-- What is made in a change was not bound before, and is now. -/
theorem Change.isBound_of_made {after : Registry} {jobs : List LifecycleJob}
    {made : List ProviderId} (h : Change r after jobs made) (hmade : id ∈ made) :
    after.isBound id = true ∧ r.isBound id = false :=
  mem_gained.mp (h.starts.subset (List.mem_append_right _ hmade))

/-- What a change shuts down was bound before, and is not any more. -/
theorem Change.isBound_of_stops {after : Registry} {jobs : List LifecycleJob}
    {made : List ProviderId} (h : Change r after jobs made) {job : LifecycleJob}
    (hjob : job ∈ jobs) (hstops : job.stops? = some id) :
    r.isBound id = true ∧ after.isBound id = false :=
  mem_lost.mp (h.stops.subset (List.mem_filterMap.mpr ⟨job, hjob, hstops⟩))

/-- What is not bound afterwards was not made. -/
theorem Change.not_mem_made {after : Registry} {jobs : List LifecycleJob}
    {made : List ProviderId} (h : Change r after jobs made) (hafter : after.isBound id = false) :
    id ∉ made := by
  intro hmade
  rw [(h.isBound_of_made hmade).1] at hafter
  exact absurd hafter (by simp)

/-- What is bound has been made. -/
def Sound (r : Registry) : Prop := ∀ id, r.isBound id = true → r.hasMade id = true

theorem generation_bind (r : Registry) (slot : Slot) (p : ProviderRef) :
    (r.bind slot p).1.generation = r.generation := by
  rw [bind]
  cases slot with
  | default => split <;> rfl
  | domain name => split <;> rfl

theorem hasMade_bind (r : Registry) (slot : Slot) (p : ProviderRef) (id : ProviderId) :
    (r.bind slot p).1.hasMade id = r.hasMade id := by
  cases id with
  | builtin generation => rw [hasMade, hasMade, generation_bind]
  | application number => rfl

/-- **Binding a provider that exists is a change of bindings.** -/
theorem change_bind (hr : r.Sound) (slot : Slot) (hp : r.hasMade p.id = true) :
    Change r (r.bind slot p).1 (r.bind slot p).2 [] where
  starts := by
    rw [List.append_nil]
    exact starting_bind r slot p
  stops := stopping_bind r slot p
  hasMade id := by
    rw [hasMade_bind]
    exact ⟨.inl, fun h => h.resolve_right List.not_mem_nil⟩
  isNew _ hid := absurd hid List.not_mem_nil
  isMade id hid := by
    rw [hasMade_bind]
    by_cases heq : id = p.id
    · rw [heq]
      exact hp
    · rw [isBound_bind] at hid
      exact hr id (isBound_of_occupy heq hid)

/-- The default that a reset makes is a new one. -/
theorem hasMade_clear (r : Registry) (id : ProviderId) :
    r.clear.1.hasMade id = true ↔ r.hasMade id = true ∨ id = .builtin (r.generation + 1) := by
  cases id with
  | builtin generation =>
    show decide (generation ≤ r.generation + 1) = true ↔
      decide (generation ≤ r.generation) = true ∨ _
    rw [decide_eq_true_iff, decide_eq_true_iff, ProviderId.builtin.injEq]
    omega
  | application number => exact ⟨.inl, fun _ => rfl⟩

/-- **A reset is a change of bindings**, in whatever order its jobs come. -/
theorem change_clear (hr : r.Sound) {order : List LifecycleJob} (horder : order.Perm r.clear.2) :
    Change r r.clear.1 order [.builtin (r.generation + 1)] := by
  have hnew : r.hasMade (.builtin (r.generation + 1)) = false := by
    show decide (r.generation + 1 ≤ r.generation) = false
    rw [decide_eq_false_iff_not]
    omega
  -- what is bound has been made, so the new default cannot have been bound before
  have hunbound : r.isBound (.builtin (r.generation + 1)) = false := by
    rw [Bool.eq_false_iff]
    intro hbound
    rw [hr _ hbound] at hnew
    exact absurd hnew (by simp)
  refine ⟨?_, ?_, ?_, ?_, ?_⟩
  · have hstarts : order.filterMap LifecycleJob.starts? = [] := by
      have hperm := horder.filterMap LifecycleJob.starts?
      rw [starting_clear] at hperm
      exact List.perm_nil.mp hperm
    rw [hstarts, List.nil_append]
    apply (List.perm_ext_iff_of_nodup (List.nodup_singleton _) (nodup_gained _ _)).mpr
    intro id
    rw [List.mem_singleton, mem_gained, isBound_clear]
    constructor
    · rintro rfl
      exact ⟨rfl, hunbound⟩
    · exact And.left
  · refine (horder.filterMap LifecycleJob.stops?).trans ?_
    rw [stopping_clear]
    apply (List.perm_ext_iff_of_nodup r.nodup_boundIds (nodup_lost _ _)).mpr
    intro id
    rw [mem_boundIds, mem_lost, Bool.eq_false_iff, Ne, isBound_clear]
    constructor
    · intro hbound
      refine ⟨hbound, ?_⟩
      rintro rfl
      rw [hunbound] at hbound
      exact absurd hbound (by simp)
    · exact And.left
  · intro id
    rw [hasMade_clear, List.mem_singleton]
  · intro id hid
    rw [List.mem_singleton.mp hid]
    exact hnew
  · intro id hid
    rw [hasMade_clear]
    exact .inr ((isBound_clear r id).mp hid)

/-! ### Steps that change no binding -/

@[simp] theorem isBound_release (r : Registry) (released : ProviderId) :
    (r.release released).isBound id = r.isBound id := by
  rw [release]
  split <;> rfl

theorem isBound_announce {announced : ProviderId} {event : ProviderEvent}
    {code : Option ErrorCode} {after : Registry}
    (h : r.announce announced event code = some after) : after.isBound id = r.isBound id := by
  rw [announce] at h
  by_cases hbound : r.isBound announced = true
  · rw [if_pos hbound] at h
    rw [← Option.some.inj h]
    rfl
  · rw [if_neg hbound] at h
    exact absurd h (by simp)

@[simp] theorem hasMade_release (r : Registry) (released : ProviderId) :
    (r.release released).hasMade id = r.hasMade id := by
  have hgeneration : (r.release released).generation = r.generation := by
    rw [release]
    split <;> rfl
  cases id with
  | builtin generation => rw [hasMade, hasMade, hgeneration]
  | application number => rfl

theorem hasMade_announce {announced : ProviderId} {event : ProviderEvent}
    {code : Option ErrorCode} {after : Registry}
    (h : r.announce announced event code = some after) : after.hasMade id = r.hasMade id := by
  rw [announce] at h
  by_cases hbound : r.isBound announced = true
  · rw [if_pos hbound] at h
    rw [← Option.some.inj h]
    cases id <;> rfl
  · rw [if_neg hbound] at h
    exact absurd h (by simp)

/-- An event changes no binding, whether it is applied or dropped. -/
theorem isBound_announce_getD (announced : ProviderId) (event : ProviderEvent)
    (code : Option ErrorCode) :
    ((r.announce announced event code).getD r).isBound id = r.isBound id := by
  cases hannounce : r.announce announced event code with
  | none => rfl
  | some after => exact isBound_announce hannounce

theorem hasMade_announce_getD (announced : ProviderId) (event : ProviderEvent)
    (code : Option ErrorCode) :
    ((r.announce announced event code).getD r).hasMade id = r.hasMade id := by
  cases hannounce : r.announce announced event code with
  | none => rfl
  | some after => exact hasMade_announce hannounce

end Registry

end FeatureFlags
