import FeatureFlags.Proofs.Lifecycle.Quiescence

/-!
# What a call that binds a provider waits for

A call that binds a provider shuts down what it unbinds and starts the provider, unless that one
is bound already.  So the call that makes an instance bound does not return before the start has
ended.  A call that binds the same instance to a further slot does not start it, and does not wait
for the call that does: it may return while the instance is still being started.

## Main definitions

* `Lifecycle.System.Holds` — an instance has stayed bound, with a property of its status, or was
  unbound meanwhile.
* `Lifecycle.System.Serves` — a call that does its duties one by one.
* `Lifecycle.Pool.HasStarted` — the start of the current lifetime of an instance has ended.
* `Lifecycle.Pool.Returned`, `Lifecycle.Pool.Keeps` — a call has returned, and an instance has
  stayed bound meanwhile.

## Main results

* `Lifecycle.System.Holds.play` — a status that no event undoes is kept as long as the instance
  stays bound.
* `Lifecycle.System.Serves.play` — **a call that has returned has done all its duties.**
* `Lifecycle.Pool.started_when_returned_iff` — **a call that binds an instance returns only when
  that one has been started, exactly if the instance was not bound before or has been started by
  then.**
-/

namespace FeatureFlags

/-! ### Statuses of a bound instance -/

namespace Registry

variable {r : Registry} {id : ProviderId}

/-- What an event does to the status of an instance: nothing, or what the event says. -/
theorem statusOf_announce_getD (announced : ProviderId) (event : ProviderEvent)
    (code : Option ErrorCode) :
    ((r.announce announced event code).getD r).statusOf id = r.statusOf id ∨
      ((r.announce announced event code).getD r).statusOf id =
        (r.statusOf id).onEvent event code := by
  cases hannounce : r.announce announced event code with
  | none => exact .inl rfl
  | some after =>
    by_cases heq : announced = id
    · subst heq
      exact .inr (statusOf_announce_self hannounce)
    · exact .inl (statusOf_announce_of_ne heq hannounce)

end Registry

namespace Lifecycle

/-- A duty that is done changes the status of a bound instance by an event, if at all. -/
theorem statusOf_apply {r : Registry} {id : ProviderId} (hbound : r.isBound id = true)
    (duty : Duty) (outcome : Except EvaluationError Unit) :
    (duty.apply outcome r).statusOf id = r.statusOf id ∨ ∃ event code,
      (duty.apply outcome r).statusOf id = (r.statusOf id).onEvent event code := by
  unfold Duty.apply
  split
  · exact (Registry.statusOf_announce_getD _ _ _).imp_right fun h => ⟨_, _, h⟩
  · exact .inl (Registry.statusOf_release hbound _)
  · exact .inl rfl

/-- When its start has been reported, a bound instance is not `notReady`. -/
theorem statusOf_apply_report {r : Registry} {duty : Duty} (hreport : duty.stage = .report)
    (hbound : r.isBound duty.id = true) (outcome : Except EvaluationError Unit) :
    (duty.apply outcome r).statusOf duty.id ≠ .notReady := by
  have hevent : (startEvent outcome).1 ≠ .configurationChanged := by
    cases outcome <;> exact ProviderEvent.noConfusion
  obtain ⟨after, hannounce⟩ :=
    Registry.exists_announce hbound (startEvent outcome).1 (startEvent outcome).2
  have happly : duty.apply outcome r = after := by
    unfold Duty.apply
    rw [hreport, hannounce]
    rfl
  rw [happly, Registry.statusOf_announce_self hannounce]
  exact ProviderStatus.onEvent_ne_notReady_of_ne hevent _ _

namespace System

variable {x y : System} {id : ProviderId} {n : Nat}

/-! ### Histories along a run -/

theorem history_rebind (x : System) (after : Registry) (jobs : List LifecycleJob)
    (made : List ProviderId) : x.history <+: (x.rebind after jobs made).history :=
  (List.prefix_append _ _).trans (List.prefix_append _ _)

/-- What has happened is never forgotten. -/
theorem history_play (x : System) (move : Move) : x.history <+: (x.play move).history := by
  cases move with
  | bind slot p =>
    rw [play]
    split
    · exact x.history_rebind _ _ _
    · exact List.prefix_rfl
  | clear order =>
    rw [play]
    split
    · exact x.history_rebind _ _ _
    · exact List.prefix_rfl
  | turn call outcome =>
    rcases x.play_turn_cases call outcome with hsame | ⟨_, _, _, _, -, -, hplay⟩
    · exact hsame.symm ▸ List.prefix_rfl
    · rw [hplay]
      exact List.prefix_append _ _
  | emit => exact List.prefix_append _ _

theorem history_after (x : System) (moves : List Move) :
    x.history <+: (x.after moves).history := by
  induction moves generalizing x with
  | nil => exact List.prefix_rfl
  | cons move moves ih => exact (x.history_play move).trans (ih _)

/-- An instance that was bound, and has not been unbound since, is in the same lifetime. -/
theorem Balanced.same_lifetime (hx : x.Balanced) (hy : y.Balanced)
    (hgrows : x.history <+: y.history) (hbound : x.registry.isBound id = true)
    (hkeeps : y.history.count (.unbound id) = x.history.count (.unbound id)) :
    lifetimes y.history id = lifetimes x.history id ∧ y.registry.isBound id = true := by
  have hbefore := hx.bindings id
  have hafter := hy.bindings id
  have hmore : x.history.count (.bound id) ≤ y.history.count (.bound id) :=
    hgrows.sublist.count_le _
  rw [hbound, if_pos rfl] at hbefore
  rw [lifetimes, lifetimes]
  cases hnow : y.registry.isBound id with
  | true =>
    rw [hnow, if_pos rfl] at hafter
    exact ⟨by omega, rfl⟩
  | false =>
    rw [hnow, if_neg Bool.false_ne_true] at hafter
    omega

/-! ### Staying bound -/

/-- After `n` unbindings of an instance it is bound, with a property of its status, until it is
unbound again. -/
def Holds (x : System) (id : ProviderId) (n : Nat) (P : ProviderStatus → Prop) : Prop :=
  n < x.history.count (.unbound id) ∨
    n = x.history.count (.unbound id) ∧ x.registry.isBound id = true ∧ P (x.registry.statusOf id)

/-- What changes no binding changes a status by events alone. -/
theorem Holds.goes_on {P : ProviderStatus → Prop}
    (hP : ∀ status event code, P status → P (ProviderStatus.onEvent status event code))
    (h : x.Holds id n P) (hcount : y.history.count (.unbound id) = x.history.count (.unbound id))
    (hbound : y.registry.isBound id = x.registry.isBound id)
    (hstatus : x.registry.isBound id = true → y.registry.statusOf id = x.registry.statusOf id ∨
      ∃ event code, y.registry.statusOf id = (x.registry.statusOf id).onEvent event code) :
    y.Holds id n P := by
  rw [Holds, hcount, hbound]
  refine h.imp_right ?_
  rintro ⟨hn, hwas, hbefore⟩
  refine ⟨hn, hwas, ?_⟩
  rcases hstatus hwas with heq | ⟨event, code, heq⟩
  · exact heq.symm ▸ hbefore
  · exact heq.symm ▸ hP _ _ _ hbefore

/-- A change of bindings unbinds an instance or leaves its status. -/
theorem Holds.rebind {P : ProviderStatus → Prop} (h : x.Holds id n P) {after : Registry}
    (jobs : List LifecycleJob) (made : List ProviderId)
    (hstatus : x.registry.isBound id = true → after.isBound id = true →
      after.statusOf id = x.registry.statusOf id) : (x.rebind after jobs made).Holds id n P := by
  rcases h with hlt | ⟨rfl, hbound, hP⟩
  · have hmore := (x.history_rebind after jobs made).sublist.count_le (.unbound id)
    exact .inl (Nat.lt_of_lt_of_le hlt hmore)
  have hcount := count_unbound_rebind x after jobs made id
  rw [Registry.count_lost, hbound] at hcount
  cases hafter : after.isBound id with
  | true =>
    rw [hafter] at hcount
    exact .inr ⟨hcount.symm, hafter, (hstatus hbound hafter).symm ▸ hP⟩
  | false =>
    rw [hafter] at hcount
    exact .inl (by rw [hcount]; exact Nat.lt_succ_self _)

/-- **A status that no event undoes is kept** as long as the instance stays bound. -/
theorem Holds.play {P : ProviderStatus → Prop}
    (hP : ∀ status event code, P status → P (ProviderStatus.onEvent status event code))
    (hsound : x.registry.Sound) (h : x.Holds id n P) (move : Move) :
    (x.play move).Holds id n P := by
  cases move with
  | bind slot p =>
    rw [System.play]
    split
    · exact h.rebind _ _ fun hbound _ => Registry.statusOf_bind_of_bound hbound
    · exact h
  | clear order =>
    rw [System.play]
    split
    · -- the new default was not bound before
      refine h.rebind _ _ fun hbound hafter => ?_
      have hmade := hsound id hbound
      rw [(Registry.isBound_clear _ _).mp hafter, Registry.hasMade, decide_eq_true_iff] at hmade
      omega
    · exact h
  | turn call outcome =>
    rcases x.play_turn_cases call outcome with hsame | ⟨_, duty, _, _, -, -, hplay⟩
    · rw [hsame]
      exact h
    · rw [hplay]
      exact h.goes_on hP (count_unbound_notes _ _ _ _) (isBound_apply _ _ _ _)
        fun hbound => statusOf_apply hbound duty outcome
  | emit announced event code =>
    refine h.goes_on hP ?_ (Registry.isBound_announce_getD _ _ _) fun _ => ?_
    · exact List.count_append.trans (Nat.add_zero _)
    · exact (Registry.statusOf_announce_getD announced event code).imp_right fun heq => ⟨_, _, heq⟩

theorem Holds.after {P : ProviderStatus → Prop}
    (hP : ∀ status event code, P status → P (ProviderStatus.onEvent status event code))
    (hsound : x.registry.Sound) (h : x.Holds id n P) (moves : List Move) :
    (x.after moves).Holds id n P :=
  (play_induction (P := fun y => y.Holds id n P)
    (fun _ move hsound hy => hy.play hP hsound move) hsound h moves).2

/-! ### Calls that do their duties -/

/-- What a move does to a call: nothing, or its next duty. -/
theorem calls_play {call : Nat} {todo : List Duty} (hcall : x.calls[call]? = some todo)
    (move : Move) :
    (x.play move).calls[call]? = some todo ∨ ∃ duty rest outcome calls, todo = duty :: rest ∧
      calls[call]? = some rest ∧
        x.play move = ⟨duty.apply outcome x.registry, calls, x.history ++ duty.notes outcome⟩ := by
  have hnew : ∀ new : List Duty, (x.calls ++ [new])[call]? = some todo := by
    intro new
    obtain ⟨hlt, -⟩ := List.getElem?_eq_some_iff.mp hcall
    rw [List.getElem?_append_left hlt, hcall]
  cases move with
  | bind slot p =>
    rw [System.play]
    split
    · exact .inl (hnew _)
    · exact .inl hcall
  | clear order =>
    rw [System.play]
    split
    · exact .inl (hnew _)
    · exact .inl hcall
  | turn turned outcome =>
    rcases x.play_turn_cases turned outcome with
      hsame | ⟨before, duty, rest, later, hcalls, rfl, hplay⟩
    · rw [hsame]
      exact .inl hcall
    have hset : before ++ rest :: later = x.calls.set before.length rest := by
      rw [hcalls, List.set_append_right _ _ (Nat.le_refl _), Nat.sub_self]
      rfl
    rw [hplay, hset]
    by_cases hturned : before.length = call
    · subst hturned
      rw [hcalls, List.getElem?_append_right (Nat.le_refl _), Nat.sub_self] at hcall
      refine .inr ⟨duty, rest, outcome, _, (Option.some.inj hcall).symm, ?_, rfl⟩
      rw [← hset, List.getElem?_append_right (Nat.le_refl _), Nat.sub_self]
      rfl
    · exact .inl ((List.getElem?_set_ne hturned).trans hcall)
  | emit => exact .inl hcall

/-- A duty has been done; if it was to report the start of an instance that is bound still, then
that one is not `notReady`. -/
def Done (x : System) (duty : Duty) (id : ProviderId) (n : Nat) : Prop :=
  .did duty ∈ x.history ∧
    (duty.stage = .report → duty.id = id → x.Holds id n (· ≠ .notReady))

/-- A call has some duties, each of which it has still to do or has done, and an instance has been
bound since `n` unbindings of it. -/
structure Serves (x : System) (call : Nat) (todo : List Duty) (id : ProviderId) (n : Nat) :
    Prop where
  holds : x.Holds id n fun _ => True
  going : ∃ rest, x.calls[call]? = some rest ∧ ∀ duty ∈ todo, duty ∈ rest ∨ x.Done duty id n

theorem Done.play {duty : Duty} (hsound : x.registry.Sound) (h : x.Done duty id n) (move : Move) :
    (x.play move).Done duty id n := by
  refine ⟨(x.history_play move).subset h.1, fun hstage hid => ?_⟩
  refine (h.2 hstage hid).play (fun _ _ _ hready => ?_) hsound move
  exact ProviderStatus.onEvent_ne_notReady hready _ _

/-- A duty that is done in a turn. -/
theorem done_of_turn {duty : Duty} (h : x.Holds id n fun _ => True)
    (outcome : Except EvaluationError Unit) (calls : List (List Duty)) :
    System.Done ⟨duty.apply outcome x.registry, calls, x.history ++ duty.notes outcome⟩ duty id
      n := by
  constructor
  · apply List.mem_append_right
    unfold Duty.notes
    split <;> exact List.mem_cons_self
  · rintro hstage rfl
    rw [Holds, count_unbound_notes, isBound_apply]
    refine h.imp_right ?_
    rintro ⟨hn, hbound, -⟩
    exact ⟨hn, hbound, statusOf_apply_report hstage hbound outcome⟩

/-- **A call goes on doing its duties**, whatever the next move is. -/
theorem Serves.play {call : Nat} {todo : List Duty} (hsound : x.registry.Sound)
    (h : x.Serves call todo id n) (move : Move) : (x.play move).Serves call todo id n := by
  obtain ⟨hholds, rest, hcall, hduties⟩ := h
  refine ⟨hholds.play (fun _ _ _ _ => trivial) hsound move, ?_⟩
  rcases calls_play hcall move with hsame | ⟨done, left, outcome, calls, rfl, hleft, hplay⟩
  · exact ⟨rest, hsame, fun duty hduty =>
      (hduties duty hduty).imp_right fun hdone => hdone.play hsound move⟩
  · -- the turn of the call itself: its first duty is done, and the others are left
    refine ⟨left, ?_, fun duty hduty => ?_⟩
    · rw [hplay]
      exact hleft
    rcases hduties duty hduty with hmem | hdone
    · rcases List.mem_cons.mp hmem with rfl | hmem
      · rw [hplay]
        exact .inr (done_of_turn hholds outcome calls)
      · exact .inl hmem
    · exact .inr (hdone.play hsound move)

theorem Serves.after {call : Nat} {todo : List Duty} (hsound : x.registry.Sound)
    (h : x.Serves call todo id n) (moves : List Move) : (x.after moves).Serves call todo id n :=
  (play_induction (P := fun y => y.Serves call todo id n)
    (fun _ move hsound hy => hy.play hsound move) hsound h moves).2

/-- A call that has just been started by binding an instance. -/
theorem serves_rebind {after : Registry} {jobs : List LifecycleJob} {made : List ProviderId}
    (hbound : after.isBound id = true) :
    (x.rebind after jobs made).Serves x.calls.length
      (jobs.flatMap (duties (x.history ++ changes x.registry after))) id
      ((x.rebind after jobs made).history.count (.unbound id)) where
  holds := .inr ⟨rfl, hbound, trivial⟩
  going := by
    refine ⟨_, ?_, fun duty hduty => .inl hduty⟩
    rw [rebind, List.getElem?_append_right (Nat.le_refl _), Nat.sub_self]
    rfl

/-- The lifetimes begun when a call is started are those that its duties are for. -/
theorem lifetimes_rebind (x : System) (after : Registry) (jobs : List LifecycleJob)
    (made : List ProviderId) (id : ProviderId) :
    lifetimes (x.rebind after jobs made).history id =
      lifetimes (x.history ++ changes x.registry after) id := by
  rw [rebind, lifetimes, List.count_append, count_creation (fun _ => Note.noConfusion),
    Nat.add_zero, lifetimes]

/-! ### From the start of a call to its return -/

section Return

variable {after : Registry} {jobs : List LifecycleJob} {made : List ProviderId}

/-- An instance that is bound when a call is started, and is not unbound meanwhile, stays in its
lifetime. -/
theorem same_lifetime_after (hsound : x.registry.Sound) (hx : x.Balanced)
    (hchange : Registry.Change x.registry after jobs made) (hbound : after.isBound id = true)
    (moves : List Move)
    (hkeeps : ((x.rebind after jobs made).after moves).history.count (.unbound id) =
      (x.rebind after jobs made).history.count (.unbound id)) :
    lifetimes ((x.rebind after jobs made).after moves).history id =
      lifetimes (x.rebind after jobs made).history id := by
  have hstep : Step x (x.rebind after jobs made) := .rebind hchange
  have hy : (x.rebind after jobs made).Balanced := hx.step hstep
  have hz : ((x.rebind after jobs made).after moves).Balanced := by
    refine (play_induction (fun x move hsound hx => ?_) (hstep.sound hsound) hy moves).2
    exact hx.step (play_step hsound move)
  exact (hy.same_lifetime hz (history_after _ moves) hbound hkeeps).1

/-- **A call that has bound an instance anew and has returned** has started it, and the instance is
not `notReady`, if nobody has unbound it meanwhile. -/
theorem started_of_gained (hsound : x.registry.Sound) (hx : x.Balanced)
    (hchange : Registry.Change x.registry after jobs made)
    (hgained : id ∈ Registry.gained x.registry after) (hmade : id ∉ made) (moves : List Move)
    (hreturned : ((x.rebind after jobs made).after moves).calls[x.calls.length]? = some [])
    (hkeeps : ((x.rebind after jobs made).after moves).history.count (.unbound id) =
      (x.rebind after jobs made).history.count (.unbound id)) :
    let z := (x.rebind after jobs made).after moves
    .did ⟨.started, id, lifetimes z.history id⟩ ∈ z.history ∧
      z.registry.statusOf id ≠ .notReady := by
  intro z
  have hbound := (Registry.mem_gained.mp hgained).1
  have hserves : z.Serves x.calls.length _ id _ :=
    (serves_rebind hbound).after ((Step.rebind hchange).sound hsound) moves
  obtain ⟨rest, hrest, hduties⟩ := hserves.going
  obtain rfl : rest = [] := Option.some.inj (hrest.symm.trans hreturned)
  -- the call has the start of the instance among its duties, so it has done it
  have hdone : ∀ stage ∈ startStages, z.Done ⟨stage, id, lifetimes z.history id⟩ id
      ((x.rebind after jobs made).history.count (.unbound id)) := by
    intro stage hstage
    refine (hduties _ ?_).resolve_left List.not_mem_nil
    have hmem := (List.mem_append.mp (hchange.starts.mem_iff.mpr hgained)).resolve_right hmade
    obtain ⟨job, hjob, hstarts⟩ := List.mem_filterMap.mp hmem
    rw [same_lifetime_after hsound hx hchange hbound moves hkeeps, lifetimes_rebind]
    exact List.mem_flatMap.mpr ⟨job, hjob, mem_duties_of_starts hstarts hstage⟩
  refine ⟨(hdone .started (by decide)).1, ?_⟩
  rcases (hdone .report (by decide)).2 rfl rfl with hlt | ⟨-, -, hready⟩
  · exact absurd hkeeps (Nat.ne_of_gt hlt)
  · exact hready

/-- **An instance that is bound to a further slot** stays in its lifetime, and once it is not
`notReady` it is never again, if nobody unbinds it. -/
theorem kept_of_bound (hsound : x.registry.Sound) (hx : x.Balanced) {slot : Slot} {p : ProviderRef}
    (hmade : x.registry.hasMade p.id = true) (hbound : x.registry.isBound p.id = true)
    (moves : List Move) :
    let y := x.rebind (x.registry.bind slot p).1 (x.registry.bind slot p).2 []
    (y.after moves).history.count (.unbound p.id) = y.history.count (.unbound p.id) →
      lifetimes (y.after moves).history p.id = lifetimes x.history p.id ∧
        (x.registry.statusOf p.id ≠ .notReady →
          (y.after moves).registry.statusOf p.id ≠ .notReady) := by
  intro y hkeeps
  have hchange := Registry.change_bind hsound slot hmade
  constructor
  · rw [same_lifetime_after hsound hx hchange Registry.isBound_bind_self moves hkeeps,
      lifetimes_rebind, lifetimes_changes, hbound, Registry.isBound_bind_self]
    rfl
  · intro hready
    have hholds : y.Holds p.id (y.history.count (.unbound p.id)) (· ≠ .notReady) := by
      refine .inr ⟨rfl, Registry.isBound_bind_self, ?_⟩
      show (x.registry.bind slot p).1.statusOf p.id ≠ .notReady
      rw [Registry.statusOf_bind_of_bound hbound]
      exact hready
    have hafter := hholds.after (fun _ _ _ hP => ProviderStatus.onEvent_ne_notReady hP _ _)
      ((Step.rebind hchange).sound hsound) moves
    rcases hafter with hlt | ⟨-, -, hready⟩
    · exact absurd hkeeps (Nat.ne_of_gt hlt)
    · exact hready

end Return

end System

/-! ### Calls of a pool -/

theorem did_notMem_changes (before after : Registry) (duty : Duty) :
    .did duty ∉ System.changes before after := by
  simp [System.changes]

section Pool

variable {W : Type} {x : System} {pool : Pool W} {id : ProviderId}

namespace Pool

/-- The start of the current lifetime of an instance has ended. -/
def HasStarted (x : Pool W) (id : ProviderId) : Prop :=
  .did ⟨.started, id, lifetimes x.history id⟩ ∈ x.history

instance (x : Pool W) (id : ProviderId) : Decidable (x.HasStarted id) :=
  inferInstanceAs (Decidable (_ ∈ x.history))

/-- A call has returned. -/
def Returned (x : Pool W) (call : Nat) : Prop := x.calls[call]?.any Task.isEnded = true

instance (x : Pool W) (call : Nat) : Decidable (x.Returned call) :=
  inferInstanceAs (Decidable (_ = true))

/-- Nobody has unbound an instance between two points of a run. -/
def Keeps (x y : Pool W) (id : ProviderId) : Prop :=
  y.history.count (.unbound id) = x.history.count (.unbound id)

instance (x y : Pool W) (id : ProviderId) : Decidable (x.Keeps y id) :=
  inferInstanceAs (Decidable (_ = _))

end Pool

theorem Mirrors.hasStarted_iff (h : Mirrors x pool) :
    pool.HasStarted id ↔ .did ⟨.started, id, lifetimes x.history id⟩ ∈ x.history := by
  have hlifetimes : lifetimes pool.history id = lifetimes x.history id := h.count_eq rfl
  rw [Pool.HasStarted, hlifetimes, ← h.history, List.mem_filter]
  exact ⟨And.left, fun hmem => ⟨hmem, rfl⟩⟩

/-- A call that has returned has nothing left to do. -/
theorem Mirrors.returned (h : Mirrors x pool) {call : Nat} (hreturned : pool.Returned call) :
    x.calls[call]? = some [] := by
  rw [Pool.Returned, Option.any_eq_true] at hreturned
  obtain ⟨t, ht, hended⟩ := hreturned
  obtain ⟨hlt, hget⟩ := List.getElem?_eq_some_iff.mp ht
  have hlt' : call < x.calls.length := h.calls.length_eq ▸ hlt
  have howes := h.calls.get hlt hlt'
  rw [List.get_eq_getElem, List.get_eq_getElem, hget] at howes
  rw [List.getElem?_eq_some_iff]
  exact ⟨hlt', (howes pool.state).eq_nil hended⟩

/-- A call that binds an instance to a further slot starts nothing: if it is run to its end with
nothing in between, then it returns with as much of the instance done as before. -/
theorem Pool.returns_unstarted {host : Host W} (hhost : host.Discreet) {slot : Slot}
    {p : ProviderRef} (hpossible : slot ≠ .domain "" ∧ pool.registry.hasMade p.id)
    (hbound : pool.registry.isBound p.id = true) (hnot : ¬pool.HasStarted p.id) :
    let y := pool.act host (.bind slot p)
    ∃ more, (y.after host more).Returned pool.calls.length ∧ y.Keeps (y.after host more) p.id ∧
      ¬(y.after host more).HasStarted p.id := by
  intro y
  obtain ⟨call, hy, howes⟩ := Pool.act_bind hhost hpossible
  have hcalls : y.calls = pool.calls ++ [call] := congrArg Pool.calls hy
  obtain ⟨n, hrun⟩ := Pool.exists_after_run host hcalls
  refine ⟨List.replicate n (.advance pool.calls.length), ?_⟩
  generalize y.after host _ = z at hrun
  -- what is written down in the end is the change of bindings and then duties of the call
  have hhistory : z.history = y.history ++ List.flatMap Duty.seen _ :=
    (congrArg Pool.history hrun).trans (howes y.state).run
  have hcount : ∀ note : Note, (∀ duty, note ≠ .did duty) →
      z.history.count note = y.history.count note := by
    intro note hnote
    rw [hhistory, List.count_append, count_seen hnote, Nat.add_zero]
  refine ⟨?_, hcount _ fun _ => Note.noConfusion, ?_⟩
  · rw [Pool.Returned, hrun, List.getElem?_append_right (Nat.le_refl _), Nat.sub_self]
    rfl
  have hsame : lifetimes z.history p.id = lifetimes pool.history p.id := by
    refine (hcount _ fun _ => Note.noConfusion).trans ?_
    rw [show y.history = _ from congrArg Pool.history hy]
    refine (lifetimes_changes pool.history _ _ p.id).trans ?_
    rw [hbound, Registry.isBound_bind_self]
    rfl
  rw [Pool.HasStarted, hsame, hhistory, show y.history = _ from congrArg Pool.history hy,
    Pool.history, List.mem_append, List.mem_append]
  rintro ((hbefore | hchange) | hduty)
  · exact hnot hbefore
  · exact did_notMem_changes _ _ _ hchange
  · -- the call does not start the instance, which is bound already
    obtain ⟨job, hjob, hmem⟩ := List.mem_flatMap.mp (mem_of_did_mem_seen hduty)
    have hstarts := starts_of_mem_duties hmem (show Stage.started ∈ startStages by decide)
    have hgained := (Registry.starting_bind pool.registry slot p).mem_iff.mp
      (List.mem_filterMap.mpr ⟨job, hjob, hstarts⟩)
    rw [(Registry.mem_gained.mp hgained).2] at hbound
    exact Bool.noConfusion hbound

/-- A call that binds an instance, from its start to its return: if it starts the instance, or that
one had been started by then, the instance has been started in the end. -/
theorem Mirrors.started_of_returned {host : Host W} (hhost : host.Discreet) (hx : Mirrors x pool)
    (hsound : x.registry.Sound) (hbalanced : x.Balanced) {slot : Slot} {p : ProviderRef}
    (hpossible : slot ≠ .domain "" ∧ pool.registry.hasMade p.id) (more : List (Act W)) :
    let y := pool.act host (.bind slot p)
    let z := y.after host more
    z.Returned pool.calls.length → y.Keeps z p.id →
      (pool.registry.isBound p.id = false ∨ pool.HasStarted p.id → z.HasStarted p.id) ∧
      (pool.registry.isBound p.id = false ∨ pool.registry.statusOf p.id ≠ .notReady →
        z.registry.statusOf p.id ≠ .notReady) := by
  intro y z hreturned hkeeps
  have hy : Mirrors _ y := hx.bind hhost hpossible
  obtain ⟨moves, hz⟩ : ∃ moves, Mirrors _ z := hy.after hhost more
  have hmade : x.registry.hasMade p.id = true := hx.registry ▸ hpossible.2
  have hreturned := hz.returned hreturned
  rw [← show x.calls.length = _ from hx.calls.length_eq.symm] at hreturned
  rw [Pool.Keeps, hz.count_eq rfl, hy.count_eq rfl] at hkeeps
  rw [hz.hasStarted_iff, hx.hasStarted_iff, ← hx.registry, ← hz.registry]
  cases hbound : x.registry.isBound p.id with
  | false =>
    -- the call itself starts the instance
    have hgained : p.id ∈ Registry.gained x.registry (x.registry.bind slot p).1 :=
      Registry.mem_gained.mpr ⟨Registry.isBound_bind_self, hbound⟩
    obtain ⟨hstarted, hready⟩ := System.started_of_gained hsound hbalanced
      (Registry.change_bind hsound slot hmade) hgained List.not_mem_nil moves hreturned hkeeps
    exact ⟨fun _ => hstarted, fun _ => hready⟩
  | true =>
    obtain ⟨hsame, hready⟩ := System.kept_of_bound hsound hbalanced hmade hbound moves hkeeps
    constructor
    · intro h
      have hbefore := List.mem_append_left (System.changes x.registry (x.registry.bind slot p).1)
        (h.resolve_left Bool.noConfusion)
      rw [hsame]
      exact (System.history_after _ moves).subset (List.mem_append_left _ hbefore)
    · exact fun h => hready (h.resolve_left Bool.noConfusion)

/-- **When a call that binds an instance returns, the instance has been started, exactly if it was
not bound before or had been started by then.**  This is about the call as it is begun after any
run, and about everything that may happen until it has returned, as long as nobody unbinds the
instance meanwhile.  If the instance was not bound before, or was not `notReady` any more, then it
is not `notReady` when the call returns.  The calls of a run are those on the instance. -/
theorem Pool.started_when_returned_iff {host : Host W} (hhost : host.Discreet) (world : W)
    (acts : List (Act W)) {slot : Slot} (hslot : slot ≠ .domain "") (p : ProviderRef) :
    let x := (Pool.fresh world).after host acts
    let y := x.act host (.bind slot p)
    Records host ∧
    (x.registry.hasMade p.id = true →
      ((∀ more, (y.after host more).Returned x.calls.length → y.Keeps (y.after host more) p.id →
          (y.after host more).HasStarted p.id) ↔
        x.registry.isBound p.id = false ∨ x.HasStarted p.id) ∧
      ∀ more, (y.after host more).Returned x.calls.length → y.Keeps (y.after host more) p.id →
        x.registry.isBound p.id = false ∨ x.registry.statusOf p.id ≠ .notReady →
          (y.after host more).registry.statusOf p.id ≠ .notReady) := by
  intro x y
  refine ⟨records host, fun hmade => ?_⟩
  have hpossible : slot ≠ .domain "" ∧ x.registry.hasMade p.id := ⟨hslot, hmade⟩
  obtain ⟨moves, hx⟩ : ∃ moves, Mirrors (System.fresh.after moves) x :=
    exists_mirrors hhost world acts
  have hrun := hx.started_of_returned hhost (System.sound_after moves)
    (System.balanced_after moves) hpossible
  refine ⟨⟨fun h => ?_, fun h more hreturned hkeeps => (hrun more hreturned hkeeps).1 h⟩,
    fun more hreturned hkeeps => (hrun more hreturned hkeeps).2⟩
  -- a call that does not start the instance need not wait for the one that does
  by_contra hnot
  rw [not_or, Bool.not_eq_false] at hnot
  obtain ⟨more, hreturned, hkeeps, hunstarted⟩ :=
    Pool.returns_unstarted hhost hpossible hnot.1 hnot.2
  exact hunstarted (h more hreturned hkeeps)

/-- A provider is bound to two slots at once.  The call that came first returns last, and then the
provider has been started. -/
theorem started_when_first_call_returns :
    let y := (Pool.fresh ()).act patient (.bind .default ⟨.application 1, "shared"⟩)
    let z := y.after patient ([.bind (.domain "b") ⟨.application 1, "shared"⟩] ++
      List.replicate 2 (.advance 1) ++ List.replicate 16 (.advance 0))
    patient.Discreet ∧ z.Returned 0 ∧ z.HasStarted (.application 1) ∧
      z.registry.statusOf (.application 1) ≠ .notReady := by
  intro y z
  have hslot : Slot.default ≠ .domain "" := Slot.noConfusion
  obtain ⟨hstarted, hready⟩ := (Pool.started_when_returned_iff patient_discreet () [] hslot
    ⟨.application 1, "shared"⟩).2 rfl
  have hunbound : ((Pool.fresh ()).after patient []).registry.isBound (.application 1) = false := by
    decide
  have hreturned : z.Returned 0 := by decide +kernel
  have hkeeps : y.Keeps z (.application 1) := by decide +kernel
  exact ⟨patient_discreet, hreturned, hstarted.mpr (.inl hunbound) _ hreturned hkeeps,
    hready _ hreturned hkeeps (.inl hunbound)⟩

/-- While the first call waits for the provider to start, a second call binds the same provider to
a further domain: it returns at once, and the provider is bound but has not been started. -/
theorem returned_while_starting :
    let x := (Pool.fresh ()).after patient
      ([.bind .default ⟨.application 1, "shared"⟩] ++ List.replicate 9 (.advance 0))
    let y := x.act patient (.bind (.domain "b") ⟨.application 1, "shared"⟩)
    let z := y.after patient (List.replicate 2 (.advance 1))
    z.Returned 1 ∧ y.Keeps z (.application 1) ∧ z.registry.isBound (.application 1) = true ∧
      ¬z.HasStarted (.application 1) ∧ z.registry.statusOf (.application 1) = .notReady := by
  decide +kernel

end Pool

end Lifecycle

end FeatureFlags
