import FeatureFlags.Proofs.Lifecycle.Lifetimes

/-!
# When the lifetimes of an instance stay apart

If an instance is bound again, or unbound, while a call on it is pending, then two of its
lifetimes are under way at the same time, and their calls may mix: the new call need only
overtake the old one.  This is the only way in which they mix.

## Main definitions

* `Lifecycle.Pool.KeepsApart` — the lifetimes of an instance did not overlap, and if it is
  unbound in the end it was shut down.
* `Lifecycle.Pool.StaysApart` — the same, however the calls under way are carried on.
* `Lifecycle.Calm` — a run in which an instance only becomes bound or unbound while nothing
  on it is pending.

## Main results

* `Lifecycle.keepsApart_iff_calm` — **the lifetimes of an instance stay apart exactly in calm
  runs.**
-/

namespace FeatureFlags

namespace Lifecycle

variable {W : Type}

/-- The lifetimes of an instance did not overlap, and if no call is under way any more and the
instance is not bound, it was detached and shut down after every start. -/
def Pool.KeepsApart (x : Pool W) (id : ProviderId) : Prop :=
  Apart id x.history ∧ (x.Quiescent → x.registry.isBound id = false → Retired id x.history)

/-- However the calls under way are carried on, and whatever else happens as long as no call is
started, the lifetimes of an instance do not overlap. -/
def Pool.StaysApart (host : Host W) (x : Pool W) (id : ProviderId) : Prop :=
  ∀ acts : List (Act W), (∀ a ∈ acts, a.rebinds = false) → (x.after host acts).KeepsApart id

/-- In a run from some pool on, an instance only becomes bound or unbound when every start and
every shutdown of it has ended. -/
def Calm (host : Host W) (id : ProviderId) : Pool W → List (Act W) → Prop
  | _, [] => True
  | x, a :: acts =>
    ((x.act host a).registry.isBound id ≠ x.registry.isBound id → Settled id x.history) ∧
      Calm host id (x.act host a) acts

/-! ### What is known after a calm run -/

namespace System

/-- What is known of a system after calm moves. -/
structure Ordered (x : System) (id : ProviderId) : Prop where
  sound : x.registry.Sound
  balanced : x.Balanced
  grounded : x.Grounded
  paced : x.Paced id

theorem ordered_fresh (id : ProviderId) : fresh.Ordered id :=
  ⟨sound_fresh, balanced_fresh, grounded_fresh, paced_fresh id⟩

theorem Ordered.play {x : System} {id : ProviderId} (hx : x.Ordered id) {move : Move}
    (hcalm : (x.play move).registry.isBound id ≠ x.registry.isBound id → x.pending id = []) :
    (x.play move).Ordered id := by
  have hstep := play_step hx.sound move
  exact ⟨hstep.sound hx.sound, hx.balanced.step hstep, hx.grounded.step hstep,
    hx.paced.step hx.balanced hx.grounded hstep hcalm⟩

/-- What changes no bindings is calm. -/
theorem Ordered.after {x : System} {id : ProviderId} (hx : x.Ordered id) {moves : List Move}
    (hmoves : ∀ move ∈ moves, move.rebinds = false) : (x.after moves).Ordered id := by
  induction moves generalizing x with
  | nil => exact hx
  | cons move moves ih =>
    have hsame := isBound_play (hmoves move List.mem_cons_self) x id
    exact ih (hx.play fun hflip => absurd hsame hflip)
      fun other hmem => hmoves other (List.mem_cons_of_mem _ hmem)

end System

namespace Mirrors

variable {x : System} {pool : Pool W} {id : ProviderId} {host : Host W}

/-- Every call on an instance is seen. -/
theorem callsOn_eq (h : Mirrors x pool) (id : ProviderId) :
    callsOn id pool.history = callsOn id x.history := by
  rw [← h.history, callsOn, List.filterMap_filter, callsOn]
  apply List.filterMap_congr
  intro note _
  cases note with
  | did duty =>
    by_cases hduty : duty.stage.isCall = true
    · exact if_pos hduty
    · have hnone : Note.call? id (.did duty) = none := by
        rw [Note.call?, Duty.isCallOn, Bool.eq_false_iff.mpr hduty, Bool.false_and]
        rfl
      rw [hnone, ite_self]
  | bound _ => rfl
  | unbound _ => rfl
  | announced _ _ _ => rfl

theorem settled_iff (h : Mirrors x pool) (id : ProviderId) :
    Settled id pool.history ↔ Settled id x.history := by
  have hdid : ∀ stage n, stage.isCall = true →
      (.did ⟨stage, id, n⟩ ∈ pool.history ↔ .did ⟨stage, id, n⟩ ∈ x.history) := by
    intro stage n hstage
    rw [← h.history, List.mem_filter]
    exact and_iff_left hstage
  have hbound : pool.history.count (.bound id) = x.history.count (.bound id) := h.count_eq rfl
  have hunbound : pool.history.count (.unbound id) = x.history.count (.unbound id) :=
    h.count_eq rfl
  constructor
  · rintro ⟨hstarted, hended⟩
    exact ⟨fun n hpos hle => (hdid _ _ rfl).mp (hstarted n hpos (hbound ▸ hle)),
      fun n hpos hle => (hdid _ _ rfl).mp (hended n hpos (hunbound ▸ hle))⟩
  · rintro ⟨hstarted, hended⟩
    exact ⟨fun n hpos hle => (hdid _ _ rfl).mpr (hstarted n hpos (hbound ▸ hle)),
      fun n hpos hle => (hdid _ _ rfl).mpr (hended n hpos (hunbound ▸ hle))⟩

/-- An instance whose lifetimes are in order has kept them apart, and was shut down in the end
if it is not bound. -/
theorem keepsApart (h : Mirrors x pool) (hx : x.Paced id) : pool.KeepsApart id := by
  have hcalls := h.callsOn_eq id
  refine ⟨apart_of_course (hcalls ▸ hx.inOrder ▸ List.prefix_append _ _), ?_⟩
  intro hquiescent hunbound
  have hpending : x.pending id = [] := by
    rw [System.pending, h.pending_eq_nil hquiescent]
    rfl
  have hcourse := hx.inOrder
  rw [hpending, List.append_nil, h.registry, hunbound, course, if_neg Bool.false_ne_true,
    List.append_nil] at hcourse
  exact retired_of_lives (hcalls.trans hcourse)

/-- As long as no call is started, the lifetimes of an instance stay in order. -/
theorem staysApart (host : Host W) (h : Mirrors x pool) (hx : x.Ordered id) :
    pool.StaysApart host id := by
  intro acts hacts
  induction acts generalizing x pool with
  | nil => exact h.keepsApart hx.paced
  | cons a acts ih =>
    obtain ⟨moves, hmoves, hnext⟩ := h.act_of_goes_on host (hacts a List.mem_cons_self)
    exact ih hnext (hx.after hmoves) fun other hmem => hacts other (List.mem_cons_of_mem _ hmem)

end Mirrors

/-! ### A call that overtakes another one -/

/-- Lifetimes only stay apart if one call on an instance comes after another. -/
def Awaits (id : ProviderId) (call awaited : Duty) : Prop :=
  ∀ {history before after}, Apart id history → history = before ++ .did call :: after →
    .did awaited ∈ before

section Overtaking

variable {x : System} {pool : Pool W} {id : ProviderId} {host : Host W} {after : Registry}
  {jobs : List LifecycleJob} {made : List ProviderId}

/-- **Binding or unbinding an instance while something on it is pending owes a call that has to
wait**: the call it would have to wait for was not made yet, and the new call does not make
it. -/
theorem System.Ordered.exists_awaited (hx : x.Ordered id)
    (hchange : Registry.Change x.registry after jobs made)
    (hflip : after.isBound id ≠ x.registry.isBound id) (hpending : x.pending id ≠ []) :
    ∃ call awaited, Awaits id call awaited ∧ id ∉ made ∧
      awaited.isCallOn id = true ∧ awaited ∉ callsOn id x.history ∧
      call ∈ jobs.flatMap (jobCalls id (x.history ++ changes x.registry after)) ∧
      awaited ∉ jobs.flatMap (jobCalls id (x.history ++ changes x.registry after)) := by
  have hbindings := hx.balanced.bindings id
  have hlifetimes := lifetimes_changes x.history x.registry after id
  rw [hbindings] at hlifetimes
  cases hbefore : x.registry.isBound id with
  | true =>
    -- the start of the last lifetime has not ended, and the new call shuts down
    have hafter : after.isBound id = false := by
      rw [hbefore] at hflip
      exact Bool.eq_false_iff.mpr hflip
    have hmade := hchange.not_mem_made hafter
    have hmissing := hx.paced.not_started hbefore hpending
    rw [jobCalls_of_lost _ hchange hbefore hafter, hlifetimes, hbefore, hafter]
    refine ⟨⟨.shutDown, id, _⟩, ⟨.started, id, _⟩, fun hapart heq => hapart.shutDown _ _ _ heq,
      hmade, by simp [Duty.isCallOn, Stage.isCall], hmissing, by simp [closing], ?_⟩
    exact not_mem_closing_of_stage (by simp)
  | false =>
    -- the shutdown of the last lifetime has not ended, and the new call starts
    have hafter : after.isBound id = true := by
      rw [hbefore] at hflip
      exact Bool.of_not_eq_false hflip
    obtain ⟨n, hn, hmissing⟩ := hx.paced.not_ended hbefore hpending
    have hmade : id ∉ made := by
      intro hmem
      have hzero := (hx.grounded.bornReady hx.balanced (hchange.isNew id hmem) hbefore).1
      omega
    rw [jobCalls_of_gained _ hchange hbefore hafter, if_neg hmade, hlifetimes, hbefore, hafter, hn]
    refine ⟨⟨.startUp, id, n + 1 + 1⟩, ⟨.ended, id, n + 1⟩, ?_, hmade,
      by simp [Duty.isCallOn, Stage.isCall], hmissing, by simp [starting], by simp [starting]⟩
    intro history before after hapart heq
    exact (hapart.startUp (n + 1) before after heq).resolve_left (Nat.succ_ne_zero n)

/-- A call that is run to its end, with nothing in between, makes every call that it owes; what
comes before one of them happened earlier or is owed by the same call. -/
theorem Pool.exists_acts_to_call (host : Host W) {calls : List (Task (Recorded W) Unit)}
    {t : Task (Recorded W) Unit} {duties : List Duty} (hcalls : pool.calls = calls ++ [t])
    (howes : Owes t duties) {call : Duty} (hcall : call.stage.isCall = true)
    (hmem : call ∈ duties) :
    ∃ acts : List (Act W), (∀ a ∈ acts, a.rebinds = false) ∧
      ∃ first later, (pool.after host acts).history =
        (pool.history ++ first.flatMap Duty.seen) ++ .did call :: later ∧ first ⊆ duties := by
  obtain ⟨first, rest, rfl⟩ := List.append_of_mem hmem
  obtain ⟨n, hrun⟩ := Pool.exists_after_run host hcalls
  refine ⟨List.replicate n (.advance calls.length), ?_, first, rest.flatMap Duty.seen, ?_,
    List.subset_append_left _ _⟩
  · intro a ha
    rw [List.eq_of_mem_replicate ha]
    rfl
  · rw [hrun]
    show (t.run pool.state).2.2 = _
    rw [(howes pool.state).run, List.flatMap_append, List.flatMap_cons, Duty.seen, if_pos hcall,
      List.append_assoc]
    rfl

/-- **Binding or unbinding an instance while something on it is pending lets its lifetimes
mix**: the call that does so overtakes the one that is pending. -/
theorem Mirrors.not_staysApart (hx : x.Ordered id)
    (hchange : Registry.Change x.registry after jobs made)
    (h : Mirrors (x.rebind after jobs made) pool)
    (hflip : after.isBound id ≠ x.registry.isBound id) (hpending : x.pending id ≠ []) :
    ¬ pool.StaysApart host id := by
  intro hstays
  obtain ⟨call, awaited, hawaits, hmade, hisCall, hbefore, hcall, hnew⟩ :=
    hx.exists_awaited hchange hflip hpending
  rw [← filter_duties, List.mem_filter] at hcall hnew
  -- the call that has just been started is the last one
  obtain ⟨calls, t, rest, hcalls, -, howes, hrest⟩ := forall₂_append_cons h.calls.flip
  obtain rfl := List.forall₂_nil_left_iff.mp hrest
  obtain ⟨acts, hacts, first, later, hhistory, hfirst⟩ := Pool.exists_acts_to_call host hcalls
    howes (Bool.and_eq_true_iff.mp hcall.2).1 hcall.1
  have hmem := hawaits (hstays acts hacts).1 hhistory
  -- it was neither made before nor is it owed by the call that is carried on
  rcases List.mem_append.mp hmem with hmem | hmem
  · apply hbefore
    rw [← mem_callsOn hisCall, h.callsOn_eq, System.callsOn_rebind,
      System.callsOn_creation_of_not_mem hmade, List.append_nil] at hmem
    exact hmem
  · exact hnew ⟨hfirst (mem_of_did_mem_seen hmem), hisCall⟩

end Overtaking

/-! ### Calm runs -/

/-- What one more thing that happens does to an instance whose lifetimes are in order: they
stay in order, or it is not calm and they do not stay apart. -/
theorem Mirrors.act_ordered {x : System} {pool : Pool W} {id : ProviderId} {host : Host W}
    (hhost : host.Discreet) (h : Mirrors x pool) (hx : x.Ordered id) (a : Act W) :
    (∃ y, Mirrors y (pool.act host a) ∧
      (((pool.act host a).registry.isBound id ≠ pool.registry.isBound id →
        Settled id pool.history) → y.Ordered id)) ∧
      ((pool.act host a).StaysApart host id →
        (pool.act host a).registry.isBound id ≠ pool.registry.isBound id →
          Settled id pool.history) := by
  have hsettled : Settled id pool.history ↔ x.pending id = [] :=
    (h.settled_iff id).trans (hx.paced.settled_iff hx.balanced)
  cases ha : a.rebinds with
  | false =>
    obtain ⟨moves, hmoves, hnext⟩ := h.act_of_goes_on host ha
    have hsame := System.isBound_after hmoves x id
    rw [hnext.registry, h.registry] at hsame
    exact ⟨⟨_, hnext, fun _ => hx.after hmoves⟩, fun _ hflip => absurd hsame hflip⟩
  | true =>
    obtain ⟨move, hnext⟩ := h.act_of_rebinds hhost ha
    refine ⟨⟨_, hnext, fun hcalm => hx.play fun hflip => ?_⟩, fun hstays hflip => ?_⟩
    · rw [hnext.registry, h.registry] at hflip
      exact hsettled.mp (hcalm hflip)
    · -- if something were pending, the new call could overtake it
      rw [← hnext.registry, ← h.registry] at hflip
      by_contra hnot
      rw [hsettled] at hnot
      generalize hy : x.play move = y at hnext hflip
      have hstep : System.Step x y := hy ▸ System.play_step hx.sound move
      cases hstep with
      | nothing => exact hflip rfl
      | rebind hchange => exact hnext.not_staysApart hx hchange hflip hnot hstays
      | turn => exact hflip (System.isBound_apply _ _ _ _)
      | emit => exact hflip (Registry.isBound_announce_getD _ _ _)

/-- The condition for a run from any pool in which the lifetimes have been in order. -/
theorem staysApart_iff_calm {x : System} {pool : Pool W} {id : ProviderId} {host : Host W}
    (hhost : host.Discreet) (h : Mirrors x pool) (hx : x.Ordered id) (acts : List (Act W)) :
    (∀ n, (pool.after host (acts.take n)).StaysApart host id) ↔ Calm host id pool acts := by
  induction acts generalizing x pool with
  | nil =>
    constructor
    · exact fun _ => trivial
    · intro _ n
      rw [List.take_nil]
      exact h.staysApart host hx
  | cons a acts ih =>
    obtain ⟨⟨y, hnext, hordered⟩, hcalm⟩ := h.act_ordered hhost hx a
    constructor
    · intro hstays
      have hnow := hcalm (hstays 1)
      exact ⟨hnow, (ih hnext (hordered hnow)).mp fun n => hstays (n + 1)⟩
    · rintro ⟨hnow, hrest⟩ n
      cases n with
      | zero => exact h.staysApart host hx
      | succ n => exact (ih hnext (hordered hnow)).mpr hrest n

/-- **The lifetimes of an instance stay apart exactly in calm runs**: however the calls are
carried on that are under way at any point of a run, no shutdown begins before the start of
its lifetime has ended, no start begins before the shutdown of the last lifetime has ended,
and the instance is shut down in the end unless it is bound, exactly if the instance becomes
bound and unbound only while no call on it is pending.  The calls of a run are those on the
instance. -/
theorem keepsApart_iff_calm {host : Host W} (hhost : host.Discreet) (world : W)
    (id : ProviderId) (acts : List (Act W)) :
    Records host ∧
    ((∀ n, ((Pool.fresh world).after host (acts.take n)).StaysApart host id) ↔
      Calm host id (Pool.fresh world) acts) :=
  ⟨records host,
    staysApart_iff_calm hhost (mirrors_fresh world) (System.ordered_fresh id) acts⟩

/-- A run with only one call is calm, and keeps the lifetimes apart. -/
theorem keepsApart_of_one_call :
    patient.Discreet ∧ ∀ n, ((Pool.fresh ()).after patient
      (([.bind .default ⟨.application 1, "only"⟩] : List (Act Unit)).take n)).StaysApart
        patient (.application 1) := by
  refine ⟨patient_discreet, (keepsApart_iff_calm patient_discreet () _ _).2.mpr ⟨?_, trivial⟩⟩
  intro _
  have hbound : (Pool.fresh ()).history.count (.bound (.application 1)) = 0 := by decide
  have hunbound : (Pool.fresh ()).history.count (.unbound (.application 1)) = 0 := by decide
  exact ⟨fun n hpos hle => by omega, fun n hpos hle => by omega⟩

/-! ### A run that is not calm -/

/-- Three providers are bound in each other's place.  The second call still waits for the first
provider to be shut down when the third call unbinds the second provider and is carried on to
its end; then the second call goes on. -/
def overtaking : List (Act Unit) :=
  let advance (call count : Nat) : List (Act Unit) := List.replicate count (.advance call)
  [.bind .default ⟨.application 0, "old"⟩] ++ advance 0 15 ++
    [.bind .default ⟨.application 1, "overtaken"⟩] ++ advance 1 3 ++
    [.bind .default ⟨.application 2, "new"⟩] ++ advance 2 16 ++ advance 1 13

/-- In the end the second provider is bound nowhere and no call is under way, but it was shut
down before it was started, and never again after that. -/
theorem overtaking_leaves_started :
    let x := (Pool.fresh ()).after patient overtaking
    x.Quiescent ∧ x.registry.isBound (.application 1) = false ∧
      ¬ Apart (.application 1) x.history ∧ ¬ Retired (.application 1) x.history := by
  intro x
  refine ⟨by decide +kernel, by decide +kernel, ?_, ?_⟩
  · -- the second provider is shut down before its start has ended
    intro hapart
    have hstarted := hapart.shutDown 1 (x.history.take 18) (x.history.drop 19) (by decide +kernel)
    exact absurd hstarted (by decide +kernel)
  · -- after its shutdown it is attached, and nobody detaches it any more
    intro hretired
    have hdetached := hretired .attach 1 (x.history.take 24) (x.history.drop 25) (.inl rfl)
      (by decide +kernel)
    exact absurd hdetached.1 (by decide +kernel)

end Lifecycle

end FeatureFlags
