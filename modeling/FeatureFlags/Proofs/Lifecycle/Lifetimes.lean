import FeatureFlags.Proofs.Lifecycle.Conservation
import FeatureFlags.Proofs.Lifecycle.Order

/-!
# The order of the lifetimes of an instance

A call decides under the lock of the registry what is to be started and shut down, and does
it later.  As long as an instance only becomes bound or unbound while no call on it is
pending, its calls come in the order of its lifetimes, and all that are pending are made by
the same call.

## Main definitions

* `Lifecycle.System.pending` — the calls on an instance that are still to be made or ended.
* `Lifecycle.Settled` — every start and every shutdown of an instance has ended.
* `Lifecycle.System.Paced` — the calls on an instance make up whole lifetimes.

## Main results

* `Lifecycle.System.Paced.step` — **a step keeps the order of the lifetimes of an instance**,
  if it binds or unbinds the instance only when nothing on it is pending.
* `Lifecycle.System.Paced.settled_iff` — nothing is pending exactly if everything has ended.
-/

namespace FeatureFlags

namespace Lifecycle

/-! ### The calls of a new call -/

/-- The calls on an instance that a job asks for. -/
def jobCalls (id : ProviderId) (history : History) (job : LifecycleJob) : List Duty :=
  (duties history job).filter (Duty.isCallOn id)

section Jobs

variable {id : ProviderId} {history : History} {jobs : List LifecycleJob}

theorem jobCalls_of_starts {job : LifecycleJob} (h : job.starts? = some id) :
    jobCalls id history job = starting id (lifetimes history id) := by
  cases job with
  | startUp p =>
    obtain rfl : p.id = id := Option.some.inj h
    simp [jobCalls, duties, startStages, Duty.isCallOn, Stage.isCall, starting]
  | shutDown p => exact absurd h (by simp [LifecycleJob.starts?])

theorem jobCalls_of_stops {job : LifecycleJob} (h : job.stops? = some id) :
    jobCalls id history job = closing id (lifetimes history id) := by
  cases job with
  | startUp p => exact absurd h (by simp [LifecycleJob.stops?])
  | shutDown p =>
    obtain rfl : p.id = id := Option.some.inj h
    simp [jobCalls, duties, stopStages, Duty.isCallOn, Stage.isCall, closing]

/-- A job about another instance asks for no call on this one. -/
theorem jobCalls_of_neither {job : LifecycleJob} (hstarts : job.starts? ≠ some id)
    (hstops : job.stops? ≠ some id) : jobCalls id history job = [] := by
  cases job with
  | startUp p =>
    have hne : p.id ≠ id := fun h => hstarts (congrArg some h)
    simp [jobCalls, duties, startStages, Duty.isCallOn, hne]
  | shutDown p =>
    have hne : p.id ≠ id := fun h => hstops (congrArg some h)
    simp [jobCalls, duties, stopStages, Duty.isCallOn, hne]

/-- If exactly one job is about an instance, the calls on it are those of that job. -/
theorem flatMap_of_count_eq_one {calls : LifecycleJob → List Duty}
    {asks : LifecycleJob → Option ProviderId} {asked : List Duty}
    (hasks : ∀ job ∈ jobs, asks job = some id → calls job = asked)
    (hother : ∀ job ∈ jobs, asks job ≠ some id → calls job = [])
    (hcount : (jobs.filterMap asks).count id = 1) : jobs.flatMap calls = asked := by
  induction jobs with
  | nil => exact absurd hcount (by simp)
  | cons job rest ih =>
    rw [List.flatMap_cons]
    by_cases hjob : asks job = some id
    · have hrest : rest.flatMap calls = [] := by
        rw [List.filterMap_cons_some hjob, List.count_cons_self] at hcount
        have hnone : id ∉ rest.filterMap asks := List.count_eq_zero.mp (by omega)
        apply List.flatMap_eq_nil_iff.mpr
        intro other hmem
        apply hother other (List.mem_cons_of_mem _ hmem)
        intro hsome
        exact hnone (List.mem_filterMap.mpr ⟨other, hmem, hsome⟩)
      rw [hasks job List.mem_cons_self hjob, hrest, List.append_nil]
    · have hcount' : (rest.filterMap asks).count id = 1 := by
        cases hnone : asks job with
        | none => rwa [List.filterMap_cons_none hnone] at hcount
        | some other =>
          have hne : other ≠ id := fun h => hjob (h ▸ hnone)
          rwa [List.filterMap_cons_some hnone, List.count_cons_of_ne hne] at hcount
      rw [hother job List.mem_cons_self hjob, List.nil_append]
      exact ih (fun job hmem => hasks job (List.mem_cons_of_mem _ hmem))
        (fun job hmem => hother job (List.mem_cons_of_mem _ hmem)) hcount'

theorem filter_duties (id : ProviderId) (history : History) (jobs : List LifecycleJob) :
    (jobs.flatMap (duties history)).filter (Duty.isCallOn id) =
      jobs.flatMap (jobCalls id history) :=
  List.filter_flatMap

end Jobs

section Change

variable {r after : Registry} {jobs : List LifecycleJob} {made : List ProviderId}
  {id : ProviderId}

/-- A call that unbinds an instance makes the calls that close its lifetime. -/
theorem jobCalls_of_lost (history : History) (hchange : Registry.Change r after jobs made)
    (hbefore : r.isBound id = true) (hafter : after.isBound id = false) :
    jobs.flatMap (jobCalls id history) = closing id (lifetimes history id) := by
  have hstops : (jobs.filterMap LifecycleJob.stops?).count id = 1 := by
    rw [hchange.stops.count_eq, Registry.count_lost, hbefore, hafter]
    rfl
  refine flatMap_of_count_eq_one (fun job _ hjob => jobCalls_of_stops hjob) ?_ hstops
  intro job hmem hjob
  refine jobCalls_of_neither (fun hstart => ?_) hjob
  have hbound := (hchange.isBound_of_starts hmem hstart).1
  rw [hafter] at hbound
  exact absurd hbound (by simp)

/-- A call that binds an instance makes the calls of a start, unless the instance is made in
doing so. -/
theorem jobCalls_of_gained (history : History) (hchange : Registry.Change r after jobs made)
    (hbefore : r.isBound id = false) (hafter : after.isBound id = true) :
    jobs.flatMap (jobCalls id history) =
      if id ∈ made then [] else starting id (lifetimes history id) := by
  have hcount := hchange.starts.count_eq id
  rw [List.count_append, Registry.count_gained, hbefore, hafter] at hcount
  have hstops : ∀ job ∈ jobs, job.stops? ≠ some id := by
    intro job hmem hjob
    have hbound := (hchange.isBound_of_stops hmem hjob).1
    rw [hbefore] at hbound
    exact absurd hbound (by simp)
  by_cases hmade : id ∈ made
  · -- what is made counts as the one start there is
    rw [if_pos hmade]
    have hone : 1 ≤ made.count id := List.count_pos_iff.mpr hmade
    have hnone : id ∉ jobs.filterMap LifecycleJob.starts? := by
      apply List.count_eq_zero.mp
      simp only [Bool.not_false, Bool.and_self, if_true] at hcount
      omega
    apply List.flatMap_eq_nil_iff.mpr
    intro job hmem
    refine jobCalls_of_neither (fun hstart => ?_) (hstops job hmem)
    exact hnone (List.mem_filterMap.mpr ⟨job, hmem, hstart⟩)
  · rw [if_neg hmade]
    have hone : (jobs.filterMap LifecycleJob.starts?).count id = 1 := by
      rw [List.count_eq_zero.mpr hmade] at hcount
      exact hcount
    refine flatMap_of_count_eq_one (fun job _ hjob => jobCalls_of_starts hjob) ?_ hone
    exact fun job hmem hjob => jobCalls_of_neither hjob (hstops job hmem)

/-- A call that leaves an instance bound or unbound makes no calls on it. -/
theorem jobCalls_of_unchanged (history : History) (hchange : Registry.Change r after jobs made)
    (hsame : after.isBound id = r.isBound id) :
    jobs.flatMap (jobCalls id history) = [] ∧ id ∉ made := by
  have hflip : ∀ {b c : Bool}, b = c → b = true → c = false → False := by
    intro b c hbc hb hc
    rw [hb, hc] at hbc
    exact absurd hbc (by simp)
  constructor
  · apply List.flatMap_eq_nil_iff.mpr
    intro job hmem
    apply jobCalls_of_neither
    · intro hstart
      obtain ⟨hafter, hbefore⟩ := hchange.isBound_of_starts hmem hstart
      exact hflip hsame hafter hbefore
    · intro hstop
      obtain ⟨hbefore, hafter⟩ := hchange.isBound_of_stops hmem hstop
      exact hflip hsame.symm hbefore hafter
  · intro hmade
    obtain ⟨hafter, hbefore⟩ := hchange.isBound_of_made hmade
    exact hflip hsame hafter hbefore

end Change

/-! ### The invariant of calm runs -/

/-- Every start and every shutdown that a history owes to an instance has ended: a start for
every time it became bound, and a shutdown for every time it became unbound. -/
structure Settled (id : ProviderId) (history : History) : Prop where
  started : ∀ n, 1 ≤ n → n ≤ history.count (.bound id) → .did ⟨.started, id, n⟩ ∈ history
  ended : ∀ n, 1 ≤ n → n ≤ history.count (.unbound id) → .did ⟨.ended, id, n⟩ ∈ history

namespace System

/-- The calls on an instance that are still to be made or ended. -/
def pending (x : System) (id : ProviderId) : List Duty :=
  x.calls.flatten.filter (Duty.isCallOn id)

/-- The calls under way that have a call on an instance to make. -/
def busy (x : System) (id : ProviderId) : List (List Duty) :=
  x.calls.filter fun todo => todo.any (Duty.isCallOn id)

/-- Every default that the registry has made for itself was bound in being made, and what is
not made yet was never bound. -/
structure Grounded (x : System) : Prop where
  born : ∀ generation, x.registry.hasMade (.builtin generation) = true →
    1 ≤ x.history.count (.bound (.builtin generation))
  unborn : ∀ id, x.registry.hasMade id = false → x.history.count (.bound id) = 0

/-- The calls that were made on an instance and those that are pending make up whole lifetimes,
and all that are pending are made by the same call. -/
structure Paced (x : System) (id : ProviderId) : Prop where
  inOrder : callsOn id x.history ++ x.pending id =
    course id (x.history.count (.unbound id)) (x.registry.isBound id)
  alone : (x.busy id).length ≤ 1

theorem grounded_fresh : fresh.Grounded where
  born generation h := by
    have hzero : generation = 0 := by
      have hle : generation ≤ 0 := of_decide_eq_true h
      omega
    subst hzero
    decide
  unborn id h := by
    cases id with
    | application number => exact absurd h (by simp [Registry.hasMade])
    | builtin generation =>
      have hne : generation ≠ 0 := by
        rintro rfl
        exact absurd h (by decide)
      simp [fresh, creation, Ne.symm hne]

/-- What is made is bound at once, and nothing else comes into being. -/
theorem Grounded.step {x y : System} (hx : x.Grounded) (h : Step x y) : y.Grounded := by
  cases h with
  | nothing => exact hx
  | @rebind after jobs made hchange =>
    refine ⟨fun generation hmade => ?_, fun id hnot => ?_⟩
    · rw [count_bound_rebind]
      rcases (hchange.hasMade _).mp hmade with hmade | hmade
      · have := hx.born generation hmade
        omega
      · have hgained := Registry.mem_gained.mpr (hchange.isBound_of_made hmade)
        have := List.count_pos_iff.mpr hgained
        omega
    · have hbefore : x.registry.hasMade id = false := by
        rw [Bool.eq_false_iff]
        intro htrue
        rw [show (x.rebind after jobs made).registry.hasMade id = true from
          (hchange.hasMade id).mpr (.inl htrue)] at hnot
        exact absurd hnot (by simp)
      have hgained : id ∉ Registry.gained x.registry after := by
        intro hgained
        have hmade := hchange.isMade id (Registry.mem_gained.mp hgained).1
        rw [show after.hasMade id = false from hnot] at hmade
        exact absurd hmade (by simp)
      rw [count_bound_rebind, hx.unborn id hbefore, List.count_eq_zero.mpr hgained]
  | turn hcalls =>
    refine ⟨fun generation hmade => ?_, fun id hnot => ?_⟩
    · rw [count_bound_notes]
      rw [hasMade_apply] at hmade
      exact hx.born generation hmade
    · rw [count_bound_notes]
      rw [hasMade_apply] at hnot
      exact hx.unborn id hnot
  | emit =>
    refine ⟨fun generation hmade => ?_, fun id hnot => ?_⟩
    · rw [Registry.hasMade_announce_getD] at hmade
      rw [List.count_append]
      exact Nat.le_add_right_of_le (hx.born generation hmade)
    · rw [Registry.hasMade_announce_getD] at hnot
      rw [List.count_append, hx.unborn id hnot]
      rfl

/-- A default that was unbound is bound again for a later lifetime than its first. -/
theorem Grounded.not_bornReady {x : System} (hx : x.Grounded) (hbalanced : x.Balanced)
    {id : ProviderId} (hmade : x.registry.hasMade id = true)
    (hunbound : x.registry.isBound id = false) :
    bornReady id (x.history.count (.unbound id) + 1) = false := by
  cases id with
  | application number => rfl
  | builtin generation =>
    have hborn := hx.born generation hmade
    have hbindings := hbalanced.bindings (.builtin generation)
    rw [hunbound] at hbindings
    simp only [Bool.false_eq_true, if_false, Nat.add_zero] at hbindings
    rw [bornReady, beq_eq_false_iff_ne]
    omega

/-- What is being made is one of the defaults of the registry, and was never bound. -/
theorem Grounded.bornReady {x : System} (hx : x.Grounded) (hbalanced : x.Balanced)
    {id : ProviderId} (hnew : x.registry.hasMade id = false)
    (hunbound : x.registry.isBound id = false) :
    x.history.count (.unbound id) = 0 ∧ bornReady id 1 = true := by
  have hbindings := hbalanced.bindings id
  rw [hunbound, hx.unborn id hnew] at hbindings
  refine ⟨by omega, ?_⟩
  cases id with
  | application number => exact absurd hnew (by simp [Registry.hasMade])
  | builtin generation => rfl

/-! ### Turns -/

section Turn

variable {x : System} {id : ProviderId} {before later : List (List Duty)} {duty : Duty}
  {rest : List Duty}

theorem filter_eq_nil_of_not_busy {calls : List (List Duty)}
    (h : calls.filter (fun todo => todo.any (Duty.isCallOn id)) = []) :
    calls.flatten.filter (Duty.isCallOn id) = [] := by
  apply List.filter_eq_nil_iff.mpr
  intro duty hduty hcall
  obtain ⟨todo, htodo, hmem⟩ := List.mem_flatten.mp hduty
  exact List.filter_eq_nil_iff.mp h todo htodo (List.any_eq_true.mpr ⟨duty, hmem, hcall⟩)

/-- If only one call is busy with an instance, the next call on it is the first one
pending. -/
theorem pending_of_turn (halone : (x.busy id).length ≤ 1)
    (hcalls : x.calls = before ++ (duty :: rest) :: later) (hduty : duty.isCallOn id = true) :
    x.pending id = duty :: (before ++ rest :: later).flatten.filter (Duty.isCallOn id) := by
  have hany : (duty :: rest).any (Duty.isCallOn id) = true :=
    List.any_eq_true.mpr ⟨duty, List.mem_cons_self, hduty⟩
  rw [busy, hcalls, List.filter_append, List.filter_cons_of_pos (by simpa using hany),
    List.length_append, List.length_cons] at halone
  -- the call whose turn it is is the busy one, so those before it have no call on the instance
  have hbefore : before.filter (fun todo => todo.any (Duty.isCallOn id)) = [] :=
    List.eq_nil_of_length_eq_zero (by omega)
  have hskip := filter_eq_nil_of_not_busy hbefore
  rw [pending, hcalls, List.flatten_append, List.flatten_append, List.filter_append,
    List.filter_append, hskip, List.flatten_cons, List.flatten_cons, List.cons_append,
    List.filter_cons_of_pos hduty]
  rfl

theorem pending_of_other_turn (hcalls : x.calls = before ++ (duty :: rest) :: later)
    (hduty : duty.isCallOn id = false) :
    x.pending id = (before ++ rest :: later).flatten.filter (Duty.isCallOn id) := by
  rw [pending, hcalls, List.flatten_append, List.flatten_append, List.filter_append,
    List.filter_append, List.flatten_cons, List.flatten_cons, List.cons_append,
    List.filter_cons_of_neg (by rw [hduty]; exact Bool.false_ne_true)]

/-- A call that has done a duty is not busier than before. -/
theorem busy_turn_le (hcalls : x.calls = before ++ (duty :: rest) :: later) :
    ((before ++ rest :: later).filter fun todo => todo.any (Duty.isCallOn id)).length ≤
      (x.busy id).length := by
  rw [busy, hcalls, List.filter_append, List.filter_append, List.length_append,
    List.length_append]
  by_cases hrest : rest.any (Duty.isCallOn id) = true
  · have hany : (duty :: rest).any (Duty.isCallOn id) = true := by
      rw [List.any_cons, hrest, Bool.or_true]
    rw [List.filter_cons_of_pos (by simpa using hrest),
      List.filter_cons_of_pos (by simpa using hany)]
    exact Nat.le_refl _
  · rw [List.filter_cons_of_neg (by simpa using hrest), List.filter_cons]
    split
    · rw [List.length_cons]
      omega
    · exact Nat.le_refl _

end Turn

/-! ### Steps of calm runs -/

section Paced

variable {x y : System} {id : ProviderId} {after : Registry} {jobs : List LifecycleJob}
  {made : List ProviderId}

/-- What is pending after a change of bindings. -/
theorem pending_rebind (x : System) (after : Registry) (jobs : List LifecycleJob)
    (made : List ProviderId) (id : ProviderId) :
    (x.rebind after jobs made).pending id =
      x.pending id ++ jobs.flatMap (jobCalls id (x.history ++ changes x.registry after)) := by
  rw [pending, rebind]
  dsimp only
  rw [List.flatten_append, List.filter_append, List.flatten_singleton, filter_duties]
  rfl

/-- A change of bindings makes no calls but on what is made in doing so. -/
theorem callsOn_rebind (x : System) (after : Registry) (jobs : List LifecycleJob)
    (made : List ProviderId) (id : ProviderId) :
    callsOn id (x.rebind after jobs made).history =
      callsOn id x.history ++ callsOn id (made.flatMap creation) := by
  rw [rebind]
  dsimp only
  rw [callsOn_append, callsOn_append, callsOn_changes, List.append_nil]

theorem callsOn_creation_of_not_mem (hnot : id ∉ made) :
    callsOn id (made.flatMap creation) = [] := by
  rw [callsOn, List.filterMap_eq_nil_iff]
  intro note hnote
  obtain ⟨head, hhead, hnote⟩ := List.mem_flatMap.mp hnote
  have hne : head ≠ id := fun h => hnot (h ▸ hhead)
  rcases List.mem_cons.mp hnote with rfl | hnote
  · simp [Note.call?, Duty.isCallOn, hne]
  · rw [List.mem_singleton.mp hnote]
    simp [Note.call?, Duty.isCallOn, hne]

/-- What is made is started in being made. -/
theorem callsOn_creation_of_mem (hmem : id ∈ made) (hnodup : made.Nodup) :
    callsOn id (made.flatMap creation) = [⟨.startUp, id, 1⟩, ⟨.started, id, 1⟩] := by
  induction made with
  | nil => exact absurd hmem List.not_mem_nil
  | cons head rest ih =>
    obtain ⟨hhead, hrest⟩ := List.nodup_cons.mp hnodup
    rw [List.flatMap_cons, callsOn_append]
    rcases List.mem_cons.mp hmem with rfl | hmem
    · rw [callsOn_creation_of_not_mem hhead, List.append_nil]
      simp [callsOn, creation, Note.call?, Duty.isCallOn, Stage.isCall]
    · have hne : head ≠ id := fun h => hhead (h ▸ hmem)
      rw [ih hmem hrest]
      simp [callsOn, creation, Note.call?, Duty.isCallOn, hne]

/-- How many calls are busy after a change of bindings. -/
theorem alone_rebind (hx : x.Paced id)
    (h : x.pending id = [] ∨
      jobs.flatMap (jobCalls id (x.history ++ changes x.registry after)) = []) :
    ((x.rebind after jobs made).busy id).length ≤ 1 := by
  rw [busy, rebind]
  dsimp only
  rw [List.filter_append, List.length_append]
  rcases h with hpending | hjobs
  · have hidle : x.busy id = [] := by
      apply List.filter_eq_nil_iff.mpr
      intro todo htodo hany
      obtain ⟨duty, hduty, hcall⟩ := List.any_eq_true.mp hany
      exact List.filter_eq_nil_iff.mp hpending duty (List.mem_flatten.mpr ⟨todo, htodo, hduty⟩)
        hcall
    rw [show x.calls.filter _ = [] from hidle, List.length_nil, Nat.zero_add]
    exact List.length_filter_le _ _
  · have hnew : ((jobs.flatMap (duties (x.history ++ changes x.registry after))).any
        (Duty.isCallOn id)) = false := by
      rw [List.any_eq_false]
      rw [← filter_duties] at hjobs
      exact List.filter_eq_nil_iff.mp hjobs
    rw [List.filter_singleton, hnew]
    exact hx.alone

/-- **Binding or unbinding an instance on which nothing is pending begins a new lifetime, or
closes the last one.** -/
theorem Paced.rebind (hbalanced : x.Balanced) (hgrounded : x.Grounded) (hx : x.Paced id)
    (hchange : Registry.Change x.registry after jobs made)
    (hcalm : after.isBound id ≠ x.registry.isBound id → x.pending id = []) :
    (x.rebind after jobs made).Paced id := by
  have hbindings := hbalanced.bindings id
  have hunbound := count_unbound_rebind x after jobs made id
  have hlifetimes := lifetimes_changes x.history x.registry after id
  rw [Registry.count_lost] at hunbound
  by_cases hsame : after.isBound id = x.registry.isBound id
  · -- nothing changes for this instance
    obtain ⟨hjobs, hmade⟩ := jobCalls_of_unchanged (x.history ++ changes x.registry after)
      hchange hsame
    refine ⟨?_, alone_rebind hx (.inr hjobs)⟩
    rw [callsOn_rebind, callsOn_creation_of_not_mem hmade, pending_rebind, hjobs, hunbound,
      show (x.rebind after jobs made).registry.isBound id = x.registry.isBound id from hsame,
      hsame, Bool.and_not_self, List.append_nil, List.append_nil]
    exact hx.inOrder
  have hpending := hcalm hsame
  refine ⟨?_, alone_rebind hx (.inl hpending)⟩
  have hcourse := hx.inOrder
  rw [hpending, List.append_nil] at hcourse
  rw [callsOn_rebind, pending_rebind, hpending, List.nil_append, hunbound, hcourse]
  show _ = course id _ (after.isBound id)
  cases hbefore : x.registry.isBound id with
  | true =>
    -- the last lifetime is closed
    have hafter : after.isBound id = false := by
      rw [hbefore] at hsame
      exact Bool.eq_false_iff.mpr hsame
    have hmade := hchange.not_mem_made hafter
    rw [jobCalls_of_lost _ hchange hbefore hafter, callsOn_creation_of_not_mem hmade, hlifetimes,
      hbindings, hbefore, hafter]
    simp [course, lives]
  | false =>
    -- the next lifetime is opened
    have hafter : after.isBound id = true := by
      rw [hbefore] at hsame
      exact Bool.of_not_eq_false hsame
    rw [jobCalls_of_gained _ hchange hbefore hafter, hafter]
    by_cases hmade : id ∈ made
    · -- the instance is made in being bound, and needs no start
      obtain ⟨hzero, hready⟩ := hgrounded.bornReady hbalanced (hchange.isNew id hmade) hbefore
      have hnodup : made.Nodup :=
        (hchange.starts.nodup_iff.mpr (Registry.nodup_gained _ _)).of_append_right
      rw [if_pos hmade, callsOn_creation_of_mem hmade hnodup, hzero]
      simp [course, lives, opening, hready]
    · -- the call owes a start, also to a default that is bound again
      have hexists : x.registry.hasMade id = true :=
        ((hchange.hasMade id).mp (hchange.isMade id hafter)).resolve_right hmade
      have hready := hgrounded.not_bornReady hbalanced hexists hbefore
      rw [if_neg hmade, callsOn_creation_of_not_mem hmade, hlifetimes, hbindings, hbefore, hafter]
      simp [course, opening, hready]

/-- **A step keeps the order of the lifetimes of an instance**, if it binds or unbinds the
instance only when nothing on it is pending. -/
theorem Paced.step (hbalanced : x.Balanced) (hgrounded : x.Grounded) (hx : x.Paced id)
    (h : Step x y)
    (hcalm : y.registry.isBound id ≠ x.registry.isBound id → x.pending id = []) :
    y.Paced id := by
  cases h with
  | nothing => exact hx
  | rebind hchange => exact hx.rebind hbalanced hgrounded hchange hcalm
  | @turn before later duty rest outcome hcalls =>
    refine ⟨?_, Nat.le_trans (busy_turn_le hcalls) hx.alone⟩
    rw [isBound_apply, count_unbound_notes, callsOn_append, callsOn_notes, ← hx.inOrder]
    by_cases hduty : duty.isCallOn id = true
    · rw [if_pos hduty, pending_of_turn hx.alone hcalls hduty, List.append_assoc]
      rfl
    · rw [if_neg hduty, pending_of_other_turn hcalls (Bool.eq_false_iff.mpr hduty),
        List.append_nil]
      rfl
  | @emit announced event code =>
    refine ⟨?_, hx.alone⟩
    rw [Registry.isBound_announce_getD, callsOn_append, List.count_append,
      show callsOn id [.announced announced event code] = [] from rfl, List.append_nil]
    exact hx.inOrder

theorem paced_fresh (id : ProviderId) : fresh.Paced id := by
  refine ⟨?_, Nat.zero_le 1⟩
  by_cases hid : id = .builtin 0
  · subst hid
    decide
  · have hne : ProviderId.builtin 0 ≠ id := fun h => hid h.symm
    have hunbound : Registry.isBound (Registry.fresh 0) id = false := by
      rw [Registry.isBound_fresh, beq_eq_false_iff_ne]
      exact hne
    simp [fresh, creation, callsOn, Note.call?, Duty.isCallOn, pending, course, lives, hunbound,
      hne]

end Paced

/-! ### What is not done yet -/

section Pending

variable {x : System} {id : ProviderId}

/-- As long as something of a list is pending, its last element is not done. -/
theorem not_mem_of_pending {done pending first : List Duty} {last : Duty}
    (h : done ++ pending = first ++ [last]) (hpending : pending ≠ []) (hlast : last ∉ first) :
    last ∉ done := by
  obtain ⟨init, final, rfl⟩ := (List.eq_nil_or_concat pending).resolve_left hpending
  rw [List.concat_eq_append, ← List.append_assoc] at h
  obtain ⟨rfl, -⟩ := List.append_inj' h rfl
  intro hmem
  exact hlast (List.mem_append_left _ hmem)

/-- As long as something is pending on an instance that is bound, its last start has not
ended. -/
theorem Paced.not_started (hx : x.Paced id) (hbound : x.registry.isBound id = true)
    (hpending : x.pending id ≠ []) :
    (⟨.started, id, x.history.count (.unbound id) + 1⟩ : Duty) ∉ callsOn id x.history := by
  have hcourse := hx.inOrder
  obtain ⟨first, hopening, hfirst⟩ := opening_eq id (x.history.count (.unbound id) + 1)
  rw [hbound, course, if_pos rfl, hopening, ← List.append_assoc] at hcourse
  refine not_mem_of_pending hcourse hpending ?_
  intro hmem
  rcases List.mem_append.mp hmem with hmem | hmem
  · have hle := (lifetime_of_mem_lives hmem).2
    dsimp only at hle
    omega
  · exact hfirst hmem

/-- As long as something is pending on an instance that is not bound, it was unbound some time
and its last shutdown has not ended. -/
theorem Paced.not_ended (hx : x.Paced id) (hunbound : x.registry.isBound id = false)
    (hpending : x.pending id ≠ []) :
    ∃ n, x.history.count (.unbound id) = n + 1 ∧
      (⟨.ended, id, n + 1⟩ : Duty) ∉ callsOn id x.history := by
  have hcourse := hx.inOrder
  rw [hunbound, course, if_neg Bool.false_ne_true, List.append_nil] at hcourse
  obtain ⟨n, hn⟩ : ∃ n, x.history.count (.unbound id) = n + 1 := by
    apply Nat.exists_eq_succ_of_ne_zero
    intro hzero
    rw [hzero] at hcourse
    exact hpending (List.append_eq_nil_iff.mp hcourse).2
  refine ⟨n, hn, ?_⟩
  rw [hn] at hcourse
  have hlives : lives id (n + 1) =
      (lives id n ++ (opening id (n + 1) ++
        [⟨.detach, id, n + 1⟩, ⟨.shutDown, id, n + 1⟩])) ++ [⟨.ended, id, n + 1⟩] := by
    simp [lives, closing]
  rw [hlives] at hcourse
  refine not_mem_of_pending hcourse hpending ?_
  intro hmem
  rcases List.mem_append.mp hmem with hmem | hmem
  · have hle := (lifetime_of_mem_lives hmem).2
    dsimp only at hle
    omega
  · rcases List.mem_append.mp hmem with hmem | hmem
    · exact not_mem_opening_of_stage (by simp) hmem
    · simp at hmem

/-- **Nothing is pending on an instance exactly if all its starts and shutdowns have
ended.** -/
theorem Paced.settled_iff (hx : x.Paced id) (hbalanced : x.Balanced) :
    Settled id x.history ↔ x.pending id = [] := by
  have hbindings := hbalanced.bindings id
  have hcourse := hx.inOrder
  have hcall : ∀ stage n, stage = .started ∨ stage = .ended →
      Duty.isCallOn id ⟨stage, id, n⟩ = true := by
    rintro stage n (rfl | rfl) <;> simp [Duty.isCallOn, Stage.isCall]
  constructor
  · intro hsettled
    by_contra hpending
    cases hbound : x.registry.isBound id with
    | true =>
      rw [hbound, if_pos rfl] at hbindings
      refine hx.not_started hbound hpending ((mem_callsOn (hcall _ _ (.inl rfl))).mpr ?_)
      exact hsettled.started _ (by omega) (by omega)
    | false =>
      obtain ⟨n, hn, hnot⟩ := hx.not_ended hbound hpending
      refine hnot ((mem_callsOn (hcall _ _ (.inr rfl))).mpr ?_)
      exact hsettled.ended _ (by omega) (by omega)
  · intro hpending
    rw [hpending, List.append_nil] at hcourse
    refine ⟨fun n hpos hle => ?_, fun n hpos hle => ?_⟩
    · rw [← mem_callsOn (hcall _ _ (.inl rfl)), hcourse, course, List.mem_append]
      -- the start belongs to a lifetime that is closed, or else to the last one
      by_cases hlast : n ≤ x.history.count (.unbound id)
      · exact .inl (opening_subset_lives hpos hlast started_mem_opening)
      · right
        have hbound : x.registry.isBound id = true := by
          by_contra hnot
          rw [if_neg hnot] at hbindings
          omega
        rw [hbound, if_pos rfl] at hbindings
        obtain rfl : n = x.history.count (.unbound id) + 1 := by omega
        rw [hbound, if_pos rfl]
        exact started_mem_opening
    · rw [← mem_callsOn (hcall _ _ (.inr rfl)), hcourse, course, List.mem_append]
      exact .inl (closing_subset_lives hpos hle (by simp [closing]))

end Pending

end System

end Lifecycle

end FeatureFlags
