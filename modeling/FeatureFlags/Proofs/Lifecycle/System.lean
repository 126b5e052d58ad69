import FeatureFlags.Proofs.Registry.Bindings

/-!
# Calls that change bindings, side by side

Any number of calls that bind providers or reset the registry may be under way at the same
time.  Each of them changes the bindings in one step of the registry and then has to do, one
after the other, what the jobs it was handed ask for.  Between any two of these steps the
others go on.

The system keeps a history: which instances became bound and unbound, what was done to them,
and which events were announced.  The history is written down apart from the decisions of the
registry, by comparing what is bound before and after a step, so that the decisions can be
held against it.

## Main definitions

* `Lifecycle.Duty` — one thing that a call has to do to an instance, for one of its
  lifetimes.
* `Lifecycle.System` — the registry, the calls under way and the history.
* `Lifecycle.Move`, `Lifecycle.System.play` — the steps of the system.
* `Lifecycle.System.after` — the system after some moves.

## Main results

* `Lifecycle.System.play_step` — what a move can do.
* `Lifecycle.System.play_induction`, `Lifecycle.System.after_induction` — **what every move keeps
  holds of every run.**
-/

namespace FeatureFlags

namespace Lifecycle

/-! ### Duties -/

/-- The stages of starting a provider and of shutting one down.  A callback that may wait has
a stage at its beginning and one at its end. -/
inductive Stage where
  | attach
  | startUp
  | started
  /-- The outcome of the start is announced to the registry. -/
  | report
  | detach
  | shutDown
  | ended
  /-- The registry forgets the status. -/
  | release
deriving DecidableEq

/-- What has to be done to an instance.  The lifetimes of an instance are counted from 1, each
time it becomes bound. -/
structure Duty where
  stage : Stage
  id : ProviderId
  lifetime : Nat
deriving DecidableEq

/-- What has happened. -/
inductive Note where
  | bound (id : ProviderId)
  | unbound (id : ProviderId)
  | did (duty : Duty)
  | announced (id : ProviderId) (event : ProviderEvent) (code : Option ErrorCode)
deriving DecidableEq

/-- What has happened, the oldest first. -/
abbrev History := List Note

/-- How many lifetimes of an instance have begun. -/
def lifetimes (history : History) (id : ProviderId) : Nat := history.count (.bound id)

/-- The stages of a start. -/
def startStages : List Stage := [.attach, .startUp, .started, .report]

/-- The stages of a shutdown. -/
def stopStages : List Stage := [.detach, .shutDown, .ended, .release]

/-- What a job asks for, for the last lifetime that has begun. -/
def duties (history : History) : LifecycleJob → List Duty
  | .startUp p => startStages.map fun stage => ⟨stage, p.id, lifetimes history p.id⟩
  | .shutDown p => stopStages.map fun stage => ⟨stage, p.id, lifetimes history p.id⟩

/-- The event and the error code that are announced when a start has ended. -/
def startEvent : Except EvaluationError Unit → ProviderEvent × Option ErrorCode
  | .ok () => (.ready, none)
  | .error e => (.error, some e.code)

/-- What is written down of a duty that is done. -/
def Duty.notes (duty : Duty) (outcome : Except EvaluationError Unit) : History :=
  match duty.stage with
  | .report => [.did duty, .announced duty.id (startEvent outcome).1 (startEvent outcome).2]
  | _ => [.did duty]

/-- What doing a duty changes in the registry. -/
def Duty.apply (duty : Duty) (outcome : Except EvaluationError Unit) (r : Registry) : Registry :=
  match duty.stage with
  | .report => (r.announce duty.id (startEvent outcome).1 (startEvent outcome).2).getD r
  | .release => r.release duty.id
  | _ => r

/-- A default that the registry makes for itself is ready from the beginning. -/
def creation (id : ProviderId) : History := [.did ⟨.startUp, id, 1⟩, .did ⟨.started, id, 1⟩]

/-! ### The system -/

/-- The registry, what the calls under way still have to do, and what has happened. -/
structure System where
  registry : Registry
  calls : List (List Duty)
  history : History
deriving DecidableEq

/-- A step of the system. -/
inductive Move where
  /-- A call that binds a provider is started. -/
  | bind (slot : Slot) (p : ProviderRef)
  /-- A call that resets the registry is started; the jobs may come in any order. -/
  | clear (order : List LifecycleJob)
  /-- A call does the next thing; a start that ends has an outcome. -/
  | turn (call : Nat) (outcome : Except EvaluationError Unit)
  /-- An event of a provider reaches the registry. -/
  | emit (id : ProviderId) (event : ProviderEvent) (code : Option ErrorCode)

/-- Whether a move starts a call, which changes the bindings. -/
def Move.rebinds : Move → Bool
  | .bind _ _ => true
  | .clear _ => true
  | _ => false

namespace System

/-- Only the default that the registry has made for itself. -/
def fresh : System where
  registry := .fresh 0
  calls := []
  history := .bound (.builtin 0) :: creation (.builtin 0)

/-- What a change of bindings does: which instances become unbound and bound is read off the
bindings. -/
def changes (before after : Registry) : History :=
  (Registry.lost before after).map .unbound ++ (Registry.gained before after).map .bound

/-- A call changes the bindings, and some instances are made in doing so. -/
def rebind (x : System) (after : Registry) (jobs : List LifecycleJob) (made : List ProviderId) :
    System :=
  let history := x.history ++ changes x.registry after
  { registry := after
    calls := x.calls ++ [jobs.flatMap (duties history)]
    history := history ++ made.flatMap creation }

/-- The system after a move.  A move that is not possible changes nothing: the empty string is
no domain, and a default that the registry has not made yet cannot be bound. -/
def play (x : System) : Move → System
  | .bind slot p =>
    if slot ≠ .domain "" ∧ x.registry.hasMade p.id then
      x.rebind (x.registry.bind slot p).1 (x.registry.bind slot p).2 []
    else x
  | .clear order =>
    if order.isPerm x.registry.clear.2 then
      x.rebind x.registry.clear.1 order [.builtin (x.registry.generation + 1)]
    else x
  | .turn call outcome =>
    match x.calls[call]? with
    | some (duty :: rest) =>
      { registry := duty.apply outcome x.registry
        calls := x.calls.set call rest
        history := x.history ++ duty.notes outcome }
    | _ => x
  | .emit id event code =>
    { x with
      registry := (x.registry.announce id event code).getD x.registry
      history := x.history ++ [.announced id event code] }

/-- The system after some moves. -/
def after (x : System) (moves : List Move) : System := moves.foldl play x

@[simp] theorem after_nil (x : System) : x.after [] = x := rfl

@[simp] theorem after_cons (x : System) (move : Move) (moves : List Move) :
    x.after (move :: moves) = (x.play move).after moves := rfl

theorem after_append (x : System) (moves more : List Move) :
    x.after (moves ++ more) = (x.after moves).after more :=
  List.foldl_append

/-! ### What a move can do -/

/-- What a move can do: nothing, a change of bindings that starts a call, the next duty of a
call, or an event. -/
inductive Step (x : System) : System → Prop where
  | nothing : Step x x
  | rebind {after : Registry} {jobs : List LifecycleJob} {made : List ProviderId}
      (hchange : Registry.Change x.registry after jobs made) : Step x (x.rebind after jobs made)
  | turn {before later : List (List Duty)} {duty : Duty} {rest : List Duty}
      {outcome : Except EvaluationError Unit}
      (hcalls : x.calls = before ++ (duty :: rest) :: later) :
      Step x ⟨duty.apply outcome x.registry, before ++ rest :: later,
        x.history ++ duty.notes outcome⟩
  | emit {id : ProviderId} {event : ProviderEvent} {code : Option ErrorCode} :
      Step x ⟨(x.registry.announce id event code).getD x.registry, x.calls,
        x.history ++ [.announced id event code]⟩

/-- The turn of a call that has something to do. -/
theorem play_turn {x : System} {before later : List (List Duty)} {duty : Duty}
    {rest : List Duty} (hcalls : x.calls = before ++ (duty :: rest) :: later)
    (outcome : Except EvaluationError Unit) :
    x.play (.turn before.length outcome) =
      ⟨duty.apply outcome x.registry, before ++ rest :: later,
        x.history ++ duty.notes outcome⟩ := by
  have hget : x.calls[before.length]? = some (duty :: rest) := by
    rw [hcalls, List.getElem?_append_right (Nat.le_refl _), Nat.sub_self]
    rfl
  have hset : x.calls.set before.length rest = before ++ rest :: later := by
    rw [hcalls, List.set_append_right _ _ (Nat.le_refl _), Nat.sub_self]
    rfl
  rw [play, hget]
  dsimp only
  rw [hset]

/-- A turn of a call that is not there. -/
theorem play_idle (x : System) (outcome : Except EvaluationError Unit) :
    x.play (.turn x.calls.length outcome) = x := by
  rw [play, List.getElem?_eq_none (Nat.le_refl _)]

/-- The turn of a call does nothing, or the next duty of the call. -/
theorem play_turn_cases (x : System) (call : Nat) (outcome : Except EvaluationError Unit) :
    x.play (.turn call outcome) = x ∨
      ∃ before duty rest later, x.calls = before ++ (duty :: rest) :: later ∧
        before.length = call ∧ x.play (.turn call outcome) =
          ⟨duty.apply outcome x.registry, before ++ rest :: later,
            x.history ++ duty.notes outcome⟩ := by
  cases hcall : x.calls[call]? with
  | none =>
    rw [play, hcall]
    exact .inl rfl
  | some todo =>
    cases todo with
    | nil =>
      rw [play, hcall]
      exact .inl rfl
    | cons duty rest =>
      obtain ⟨hlt, hget⟩ := List.getElem?_eq_some_iff.mp hcall
      obtain ⟨before, later, hcalls, hlength, -⟩ : ∃ before later,
          x.calls = before ++ x.calls[call] :: later ∧ before.length = call ∧
            x.calls.set call rest = before ++ rest :: later :=
        List.exists_of_set hlt
      rw [hget] at hcalls
      refine .inr ⟨before, duty, rest, later, hcalls, hlength, ?_⟩
      rw [← hlength, play_turn hcalls]

theorem play_step {x : System} (hx : x.registry.Sound) (move : Move) : Step x (x.play move) := by
  cases move with
  | bind slot p =>
    rw [play]
    by_cases hpossible : slot ≠ .domain "" ∧ x.registry.hasMade p.id
    · rw [if_pos hpossible]
      exact .rebind (Registry.change_bind hx slot hpossible.2)
    · rw [if_neg hpossible]
      exact .nothing
  | clear order =>
    rw [play]
    by_cases horder : order.isPerm x.registry.clear.2
    · rw [if_pos horder]
      exact .rebind (Registry.change_clear hx (List.isPerm_iff.mp horder))
    · rw [if_neg horder]
      exact .nothing
  | turn call outcome =>
    rcases x.play_turn_cases call outcome with hsame | ⟨_, _, _, _, hcalls, -, hplay⟩
    · rw [hsame]
      exact .nothing
    · rw [hplay]
      exact .turn hcalls
  | emit id event code => exact .emit

/-! ### Bindings along a step -/

@[simp] theorem isBound_apply (duty : Duty) (outcome : Except EvaluationError Unit) (r : Registry)
    (id : ProviderId) : (duty.apply outcome r).isBound id = r.isBound id := by
  unfold Duty.apply
  split
  · exact Registry.isBound_announce_getD _ _ _
  · exact Registry.isBound_release r _
  · rfl

@[simp] theorem hasMade_apply (duty : Duty) (outcome : Except EvaluationError Unit) (r : Registry)
    (id : ProviderId) : (duty.apply outcome r).hasMade id = r.hasMade id := by
  unfold Duty.apply
  split
  · exact Registry.hasMade_announce_getD _ _ _
  · exact Registry.hasMade_release r _
  · rfl

/-- Only the start of a call binds or unbinds anything. -/
theorem isBound_play {move : Move} (hmove : move.rebinds = false) (x : System)
    (id : ProviderId) : (x.play move).registry.isBound id = x.registry.isBound id := by
  cases move with
  | bind => exact absurd hmove Bool.noConfusion
  | clear => exact absurd hmove Bool.noConfusion
  | emit => exact Registry.isBound_announce_getD _ _ _
  | turn call outcome =>
    rw [play]
    split
    · exact isBound_apply _ _ _ _
    · rfl

theorem isBound_after {moves : List Move} (hmoves : ∀ move ∈ moves, move.rebinds = false)
    (x : System) (id : ProviderId) :
    (x.after moves).registry.isBound id = x.registry.isBound id := by
  induction moves generalizing x with
  | nil => rfl
  | cons move moves ih =>
    rw [after_cons, ih fun other hmem => hmoves other (List.mem_cons_of_mem _ hmem)]
    exact isBound_play (hmoves move List.mem_cons_self) x id

/-- What is bound goes on to be something that has been made. -/
theorem Step.sound {x y : System} (h : Step x y) (hx : x.registry.Sound) : y.registry.Sound := by
  intro id hid
  cases h with
  | nothing => exact hx id hid
  | rebind hchange => exact hchange.isMade id hid
  | turn =>
    rw [isBound_apply] at hid
    rw [hasMade_apply]
    exact hx id hid
  | emit =>
    rw [Registry.isBound_announce_getD] at hid
    rw [Registry.hasMade_announce_getD]
    exact hx id hid

theorem sound_fresh : fresh.registry.Sound := by
  intro id hid
  have heq : ProviderId.builtin 0 = id := by
    rw [← beq_iff_eq, ← Registry.isBound_fresh]
    exact hid
  rw [← heq]
  rfl

/-- **The rule of induction over a run**: what is kept by every move is kept by all moves.  The
registry stays sound on the way. -/
theorem play_induction {P : System → Prop}
    (hplay : ∀ x move, x.registry.Sound → P x → P (x.play move)) {x : System}
    (hsound : x.registry.Sound) (hx : P x) (moves : List Move) :
    (x.after moves).registry.Sound ∧ P (x.after moves) := by
  induction moves generalizing x with
  | nil => exact ⟨hsound, hx⟩
  | cons move moves ih => exact ih ((play_step hsound move).sound hsound) (hplay x move hsound hx)

theorem sound_after (moves : List Move) : (fresh.after moves).registry.Sound :=
  (play_induction (P := fun _ => True) (fun _ _ _ _ => trivial) sound_fresh trivial moves).1

/-- What holds at first and is kept by every step holds after all moves. -/
theorem after_induction {P : System → Prop} (hfresh : P fresh)
    (hstep : ∀ x y, x.registry.Sound → P x → Step x y → P y) (moves : List Move) :
    P (fresh.after moves) := by
  refine (play_induction (fun x move hsound hx => ?_) sound_fresh hfresh moves).2
  exact hstep x _ hsound hx (play_step hsound move)

end System

end Lifecycle

end FeatureFlags
