import FeatureFlags.Proofs.Lifecycle.Debts
import Mathlib.Data.List.Forall2

/-!
# The calls of an instance, side by side

Any number of calls may be under way on an instance.  They go on in any order and come in
between each other at every change of the state; meanwhile anything else may happen to the
instance, and events may reach its registry.

Such a run follows the moves of a system in which only the duties of the calls are left: what
holds after all moves of the system holds of every run.

## Main definitions

* `Lifecycle.Pool` — an instance with its history and the calls under way.
* `Lifecycle.Act`, `Lifecycle.Pool.act` — what may happen next.
* `Lifecycle.Mirrors` — a system that stands for a pool.

## Main results

* `Lifecycle.Mirrors.act` — **whatever happens in a pool is some moves of the system.**
* `Lifecycle.exists_mirrors` — every run of a pool follows a run of the system.
-/

namespace FeatureFlags

open Api (State)

namespace Lifecycle

variable {W : Type}

/-- An instance in use: its state with what has happened, and the calls under way. -/
structure Pool (W : Type) where
  state : Recorded W
  calls : List (Task (Recorded W) Unit)

/-- What may happen next. -/
inductive Act (W : Type) where
  /-- A call that binds a provider is started. -/
  | bind (slot : Slot) (p : ProviderRef)
  /-- A call that resets the registry is started; the bindings may be gone through in any
  order. -/
  | clear (arrange : List LifecycleJob → List LifecycleJob)
  /-- A call goes on. -/
  | advance (call : Nat)
  /-- An event of a provider reaches the registry. -/
  | emit (id : ProviderId) (event : ProviderEvent) (code : Option ErrorCode)
  /-- Anything else happens, but not to the registry. -/
  | elsewhere (change : State W → State W)

/-- Whether a call is started, which changes the bindings. -/
def Act.rebinds {W : Type} : Act W → Bool
  | .bind _ _ => true
  | .clear _ => true
  | _ => false

namespace Pool

/-- The registry as it is. -/
def registry (x : Pool W) : Registry := x.state.1.registry

/-- What has happened. -/
def history (x : Pool W) : History := x.state.2

/-- An instance that has not been used yet. -/
def fresh (world : W) : Pool W := ⟨(State.fresh world, System.fresh.history), []⟩

/-- Starts a call, which goes on up to its first change of the state. -/
def start (x : Pool W) (call : Task (Recorded W) Unit) : Pool W :=
  let (rest, state) := call.advance x.state
  ⟨state, x.calls ++ [rest]⟩

/-- The pool after one more thing has happened.  A call that is not possible is not started:
the empty string is no domain, and a default that the registry has not made yet cannot be
bound. -/
def act (host : Host W) (x : Pool W) : Act W → Pool W
  | .bind slot p =>
    if slot ≠ .domain "" ∧ x.registry.hasMade p.id then x.start (bindRecorded host slot p) else x
  | .clear arrange =>
    if (arrange x.registry.clear.2).isPerm x.registry.clear.2 then
      x.start (clearRecorded host arrange)
    else x
  | .advance call =>
    match x.calls[call]? with
    | some t =>
      let (rest, state) := t.advance x.state
      ⟨state, x.calls.set call rest⟩
    | none => x
  | .emit id event code =>
    let registry := (x.registry.announce id event code).getD x.registry
    { x with state := ({ x.state.1 with registry }, x.history) }
  | .elsewhere change =>
    { x with state := ({ change x.state.1 with registry := x.registry }, x.history) }

/-- The pool after a number of things have happened. -/
def after (host : Host W) (x : Pool W) (acts : List (Act W)) : Pool W := acts.foldl (act host) x

/-- No call is under way any more. -/
def Quiescent (x : Pool W) : Prop := ∀ t ∈ x.calls, t.isEnded = true

instance (x : Pool W) : Decidable x.Quiescent :=
  inferInstanceAs (Decidable (∀ t ∈ x.calls, t.isEnded = true))

@[simp] theorem after_nil (host : Host W) (x : Pool W) : x.after host [] = x := rfl

@[simp] theorem after_cons (host : Host W) (x : Pool W) (a : Act W) (acts : List (Act W)) :
    x.after host (a :: acts) = (x.act host a).after host acts := rfl

/-- A call goes on for some time, with nothing in between. -/
theorem after_advances (host : Host W) {pool : Pool W}
    {before later : List (Task (Recorded W) Unit)} {t : Task (Recorded W) Unit}
    (hcalls : pool.calls = before ++ t :: later) (n : Nat) :
    pool.after host (List.replicate n (.advance before.length)) =
      ⟨(t.advances n pool.state).2, before ++ (t.advances n pool.state).1 :: later⟩ := by
  induction n generalizing pool t with
  | zero =>
    obtain ⟨state, calls⟩ := pool
    obtain rfl : calls = _ := hcalls
    rfl
  | succ n ih =>
    have hget : pool.calls[before.length]? = some t := by
      rw [hcalls, List.getElem?_append_right (Nat.le_refl _), Nat.sub_self]
      rfl
    have hact : pool.act host (.advance before.length) =
        ⟨(t.advance pool.state).2, before ++ (t.advance pool.state).1 :: later⟩ := by
      rw [Pool.act, hget, hcalls]
      dsimp only
      rw [List.set_append_right _ _ (Nat.le_refl _), Nat.sub_self]
      rfl
    rw [List.replicate_succ, Pool.after_cons, hact, ih rfl]
    rfl

/-- A call is run to its end, with nothing in between. -/
theorem exists_after_run (host : Host W) {pool : Pool W}
    {before later : List (Task (Recorded W) Unit)} {t : Task (Recorded W) Unit}
    (hcalls : pool.calls = before ++ t :: later) :
    ∃ n, pool.after host (List.replicate n (.advance before.length)) =
      ⟨(t.run pool.state).2, before ++ .done () :: later⟩ := by
  obtain ⟨n, -, hrun⟩ := t.exists_advances_run pool.state
  refine ⟨n, ?_⟩
  rw [after_advances host hcalls, hrun]

/-- A call that binds a provider, if it is possible, changes the bindings and then owes what its
jobs ask for. -/
theorem act_bind {host : Host W} (hhost : host.Discreet) {pool : Pool W} {slot : Slot}
    {p : ProviderRef} (hpossible : slot ≠ .domain "" ∧ pool.registry.hasMade p.id) :
    let changed := pool.registry.bind slot p
    let history := pool.history ++ System.changes pool.registry changed.1
    ∃ call, pool.act host (.bind slot p) =
        ⟨({ pool.state.1 with registry := changed.1 }, history), pool.calls ++ [call]⟩ ∧
      Owes call (changed.2.flatMap (duties history)) := by
  intro changed history
  obtain ⟨call, hadvance, howes⟩ := advance_bind hhost slot p pool.state
  refine ⟨call, ?_, howes⟩
  rw [act, if_pos hpossible, start, hadvance]
  rfl

end Pool

/-! ### Systems that stand for pools -/

/-- Whether something that has happened is seen: changes of bindings and calls of providers,
but not the steps of the registry. -/
def Note.isSeen : Note → Bool
  | .did duty => duty.stage.isCall
  | .announced _ _ _ => false
  | _ => true

/-- A system stands for a pool: the calls of the pool owe the duties of the system, and its
history is what is seen of the history of the system. -/
structure Mirrors (x : System) (pool : Pool W) : Prop where
  registry : x.registry = pool.registry
  history : x.history.filter Note.isSeen = pool.history
  calls : List.Forall₂ Owes pool.calls x.calls

theorem mirrors_fresh (world : W) : Mirrors System.fresh (Pool.fresh world) :=
  ⟨rfl, rfl, .nil⟩

/-- What is seen of a duty that is done. -/
theorem filter_notes (duty : Duty) (outcome : Except EvaluationError Unit) :
    (duty.notes outcome).filter Note.isSeen = duty.seen := by
  obtain ⟨stage, id, lifetime⟩ := duty
  cases stage <;> rfl

/-- Changes of bindings are seen. -/
theorem filter_changes (before after : Registry) :
    (System.changes before after).filter Note.isSeen = System.changes before after := by
  rw [List.filter_eq_self]
  intro note hnote
  rcases List.mem_append.mp hnote with hnote | hnote
  all_goals
    obtain ⟨_, -, rfl⟩ := List.mem_map.mp hnote
    rfl

theorem filter_creation (id : ProviderId) : (creation id).filter Note.isSeen = creation id := rfl

/-- The duties of a job can be told from what is seen. -/
theorem duties_filter (history : History) (job : LifecycleJob) :
    duties (history.filter Note.isSeen) job = duties history job := by
  have hlifetimes : ∀ id, lifetimes (history.filter Note.isSeen) id = lifetimes history id :=
    fun id => List.count_filter rfl
  cases job with
  | startUp p => rw [duties, duties, hlifetimes]
  | shutDown p => rw [duties, duties, hlifetimes]

namespace Mirrors

variable {x : System} {pool : Pool W} {host : Host W}

/-- Lists that are related element by element stay so around one of the elements. -/
theorem forall₂_append_cons {α β : Type} {R : α → β → Prop} {u v : List α} {a : α}
    {w : List β} (h : List.Forall₂ R (u ++ a :: v) w) :
    ∃ u' b v', w = u' ++ b :: v' ∧ List.Forall₂ R u u' ∧ R a b ∧ List.Forall₂ R v v' := by
  induction u generalizing w with
  | nil =>
    obtain ⟨b, v', hab, hv, rfl⟩ := List.forall₂_cons_left_iff.mp h
    exact ⟨[], b, v', rfl, .nil, hab, hv⟩
  | cons c u ih =>
    obtain ⟨d, w, hcd, hw, rfl⟩ := List.forall₂_cons_left_iff.mp h
    obtain ⟨u', b, v', rfl, hu, hab, hv⟩ := ih hw
    exact ⟨d :: u', b, v', rfl, .cons hcd hu, hab, hv⟩

/-- Of what happens in a system, the pool sees what is seen. -/
theorem history_append (h : Mirrors x pool) {more seen history : History}
    (hseen : more.filter Note.isSeen = seen) (hhistory : history = pool.history ++ seen) :
    (x.history ++ more).filter Note.isSeen = history := by
  rw [List.filter_append, h.history, hseen, hhistory]

/-- A call that changes the bindings in its first step, and owes what the jobs ask for. -/
theorem start (h : Mirrors x pool) {call rest : Task (Recorded W) Unit} {after : Registry}
    {jobs : List LifecycleJob} {made : List ProviderId}
    (hcall : call.advance pool.state =
      (rest, { pool.state.1 with registry := after },
        pool.history ++ System.changes pool.registry after ++ made.flatMap creation))
    (howes : Owes rest
      (jobs.flatMap (duties (pool.history ++ System.changes pool.registry after)))) :
    Mirrors (x.rebind after jobs made) (pool.start call) := by
  have hchanges := h.history_append (filter_changes x.registry after) rfl
  rw [Pool.start, hcall]
  refine ⟨rfl, ?_, List.rel_append h.calls (.cons ?_ .nil)⟩
  · have hcreation : (made.flatMap creation).filter Note.isSeen = made.flatMap creation := by
      rw [List.filter_flatMap]
      exact List.flatMap_congr fun id _ => filter_creation id
    show List.filter _ (_ ++ _) = _ ++ _ ++ _
    rw [List.filter_append, hchanges, hcreation, h.registry]
  · rw [← h.registry, ← hchanges] at howes
    rw [List.flatMap_congr fun job _ => duties_filter _ job] at howes
    exact howes

/-- Any number of events reach the registry. -/
theorem announced (h : Mirrors x pool) {s : State W}
    (hregistry : pool.registry.Announced s.registry) :
    ∃ moves : List Move, (∀ move ∈ moves, move.rebinds = false) ∧
      (x.after moves).calls = x.calls ∧
      Mirrors (x.after moves) ⟨(s, pool.history), pool.calls⟩ := by
  suffices h : ∃ moves : List Move, (∀ move ∈ moves, move.rebinds = false) ∧
      (x.after moves).calls = x.calls ∧ (x.after moves).registry = s.registry ∧
      (x.after moves).history.filter Note.isSeen = pool.history by
    obtain ⟨moves, hmoves, hcalls, hregistry, hhistory⟩ := h
    exact ⟨moves, hmoves, hcalls, hregistry, hhistory, hcalls.symm ▸ h.calls⟩
  generalize s.registry = r at hregistry
  -- one move for each event; the pool does not see them
  induction hregistry with
  | refl => exact ⟨[], by simp, rfl, h.registry, h.history⟩
  | tail _ hevent ih =>
    obtain ⟨moves, hmoves, hcalls, hregistry, hhistory⟩ := ih
    obtain ⟨id, event, code, rfl⟩ := hevent
    refine ⟨moves ++ [.emit id event code], ?_, ?_⟩
    · intro move hmove
      rcases List.mem_append.mp hmove with hmove | hmove
      · exact hmoves move hmove
      · rw [List.mem_singleton.mp hmove]
        rfl
    · rw [System.after_append]
      refine ⟨hcalls, ?_, ?_⟩
      · show ((x.after moves).registry.announce id event code).getD _ = _
        rw [hregistry]
      · show List.filter _ (_ ++ _) = _
        rw [List.filter_append, hhistory]
        exact List.append_nil _

/-- A call that goes on does its next duty, or nothing but let events through. -/
theorem advance (h : Mirrors x pool) {before later : List (Task (Recorded W) Unit)}
    {t : Task (Recorded W) Unit} (hcalls : pool.calls = before ++ t :: later) :
    ∃ moves : List Move, (∀ move ∈ moves, move.rebinds = false) ∧ Mirrors (x.after moves)
      ⟨(t.advance pool.state).2, before ++ (t.advance pool.state).1 :: later⟩ := by
  have howes := h.calls
  rw [hcalls] at howes
  obtain ⟨todo, duties, more, hx, hbefore, ht, hlater⟩ := forall₂_append_cons howes
  obtain ⟨rest, hpays, hrest⟩ := (ht pool.state).advance
  have hnext : List.Forall₂ Owes (before ++ (t.advance pool.state).1 :: later)
      (todo ++ rest :: more) := List.rel_append hbefore (.cons hrest hlater)
  cases hpays with
  | nothing hregistry hhistory =>
    obtain ⟨moves, hmoves, hsame, hmirrors⟩ := h.announced hregistry
    exact ⟨moves, hmoves, hmirrors.registry, hmirrors.history.trans hhistory.symm,
      hsame ▸ hx ▸ hnext⟩
  | duty outcome hregistry hhistory =>
    refine ⟨[.turn todo.length outcome], by simp [Move.rebinds], ?_⟩
    rw [System.after_cons, System.after_nil, System.play_turn hx]
    refine ⟨?_, ?_, hnext⟩
    · show Duty.apply _ outcome x.registry = _
      rw [h.registry]
      exact hregistry.symm
    · exact h.history_append (filter_notes _ outcome) hhistory

/-- **Whatever happens in a pool but the start of a call** is some moves of the system that
start no call. -/
theorem act_of_goes_on (host : Host W) (h : Mirrors x pool) {a : Act W}
    (ha : a.rebinds = false) :
    ∃ moves : List Move, (∀ move ∈ moves, move.rebinds = false) ∧
      Mirrors (x.after moves) (pool.act host a) := by
  cases a with
  | bind slot p => exact absurd ha Bool.noConfusion
  | clear arrange => exact absurd ha Bool.noConfusion
  | advance call =>
    rw [Pool.act]
    cases hcall : pool.calls[call]? with
    | none => exact ⟨[], by simp, h⟩
    | some t =>
      obtain ⟨hlt, hget⟩ := List.getElem?_eq_some_iff.mp hcall
      obtain ⟨before, later, hcalls, -, hset⟩ : ∃ before later,
          pool.calls = before ++ pool.calls[call] :: later ∧ before.length = call ∧
            pool.calls.set call (t.advance pool.state).1 =
              before ++ (t.advance pool.state).1 :: later :=
        List.exists_of_set hlt
      rw [hget] at hcalls
      obtain ⟨moves, hmoves, hnext⟩ := h.advance hcalls
      rw [← hset] at hnext
      exact ⟨moves, hmoves, hnext⟩
  | emit id event code =>
    obtain ⟨moves, hmoves, -, hmirrors⟩ := h.announced (s := { pool.state.1 with
      registry := (pool.registry.announce id event code).getD pool.registry })
      (.single ⟨id, event, code, rfl⟩)
    exact ⟨moves, hmoves, hmirrors⟩
  | elsewhere change => exact ⟨[], by simp, h.registry, h.history, h.calls⟩

/-- The start of a call that binds a provider, if it is possible. -/
theorem bind (hhost : host.Discreet) (h : Mirrors x pool) {slot : Slot} {p : ProviderRef}
    (hpossible : slot ≠ .domain "" ∧ pool.registry.hasMade p.id) :
    Mirrors (x.rebind (x.registry.bind slot p).1 (x.registry.bind slot p).2 [])
      (pool.act host (.bind slot p)) := by
  rw [Pool.act, if_pos hpossible, h.registry]
  obtain ⟨rest, hadvance, howes⟩ := advance_bind hhost slot p pool.state
  refine h.start (hadvance.trans ?_) howes
  rw [List.flatMap_nil, List.append_nil]
  rfl

/-- **The start of a call** is a move of the system. -/
theorem act_of_rebinds (hhost : host.Discreet) (h : Mirrors x pool) {a : Act W}
    (ha : a.rebinds = true) : ∃ move, Mirrors (x.play move) (pool.act host a) := by
  -- a start that is not possible is the turn of a call that is not there
  have hidle : ∃ move, Mirrors (x.play move) pool := by
    refine ⟨.turn x.calls.length (.ok ()), ?_⟩
    rw [System.play_idle]
    exact h
  cases a with
  | bind slot p =>
    by_cases hpossible : slot ≠ .domain "" ∧ pool.registry.hasMade p.id
    · refine ⟨.bind slot p, ?_⟩
      rw [System.play, h.registry, if_pos hpossible, ← h.registry]
      exact h.bind hhost hpossible
    · rw [Pool.act, if_neg hpossible]
      exact hidle
  | clear arrange =>
    rw [Pool.act]
    by_cases horder : (arrange pool.registry.clear.2).isPerm pool.registry.clear.2
    · rw [if_pos horder]
      refine ⟨.clear (arrange pool.registry.clear.2), ?_⟩
      rw [System.play, h.registry, if_pos horder]
      obtain ⟨rest, hadvance, howes⟩ := advance_clear hhost arrange pool.state
      refine h.start (hadvance.trans ?_) howes
      rw [List.flatMap_singleton]
      rfl
    · rw [if_neg horder]
      exact hidle
  | advance call => exact absurd ha Bool.noConfusion
  | emit id event code => exact absurd ha Bool.noConfusion
  | elsewhere change => exact absurd ha Bool.noConfusion

/-- **Whatever happens in a pool is some moves of the system.** -/
theorem act (hhost : host.Discreet) (h : Mirrors x pool) (a : Act W) :
    ∃ moves, Mirrors (x.after moves) (pool.act host a) := by
  cases ha : a.rebinds with
  | true =>
    obtain ⟨move, hmove⟩ := h.act_of_rebinds hhost ha
    exact ⟨[move], hmove⟩
  | false =>
    obtain ⟨moves, -, hmoves⟩ := h.act_of_goes_on host ha
    exact ⟨moves, hmoves⟩

/-- If no call is under way any more, no duties are left. -/
theorem pending_eq_nil (h : Mirrors x pool) (hquiescent : pool.Quiescent) :
    x.calls.flatten = [] := by
  rw [List.flatten_eq_nil_iff]
  intro todo htodo
  obtain ⟨i, hi, rfl⟩ := List.getElem_of_mem htodo
  have hlength := h.calls.length_eq
  have howes := h.calls.get (by omega) hi
  exact (howes pool.state).eq_nil (hquiescent _ (List.get_mem _ _))

end Mirrors

/-- A run from any pool that a system stands for. -/
theorem Mirrors.after {host : Host W} (hhost : host.Discreet) {x : System} {pool : Pool W}
    (h : Mirrors x pool) (acts : List (Act W)) :
    ∃ moves, Mirrors (x.after moves) (pool.after host acts) := by
  induction acts generalizing x pool with
  | nil => exact ⟨[], h⟩
  | cons a acts ih =>
    obtain ⟨moves, hmoves⟩ := h.act hhost a
    obtain ⟨more, hmore⟩ := ih hmoves
    rw [← System.after_append] at hmore
    exact ⟨moves ++ more, hmore⟩

/-- **Every run of a pool follows a run of the system.** -/
theorem exists_mirrors {host : Host W} (hhost : host.Discreet) (world : W)
    (acts : List (Act W)) :
    ∃ moves, Mirrors (System.fresh.after moves) ((Pool.fresh world).after host acts) :=
  (mirrors_fresh world).after hhost acts

/-! ### An application that waits -/

/-- A provider whose start and whose shutdown wait once. -/
def waiting (σ : Type) : Provider σ where
  name := "waiting"
  hooks := []
  startUp _ := .suspend (.done (.returned ()))
  shutDown := .suspend (.done (.returned ()))
  attach _ := .done ()
  detach := .done ()
  resolve _ _ defaultValue _ := .done (.returned (NoOp.answer defaultValue))

/-- An application of such providers, which remembers nothing. -/
def patient : Host Unit where
  provider _ _ := waiting _
  hook _ _ := .silent
  handle _ _ := .done none
  receive _ _ := .done ()
  journal _ world := world

theorem patient_discreet : patient.Discreet where
  provider _ _ :=
    ⟨fun _ _ => trivial, fun _ _ _ => trivial, fun _ => trivial, fun _ _ => trivial⟩
  handle _ _ _ := trivial

end Lifecycle

end FeatureFlags
