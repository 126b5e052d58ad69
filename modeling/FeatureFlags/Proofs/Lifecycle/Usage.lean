import FeatureFlags.Api.Lifecycle
import FeatureFlags.Proofs.Registry.Bindings
import FeatureFlags.Proofs.Task.Mimics

/-!
# An instance in use

Any number of calls may be under way on an instance: calls that bind providers, resets, and events
on their way to the registry.  They go on in any order and come in between each other at every
change of the state; meanwhile anything else may happen to the instance.

The same may happen to an instance that is watched, whose state is kept beside something else.  If
the watched calls make the moves of the plain ones, then the two instances go on together.

## Main definitions

* `Api.Service` — the calls on an instance, watched or not; `Api.Service.plain` — the calls
  themselves.
* `Api.Usage` — an instance with the calls under way.
* `Api.Act`, `Api.Usage.act`, `Api.Usage.after` — what may happen next, and a run.
* `Api.stateAfter` — the state of an instance after a run.

## Main results

* `Api.Usage.Mirrors.after` — **a watched instance goes on as the plain one does.**
-/

namespace FeatureFlags

namespace Api

variable {W σ ρ : Type}

/-- Unbinds every provider and shuts each one down once, in some order of the jobs. -/
def clearInOrder (host : Host W) (arrange : List LifecycleJob → List LifecycleJob) :
    Task (State W) Unit := do
  let s ← Task.get
  let (registry, jobs) := s.registry.clear
  registryCell.modify fun _ => registry
  Task.each (perform host .empty) (arrange jobs)
  Task.log host.log (clearedEntry jobs.length)

theorem clearInOrder_id (host : Host W) : clearInOrder host id = clearProviders host := rfl

/-- The calls on an instance whose state is a part of another one. -/
structure Service (W σ : Type) where
  cell : Cell σ (State W)
  bind : Slot → ProviderRef → Task σ Unit
  /-- The bindings may be gone through in any order. -/
  clear : (List LifecycleJob → List LifecycleJob) → Task σ Unit
  dispatch : ProviderId → RaisedEvent → Task σ Unit

/-- The calls themselves. -/
def Service.plain (host : Host W) : Service W (State W) where
  cell := ⟨id, fun s _ => s⟩
  bind := bindProvider host
  clear := clearInOrder host
  dispatch := Api.dispatch host

/-- An instance in use: its state, and the calls under way. -/
structure Usage (σ : Type) where
  state : σ
  calls : List (Task σ Unit)

/-- What may happen next. -/
inductive Act (W : Type) where
  /-- A call that binds a provider is started. -/
  | bind (slot : Slot) (p : ProviderRef)
  /-- A call that resets the registry is started. -/
  | clear (arrange : List LifecycleJob → List LifecycleJob)
  /-- An event of a provider is sent to the registry. -/
  | emit (id : ProviderId) (raised : RaisedEvent)
  /-- A call goes on. -/
  | advance (call : Nat)
  /-- Anything else happens, but not to the registry. -/
  | elsewhere (change : State W → State W)

namespace Usage

/-- Starts a call, which goes on up to its first change of the state. -/
def start (x : Usage σ) (call : Task σ Unit) : Usage σ :=
  ⟨(call.advance x.state).2, x.calls ++ [(call.advance x.state).1]⟩

/-- A call goes on. -/
def advance (x : Usage σ) (call : Nat) : Usage σ :=
  match x.calls[call]? with
  | some t => ⟨(t.advance x.state).2, x.calls.set call (t.advance x.state).1⟩
  | none => x

variable (service : Service W σ)

/-- The instance after one more thing has happened.  A call that is not possible is not started:
the empty string is no domain, and a default that the registry has not made yet cannot be
bound. -/
def act (x : Usage σ) : Act W → Usage σ
  | .bind slot p =>
    if slot ≠ .domain "" ∧ (service.cell.get x.state).registry.hasMade p.id then
      x.start (service.bind slot p)
    else x
  | .clear arrange =>
    let jobs := (service.cell.get x.state).registry.clear.2
    if (arrange jobs).isPerm jobs then x.start (service.clear arrange) else x
  | .emit id raised => x.start (service.dispatch id raised)
  | .advance call => x.advance call
  | .elsewhere change =>
    let s := service.cell.get x.state
    { x with state := service.cell.set { change s with registry := s.registry } x.state }

/-- The instance after a number of things have happened. -/
def after (x : Usage σ) (acts : List (Act W)) : Usage σ := acts.foldl (act service) x

@[simp] theorem after_nil (x : Usage σ) : x.after service [] = x := rfl

@[simp] theorem after_cons (x : Usage σ) (a : Act W) (acts : List (Act W)) :
    x.after service (a :: acts) = (x.act service a).after service acts := rfl

theorem after_append (x : Usage σ) (acts more : List (Act W)) :
    x.after service (acts ++ more) = (x.after service acts).after service more :=
  List.foldl_append

end Usage

/-- The state of an instance after a run. -/
def stateAfter (host : Host W) (world : W) (acts : List (Act W)) : State W :=
  (Usage.after (.plain host) ⟨.fresh world, []⟩ acts).state

/-! ### Watched instances -/

/-- Watched calls that make the moves of the plain ones. -/
structure Service.Mimics (service : Service W (State W × ρ)) (host : Host W) : Prop where
  cell : service.cell = .first _ _
  bind : ∀ slot p, Task.Mimics False Eq (service.bind slot p) (bindProvider host slot p)
  clear : ∀ arrange, Task.Mimics False Eq (service.clear arrange) (clearInOrder host arrange)
  dispatch : ∀ id raised,
    Task.Mimics False Eq (service.dispatch id raised) (Api.dispatch host id raised)

/-- A watched instance in the same state as a plain one, with the same calls under way. -/
structure Usage.Mirrors (x : Usage (State W × ρ)) (y : Usage (State W)) : Prop where
  state : x.state.1 = y.state
  calls : List.Forall₂ (Task.Mimics False Eq) x.calls y.calls

/-- Two related lists at a position: either both end before it, or their members there are related
and may be replaced by others that are. -/
theorem forall₂_at {α β : Type} {rel : α → β → Prop} {as : List α} {bs : List β}
    (h : List.Forall₂ rel as bs) (position : Nat) :
    (as[position]? = none ∧ bs[position]? = none) ∨
      ∃ a b, as[position]? = some a ∧ bs[position]? = some b ∧ rel a b ∧
        ∀ {a' b'}, rel a' b' → List.Forall₂ rel (as.set position a') (bs.set position b') := by
  induction h generalizing position with
  | nil => exact .inl ⟨rfl, rfl⟩
  | @cons a b as bs hab hrest ih =>
    cases position with
    | zero => exact .inr ⟨a, b, rfl, rfl, hab, fun hnew => .cons hnew hrest⟩
    | succ position =>
      refine (ih position).imp_right ?_
      rintro ⟨a', b', ha, hb, hrel, hset⟩
      exact ⟨a', b', ha, hb, hrel, fun hnew => .cons hab (hset hnew)⟩

namespace Usage.Mirrors

variable {x : Usage (State W × ρ)} {y : Usage (State W)}

theorem start (h : x.Mirrors y) {call : Task (State W × ρ) Unit} {call' : Task (State W) Unit}
    (hcall : Task.Mimics False Eq call call') : (x.start call).Mirrors (y.start call') := by
  obtain ⟨hrest, hstate⟩ := hcall.advance x.state
  rw [h.state] at hrest hstate
  exact ⟨hstate, List.rel_append h.calls (.cons hrest .nil)⟩

theorem advance (h : x.Mirrors y) (call : Nat) : (x.advance call).Mirrors (y.advance call) := by
  rw [Usage.advance, Usage.advance]
  rcases forall₂_at h.calls call with ⟨hx, hy⟩ | ⟨t, u, hx, hy, htu, hset⟩
  · rw [hx, hy]
    exact h
  · obtain ⟨hrest, hstate⟩ := htu.advance x.state
    rw [h.state] at hrest hstate
    rw [hx, hy]
    exact ⟨hstate, hset hrest⟩

variable {service : Service W (State W × ρ)} {host : Host W}

theorem act (hservice : service.Mimics host) (h : x.Mirrors y) (a : Act W) :
    (x.act service a).Mirrors (y.act (.plain host) a) := by
  have hcell : service.cell.get x.state = (Service.plain host).cell.get y.state := by
    rw [hservice.cell]
    exact h.state
  cases a with
  | bind slot p =>
    rw [Usage.act, Usage.act, hcell]
    split
    · exact h.start (hservice.bind slot p)
    · exact h
  | clear arrange =>
    rw [Usage.act, Usage.act, hcell]
    split
    · exact h.start (hservice.clear arrange)
    · exact h
  | emit id raised => exact h.start (hservice.dispatch id raised)
  | advance call => exact h.advance call
  | elsewhere change =>
    refine ⟨?_, h.calls⟩
    rw [Usage.act, Usage.act, hcell, hservice.cell]
    rfl

/-- **A watched instance goes on as the plain one does.** -/
theorem after (hservice : service.Mimics host) (h : x.Mirrors y) (acts : List (Act W)) :
    (x.after service acts).Mirrors (y.after (.plain host) acts) := by
  induction acts generalizing x y with
  | nil => exact h
  | cons a acts ih => exact ih (h.act hservice a)

end Usage.Mirrors

end Api

end FeatureFlags
