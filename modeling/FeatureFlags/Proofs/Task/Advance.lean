import FeatureFlags.Task

/-!
# Running a task write by write

Others need not wait until a task suspends: they may come in between any two changes that it
makes to the state.  What a task reads before a change is read together with it, so that a
decision and the change that follows from it are one step.

To poll a task, or to run it, is to let it advance a number of times with nothing in between.

## Main definitions

* `Task.advance` — runs a task up to its next change of the state or its next suspension.
* `Task.advances` — the same a number of times.

## Main results

* `Task.exists_advances_poll`, `Task.exists_advances_run` — **polling and running are
  advancing.**
-/

namespace FeatureFlags

/-- What is left of a task after one run up to its next suspension. -/
def Progress.rest {σ α : Type} : Progress σ α → Task σ α
  | finished a => .done a
  | waiting rest => rest

namespace Task

variable {σ α : Type}

/-- Whether a task has ended. -/
def isEnded : Task σ α → Bool
  | done _ => true
  | _ => false

/-- Runs a task up to its next change of the state or its next suspension. -/
def advance : Task σ α → σ → Task σ α × σ
  | done a, s => (done a, s)
  | read next, s => advance (next s) s
  | write s next, _ => (next, s)
  | suspend next, s => (next, s)

/-- Lets a task advance a number of times, with nothing in between. -/
def advances : Nat → Task σ α → σ → Task σ α × σ
  | 0, t, s => (t, s)
  | n + 1, t, s => advances n (t.advance s).1 (t.advance s).2

/-- What a task reads belongs to its next advance. -/
theorem advances_read {n : Nat} (hn : n ≠ 0) (next : σ → Task σ α) (s : σ) :
    (read next).advances n s = (next s).advances n s := by
  cases n with
  | zero => exact absurd rfl hn
  | succ n => rfl

/-- **To poll a task is to let it advance**, once at least. -/
theorem exists_advances_poll (t : Task σ α) (s : σ) :
    ∃ n, n ≠ 0 ∧ t.advances n s = ((t.poll s).1.rest, (t.poll s).2) := by
  induction t generalizing s with
  | done a => exact ⟨1, Nat.one_ne_zero, rfl⟩
  | read next ih =>
    obtain ⟨n, hn, h⟩ := ih s s
    refine ⟨n, hn, ?_⟩
    rw [advances_read hn, h]
    rfl
  | write s' next ih =>
    obtain ⟨n, -, h⟩ := ih s'
    exact ⟨n + 1, Nat.succ_ne_zero n, h⟩
  | suspend next => exact ⟨1, Nat.one_ne_zero, rfl⟩

/-- **To run a task is to let it advance to its end.** -/
theorem exists_advances_run (t : Task σ α) (s : σ) :
    ∃ n, n ≠ 0 ∧ t.advances n s = (done (t.run s).1, (t.run s).2) := by
  induction t generalizing s with
  | done a => exact ⟨1, Nat.one_ne_zero, rfl⟩
  | read next ih =>
    obtain ⟨n, hn, h⟩ := ih s s
    refine ⟨n, hn, ?_⟩
    rw [advances_read hn, h]
    rfl
  | write s' next ih =>
    obtain ⟨n, -, h⟩ := ih s'
    exact ⟨n + 1, Nat.succ_ne_zero n, h⟩
  | suspend next ih =>
    obtain ⟨n, -, h⟩ := ih s
    exact ⟨n + 1, Nat.succ_ne_zero n, h⟩

end Task

end FeatureFlags
