import FeatureFlags.Proofs.Task.Mimics

/-!
# Tasks amid changes

What a task ensures, it ensures whatever others do to the state while it waits.  For one course of
events, what the others do is a list of changes: each suspension of the task lets the next change
in, and when there are none left the task goes on as it would on its own.

## Main definitions

* `Task.runAmid` — runs a task to its end, amid some changes to its state.

## Main results

* `Task.runAmid_nil` — without changes the task just runs.
* `Task.exists_runAmid_bind` — what comes after a task goes on from where that one has ended.
* `Task.ensures_iff_runAmid` — **what a task ensures is what holds amid all changes.**
* `Task.Mimics.runAmid` — a watched task runs amid changes as the plain one does.
-/

namespace FeatureFlags

namespace Task

variable {σ ρ α β : Type}

/-- Runs a task to its end.  Each suspension lets the next of some changes in, and there is none
after the last one. -/
def runAmid : Task σ α → List (σ → σ) → σ → α × σ
  | done a, _, s => (a, s)
  | read next, changes, s => runAmid (next s) changes s
  | write s next, changes, _ => runAmid next changes s
  | suspend next, changes, s => runAmid next changes.tail (changes.headD id s)

@[simp] theorem runAmid_nil (t : Task σ α) (s : σ) : t.runAmid [] s = t.run s := by
  induction t generalizing s with
  | done a => rfl
  | read next ih => exact ih s s
  | write s' next ih => exact ih s'
  | suspend next ih => exact ih s

/-- What comes after a task goes on from where that one has ended, amid the changes that are
left. -/
theorem exists_runAmid_bind (t : Task σ α) (f : α → Task σ β) (changes : List (σ → σ)) (s : σ) :
    let r := t.runAmid changes s
    ∃ n, (t.bind f).runAmid changes s = (f r.1).runAmid (changes.drop n) r.2 := by
  induction t generalizing changes s with
  | done a => exact ⟨0, rfl⟩
  | read next ih => exact ih s changes s
  | write s' next ih => exact ih changes s'
  | suspend next ih =>
    obtain ⟨n, hrun⟩ := ih changes.tail (changes.headD id s)
    have hdrop : changes.tail.drop n = changes.drop (n + 1) := List.drop_tail
    rw [hdrop] at hrun
    exact ⟨n + 1, hrun⟩

/-- **What a task ensures is what holds amid all changes** that the others may make. -/
theorem ensures_iff_runAmid {others : σ → σ → Prop} (hrefl : ∀ s, others s s) {t : Task σ α}
    {Q : α → σ → Prop} {s : σ} :
    t.Ensures others Q s ↔
      ∀ changes : List (σ → σ), (∀ change ∈ changes, ∀ s, others s (change s)) →
        Q (t.runAmid changes s).1 (t.runAmid changes s).2 := by
  induction t generalizing s with
  | done a => exact ⟨fun h _ _ => h, fun h => h [] fun _ hmem => absurd hmem List.not_mem_nil⟩
  | read next ih => exact ih s
  | write s' next ih => exact ih
  | suspend next ih =>
    constructor
    · intro h changes hchanges
      have hhead : others s (changes.headD id s) := by
        cases changes with
        | nil => exact hrefl s
        | cons change rest => exact hchanges change List.mem_cons_self s
      exact (ih.mp (h _ hhead)) changes.tail fun change hmem =>
        hchanges change (List.mem_of_mem_tail hmem)
    · classical
      intro h s' hs'
      refine ih.mpr fun changes hchanges => ?_
      -- the change that is made here, and nothing elsewhere
      have hfirst : ∀ x, others x (if x = s then s' else x) := by
        intro x
        split
        next hx => exact hx ▸ hs'
        next => exact hrefl x
      have hrun := h ((fun x => if x = s then s' else x) :: changes)
        (List.forall_mem_cons.mpr ⟨hfirst, hchanges⟩)
      rw [runAmid, List.tail_cons, List.headD_cons, if_pos rfl] at hrun
      exact hrun

/-- **What comes after a task, amid any changes, does what it ensures from where that one has
ended**, if it ensures it whatever the others do. -/
theorem runAmid_bind_of_ensures {t : Task σ α} {f : α → Task σ β} {Q : α → σ → β → σ → Prop}
    (h : ∀ a s, (f a).Ensures (fun _ _ => True) (Q a s) s) (changes : List (σ → σ)) (s : σ) :
    let r := t.runAmid changes s
    let r' := (t.bind f).runAmid changes s
    Q r.1 r.2 r'.1 r'.2 := by
  intro r r'
  obtain ⟨n, hrun⟩ := exists_runAmid_bind t f changes s
  rw [show r' = _ from hrun]
  exact (ensures_iff_runAmid fun _ => trivial).mp (h r.1 r.2) (changes.drop n) fun _ _ _ => trivial

/-! ### Watched tasks -/

/-- Changes of the state, made to a state with something beside it. -/
def beside (ρ : Type) (changes : List (σ → σ)) : List (σ × ρ → σ × ρ) :=
  changes.map fun change p => (change p.1, p.2)

/-- Changes of the state are confined to it. -/
theorem confined_of_mem_beside {changes : List (σ → σ)} {change : σ × ρ → σ × ρ}
    (h : change ∈ beside ρ changes) (p : σ × ρ) : (Cell.first σ ρ).Confined p (change p) := by
  obtain ⟨change, -, rfl⟩ := List.mem_map.mp h
  exact ⟨change p.1, rfl⟩

/-- What a watched task ensures holds in particular amid some changes of the state. -/
theorem Ensures.runAmid_beside {t : Task (σ × ρ) α} {Q : α → σ × ρ → Prop} {p : σ × ρ}
    (h : t.Ensures (Cell.first σ ρ).Confined Q p) (changes : List (σ → σ)) :
    Q (t.runAmid (beside ρ changes) p).1 (t.runAmid (beside ρ changes) p).2 :=
  (ensures_iff_runAmid fun p => ⟨p.1, rfl⟩).mp h _ fun _ hchange p =>
    confined_of_mem_beside hchange p

/-- **A watched task runs amid changes as the plain one does.** -/
theorem Mimics.runAmid {asides : Prop} {rel : α → β → Prop} {t : Task (σ × ρ) α} {u : Task σ β}
    (h : Mimics asides rel t u) (changes : List (σ → σ)) (p : σ × ρ) :
    rel (t.runAmid (beside ρ changes) p).1 (u.runAmid changes p.1).1 ∧
      (t.runAmid (beside ρ changes) p).2.1 = (u.runAmid changes p.1).2 := by
  induction h generalizing changes p with
  | done h => exact ⟨h, rfl⟩
  | read h ih => exact ih p changes p
  | @write p' s next next' hp h ih =>
    rw [Task.runAmid, Task.runAmid, ← hp]
    exact ih changes p'
  | suspend h ih =>
    cases changes with
    | nil => exact ih [] p
    | cons change rest => exact ih rest (change p.1, p.2)
  | look h ih => exact ih p changes p
  | @aside _ keep next u h ih => exact ih changes (p.1, keep p)

end Task

end FeatureFlags
