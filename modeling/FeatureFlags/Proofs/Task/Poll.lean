import FeatureFlags.Proofs.Task.Rely

/-!
# Tasks that take turns

A task that is polled has its turn: it goes on to its next suspension and leaves the rest of itself
behind.  What is known of a task is handed on to the rest of it, so that it may be used turn by
turn where several tasks share a state.

## Main definitions

* `Progress.Mimics` — what two tasks, of which one mimics the other, leave after a turn.

## Main results

* `Task.Ensures.poll`, `Task.Guarantees.poll`, `Task.Mimics.poll` — what is left of a task after
  its turn.
-/

namespace FeatureFlags

variable {σ ρ α β : Type}

/-- Either both tasks have ended, with related values, or both wait and one mimics the other. -/
def Progress.Mimics (asides : Prop) (rel : α → β → Prop) : Progress (σ × ρ) α → Progress σ β → Prop
  | finished a, finished b => rel a b
  | waiting t, waiting u => Task.Mimics asides rel t u
  | finished _, waiting _ => False
  | waiting _, finished _ => False

/-- What is left is mimicked by what is left. -/
theorem Progress.Mimics.rest {asides : Prop} {rel : α → β → Prop} {a : Progress (σ × ρ) α}
    {b : Progress σ β} (h : a.Mimics asides rel b) : Task.Mimics asides rel a.rest b.rest := by
  cases a with
  | finished a =>
    cases b with
    | finished b => exact .done h
    | waiting u => exact h.elim
  | waiting t =>
    cases b with
    | finished b => exact h.elim
    | waiting u => exact h

namespace Task

/-- After a turn the rest of a task ensures the same, whatever the others do next, if what is
ensured does not suffer from what they do. -/
theorem Ensures.poll {others : σ → σ → Prop} {t : Task σ α} {Q : α → σ → Prop} {s : σ}
    (h : t.Ensures others Q s) (hQ : ∀ a s s', Q a s → others s s' → Q a s') (s' : σ)
    (hs' : others (t.poll s).2 s') : (t.poll s).1.rest.Ensures others Q s' := by
  induction t generalizing s with
  | done a => exact hQ a s s' h hs'
  | read next ih => exact ih s h hs'
  | write s'' next ih => exact ih h hs'
  | suspend next => exact h s' hs'

/-- After a turn the rest of a task guarantees the same. -/
theorem Guarantees.poll {step : σ → σ → Prop} {t : Task σ α} (h : Guarantees step t) (s : σ) :
    Guarantees step (t.poll s).1.rest := by
  suffices hfrom : ∀ s, t.GuaranteesFrom step s → Guarantees step (t.poll s).1.rest from
    hfrom s (h s)
  clear h
  induction t with
  | done a => exact fun _ _ => guarantees_done a
  | read next ih => exact fun s hs => ih s s hs
  | write s' next ih => exact fun _ hs => ih s' (hs.2 s')
  | suspend next => exact fun _ hs => hs

/-- **A turn of a task that mimics another one** changes the state as the turn of that one does,
and what is left of the two is alike. -/
theorem Mimics.poll {asides : Prop} {rel : α → β → Prop} {t : Task (σ × ρ) α} {u : Task σ β}
    (h : Mimics asides rel t u) (p : σ × ρ) :
    (t.poll p).1.Mimics asides rel (u.poll p.1).1 ∧ (t.poll p).2.1 = (u.poll p.1).2 := by
  induction h generalizing p with
  | done h => exact ⟨h, rfl⟩
  | read h ih => exact ih p p
  | @write p' s next next' hp h ih =>
    have hnext := ih p'
    rwa [hp] at hnext
  | suspend h => exact ⟨h, rfl⟩
  | look h ih => exact ih p p
  | @aside _ keep next u h ih => exact ih (p.1, keep p)

end Task

end FeatureFlags
