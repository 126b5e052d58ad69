import FeatureFlags.Proofs.Task.Advance

/-!
# What a task guarantees

Others see a task by the changes that it makes to the state.  A task guarantees a kind of
change if each of its changes is one of that kind, whatever the others have made of the state
since the last one.

## Main definitions

* `Task.Guarantees step t` — every change that `t` makes is one along `step`.

## Main results

* `Task.Guarantees.bind`, `Task.guarantees_each`, `Task.guarantees_all` — tasks that are put
  together guarantee what their parts guarantee.
* `Task.GuaranteesFrom.run` — a run from beginning to end is one change of a kind that is
  transitive.
* `Task.GuaranteesFrom.advance` — one advance is one change at most.
-/

namespace FeatureFlags

namespace Task

variable {σ α β γ : Type} {step : σ → σ → Prop}

/-- From a state on, every change that a task makes is one along `step`. -/
def GuaranteesFrom (step : σ → σ → Prop) : Task σ α → σ → Prop
  | done _, _ => True
  | read next, s => GuaranteesFrom step (next s) s
  | write s' next, s => step s s' ∧ ∀ s'', GuaranteesFrom step next s''
  | suspend next, _ => ∀ s', GuaranteesFrom step next s'

/-- Every change that a task makes is one along `step`, whatever the others do meanwhile. -/
def Guarantees (step : σ → σ → Prop) (t : Task σ α) : Prop := ∀ s, t.GuaranteesFrom step s

theorem guarantees_done (a : α) : Guarantees step (done a : Task σ α) := fun _ => trivial

/-- Every task guarantees what is true of every change. -/
theorem guarantees_of_forall (h : ∀ s s', step s s') (t : Task σ α) : Guarantees step t := by
  intro s
  induction t generalizing s with
  | done a => exact trivial
  | read next ih => exact ih s s
  | write s' next ih => exact ⟨h s s', ih⟩
  | suspend next ih => exact ih

/-- What is guaranteed may be weakened. -/
theorem Guarantees.mono {step' : σ → σ → Prop} {t : Task σ α} (h : Guarantees step t)
    (hstep : ∀ s s', step s s' → step' s s') : Guarantees step' t := by
  suffices hfrom : ∀ s, t.GuaranteesFrom step s → t.GuaranteesFrom step' s from
    fun s => hfrom s (h s)
  clear h
  induction t with
  | done a => exact fun _ _ => trivial
  | read next ih => exact fun s h => ih s s h
  | write s' next ih => exact fun s h => ⟨hstep s s' h.1, fun s'' => ih s'' (h.2 s'')⟩
  | suspend next ih => exact fun _ h s' => ih s' (h s')

/-- To look at the state is no change. -/
theorem guarantees_read {next : σ → Task σ α} (h : ∀ s, Guarantees step (next s)) :
    Guarantees step (read next) :=
  fun s => h s s

theorem guarantees_modify {f : σ → σ} (h : ∀ s, step s (f s)) :
    Guarantees step (Task.modify f) :=
  fun s => ⟨h s, guarantees_done ()⟩

theorem guarantees_atomically {f : σ → α × σ} (h : ∀ s, step s (f s).2) :
    Guarantees step (Task.atomically f) :=
  fun s => ⟨h s, guarantees_done _⟩

theorem guarantees_suspend {next : Task σ α} (h : Guarantees step next) :
    Guarantees step (suspend next) :=
  fun _ => h

theorem guarantees_yields (n : Nat) : Guarantees step (yields n : Task σ Unit) := by
  induction n with
  | zero => exact guarantees_done ()
  | succ n ih => exact guarantees_suspend ih

/-! ### Tasks that are put together -/

theorem GuaranteesFrom.bind {t : Task σ α} {f : α → Task σ β} {s : σ}
    (ht : t.GuaranteesFrom step s) (hf : ∀ a, Guarantees step (f a)) :
    (t.bind f).GuaranteesFrom step s := by
  induction t generalizing s with
  | done a => exact hf a s
  | read next ih => exact ih s ht
  | write s' next ih => exact ⟨ht.1, fun s'' => ih (ht.2 s'')⟩
  | suspend next ih => exact fun s' => ih (ht s')

/-- **One task after the other** guarantees what both of them guarantee. -/
theorem Guarantees.bind {t : Task σ α} {f : α → Task σ β} (ht : Guarantees step t)
    (hf : ∀ a, Guarantees step (f a)) : Guarantees step (t.bind f) :=
  fun s => (ht s).bind hf

theorem guarantees_onThread {f : σ → α × σ} (h : ∀ s, step s (f s).2) :
    Guarantees step (Task.onThread f) :=
  (guarantees_yields 1).bind fun _ => (guarantees_atomically h).bind fun _ =>
    (guarantees_yields 1).bind fun _ => guarantees_done _

/-- A task that begins with a look at the state. -/
theorem guarantees_get_bind {f : σ → Task σ α} (h : ∀ s, Guarantees step (f s)) :
    Guarantees step (Task.get.bind f) :=
  guarantees_read h

theorem guarantees_each {f : α → Task σ Unit} {items : List α}
    (hf : ∀ a ∈ items, Guarantees step (f a)) : Guarantees step (each f items) := by
  induction items with
  | nil => exact guarantees_done ()
  | cons a rest ih =>
    refine (hf a List.mem_cons_self).bind fun _ => ih ?_
    exact fun b hb => hf b (List.mem_cons_of_mem _ hb)

/-- The turn of the second one of two tasks side by side. -/
theorem GuaranteesFrom.turn {u : Task σ β} {goOn : Task σ β → Task σ γ} {finish : β → Task σ γ}
    {s : σ} (hu : u.GuaranteesFrom step s)
    (hgoOn : ∀ next, Guarantees step next → Guarantees step (goOn next))
    (hfinish : ∀ b, Guarantees step (finish b)) :
    (turn goOn finish u).GuaranteesFrom step s := by
  induction u generalizing s with
  | done b => exact hfinish b
  | read next ih => exact ih s hu
  | write s' next ih => exact ⟨hu.1, fun s'' => ih (hu.2 s'')⟩
  | suspend next => exact hgoOn next hu

theorem Guarantees.both {t : Task σ α} {u : Task σ β} (ht : Guarantees step t)
    (hu : Guarantees step u) : Guarantees step (Task.both t u) := by
  suffices h : ∀ s, t.GuaranteesFrom step s → ∀ u : Task σ β, Guarantees step u →
      (Task.both t u).GuaranteesFrom step s from fun s => h s (ht s) u hu
  clear ht hu
  induction t with
  | done a => exact fun s _ u hu => (hu s).bind fun b => guarantees_done (a, b)
  | read next ih => exact fun s ht u hu => ih s s ht u hu
  | write s' next ih => exact fun s ht u hu => ⟨ht.1, fun s'' => ih s'' (ht.2 s'') u hu⟩
  | suspend next ih =>
    intro s ht u hu
    refine (hu s).turn (fun u hu s' => ih s' (ht s') u hu) fun b => ?_
    exact Guarantees.bind ht fun a => guarantees_done (a, b)

/-- **Tasks side by side** guarantee what each of them guarantees. -/
theorem guarantees_all {tasks : List (Task σ α)} (h : ∀ t ∈ tasks, Guarantees step t) :
    Guarantees step (all tasks) := by
  induction tasks with
  | nil => exact guarantees_done []
  | cons t rest ih =>
    have hrest := ih fun u hu => h u (List.mem_cons_of_mem _ hu)
    exact ((h t List.mem_cons_self).both hrest).bind fun _ => guarantees_done _

/-! ### Runs -/

/-- **A run from beginning to end** is one change, of a kind that is reflexive and
transitive. -/
theorem GuaranteesFrom.run {t : Task σ α} {s : σ} (h : t.GuaranteesFrom step s)
    (hrefl : ∀ s, step s s) (htrans : ∀ {s s' s''}, step s s' → step s' s'' → step s s'') :
    step s (t.run s).2 := by
  induction t generalizing s with
  | done a => exact hrefl s
  | read next ih => exact ih s h
  | write s' next ih => exact htrans h.1 (ih (h.2 s'))
  | suspend next ih => exact ih (h s)

/-- **One advance** is one change at most, and what is left guarantees the same. -/
theorem GuaranteesFrom.advance {t : Task σ α} {s : σ} (h : t.GuaranteesFrom step s) :
    ((t.advance s).2 = s ∨ step s (t.advance s).2) ∧ Guarantees step (t.advance s).1 := by
  induction t generalizing s with
  | done a => exact ⟨.inl rfl, guarantees_done a⟩
  | read next ih => exact ih s h
  | write s' next => exact ⟨.inr h.1, h.2⟩
  | suspend next => exact ⟨.inl rfl, h⟩

end Task

end FeatureFlags
