import FeatureFlags.Proofs.Task.Rely

/-!
# The values of a task

A task is a tree, and its values stand at the leaves.  What holds at every leaf holds of the value
that a task ends with, in whatever state it is started and whatever others do.  It is also all that
has to be known of a task to replace what is done with its value: two continuations that agree on
the values are the same task.

## Main definitions

* `Task.AllValues P t` — every value at which the task `t` can end has the property `P`.
* `Task.Abides step P t` — the task `t` changes the state along `step` alone and ends with a value
  that has the property `P`.

## Main results

* `Task.AllValues.bind` — the values of a task that goes on after another one.
* `Task.AllValues.ends` — what holds of all values holds of the one that a task ends with.
* `Task.Abides.bind`, `Task.Abides.ensures` — the rule of sequencing, and what is known at the end.
* `Task.AllValues.bind_congr`, `Task.AllValues.map_eq_self` — **tasks that agree on all values are
  the same.**
-/

namespace FeatureFlags

namespace Task

variable {σ α β : Type} {P : α → Prop} {Q : β → Prop}

/-- Every value at which a task can end has a property. -/
def AllValues (P : α → Prop) : Task σ α → Prop
  | done a => P a
  | read next => ∀ s, AllValues P (next s)
  | write _ next => AllValues P next
  | suspend next => AllValues P next

@[simp] theorem allValues_done (a : α) : AllValues P (done a : Task σ α) ↔ P a := Iff.rfl

theorem allValues_of_forall (h : ∀ a, P a) (t : Task σ α) : t.AllValues P := by
  induction t with
  | done a => exact h a
  | read next ih => exact ih
  | write s next ih => exact ih
  | suspend next ih => exact ih

theorem AllValues.mono {t : Task σ α} {P' : α → Prop} (h : t.AllValues P)
    (hP : ∀ a, P a → P' a) : t.AllValues P' := by
  induction t with
  | done a => exact hP a h
  | read next ih => exact fun s => ih s (h s)
  | write s next ih => exact ih h
  | suspend next ih => exact ih h

/-- The values of a task that goes on after another one. -/
theorem AllValues.bind {t : Task σ α} {f : α → Task σ β} (ht : t.AllValues P)
    (hf : ∀ a, P a → (f a).AllValues Q) : (t.bind f).AllValues Q := by
  induction t with
  | done a => exact hf a ht
  | read next ih => exact fun s => ih s (ht s)
  | write s next ih => exact ih ht
  | suspend next ih => exact ih ht

/-- The same where nothing is known of the first task. -/
theorem allValues_bind {t : Task σ α} {f : α → Task σ β} (hf : ∀ a, (f a).AllValues Q) :
    (t.bind f).AllValues Q :=
  (allValues_of_forall (fun _ => trivial) t : t.AllValues fun _ => True).bind fun a _ => hf a

/-- What holds of all values holds of the one that a task ends with. -/
theorem AllValues.ends {t : Task σ α} (h : t.AllValues P) : t.Ends P := by
  intro s
  induction t generalizing s with
  | done a => exact h
  | read next ih => exact ih s (h s) s
  | write s' next ih => exact ih h s'
  | suspend next ih => exact fun s' _ => ih h s'

/-- **Continuations that agree on all values** of a task are the same task after it. -/
theorem AllValues.bind_congr {t : Task σ α} {f g : α → Task σ β} (h : t.AllValues P)
    (hfg : ∀ a, P a → f a = g a) : t.bind f = t.bind g := by
  induction t with
  | done a => exact hfg a h
  | read next ih => exact congrArg read (funext fun s => ih s (h s))
  | write s next ih => exact congrArg (write s) (ih h)
  | suspend next ih => exact congrArg suspend (ih h)

/-- A change that leaves all values of a task as they are leaves the task as it is. -/
theorem AllValues.map_eq_self {t : Task σ α} {f : α → α} (h : t.AllValues P)
    (hf : ∀ a, P a → f a = a) : f <$> t = t :=
  calc f <$> t = t.bind (.done ∘ f) := rfl
    _ = t.bind .done := h.bind_congr fun a ha => congrArg done (hf a ha)
    _ = t := t.bind_done_right

/-! ### Values and changes -/

/-- A task changes the state along `step` alone, and every value at which it can end has the
property `P`. -/
structure Abides (step : σ → σ → Prop) (P : α → Prop) (t : Task σ α) : Prop where
  guarantees : Guarantees step t
  values : AllValues P t

variable {step : σ → σ → Prop}

theorem abides_done {a : α} (h : P a) : Abides step P (done a : Task σ α) :=
  ⟨guarantees_done a, h⟩

theorem Guarantees.abides {t : Task σ α} (h : Guarantees step t) :
    Abides step (fun _ => True) t :=
  ⟨h, allValues_of_forall (fun _ => trivial) t⟩

/-- One task after the other: the second one abides by its own properties for the values that the
first one can have. -/
theorem Abides.bind {t : Task σ α} {f : α → Task σ β} (ht : Abides step P t)
    (hf : ∀ a, P a → Abides step Q (f a)) : Abides step Q (t.bind f) := by
  refine ⟨?_, ht.values.bind fun a ha => (hf a ha).values⟩
  suffices h : ∀ s, t.GuaranteesFrom step s → t.AllValues P →
      (t.bind f).GuaranteesFrom step s from fun s => h s (ht.guarantees s) ht.values
  clear ht
  induction t with
  | done a => exact fun s _ ha => (hf a ha).guarantees s
  | read next ih => exact fun s hs hvalues => ih s s hs (hvalues s)
  | write s' next ih => exact fun s hs hvalues => ⟨hs.1, fun s'' => ih s'' (hs.2 s'') hvalues⟩
  | suspend next ih => exact fun s hs hvalues s' => ih s' (hs s') hvalues

/-- The same where nothing is known of the value of the first task. -/
theorem Guarantees.bind_abides {t : Task σ α} {f : α → Task σ β} (ht : Guarantees step t)
    (hf : ∀ a, Abides step Q (f a)) : Abides step Q (t.bind f) :=
  ht.abides.bind fun a _ => hf a

/-- **What is known at the end**: the value, and the change of the state from beginning to end. -/
theorem Abides.ensures {t : Task σ α} (h : Abides step P t) (hrefl : ∀ s, step s s)
    (htrans : ∀ {s s' s''}, step s s' → step s' s'' → step s s'') (s : σ) :
    t.Ensures step (fun a s' => P a ∧ step s s') s :=
  (h.values.ends.ensures step s).and (h.guarantees.ensures hrefl htrans s)

end Task

end FeatureFlags
