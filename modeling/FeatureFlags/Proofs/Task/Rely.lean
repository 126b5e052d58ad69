import FeatureFlags.Proofs.Task.Ensures
import FeatureFlags.Proofs.Task.Guarantees
import FeatureFlags.Proofs.Task.Mimics

/-!
# Relying on others and guaranteeing to them

What a task guarantees step by step is about its own changes; what it ensures is about the state
that it ends in.  Where the others keep to the same kind of change, and that kind is reflexive
and transitive, the state at the end differs from the one at the start by a change of that kind.

The value of a task is another matter: where it depends on nothing that others can do, the tasks
of a list may be run side by side and each of them still gives its own.

## Main definitions

* `Task.Beside step` — a change of a state with notes that changes no note.
* `Task.Ends P t` — whatever the others do, the value of `t` has the property `P`.

## Main results

* `Task.Guarantees.ensures` — **a guarantee holds from beginning to end.**
* `Task.ends_all` — tasks side by side, each with its own value.
-/

namespace FeatureFlags

namespace Task

variable {σ ι α β γ : Type}

/-! ### From guarantees to what is ensured -/

section Guarantees

variable {step : σ → σ → Prop}

theorem GuaranteesFrom.ensures {t : Task σ α} {start s : σ} (h : t.GuaranteesFrom step s)
    (htrans : ∀ {s s' s''}, step s s' → step s' s'' → step s s'') (hs : step start s) :
    t.Ensures step (fun _ s' => step start s') s := by
  induction t generalizing s with
  | done a => exact hs
  | read next ih => exact ih s h hs
  | write s' next ih => exact ih (h.2 s') (htrans hs h.1)
  | suspend next ih => exact fun s' hs' => ih (h s') (htrans hs hs')

/-- **A guarantee holds from beginning to end**, if the others keep to it as well. -/
theorem Guarantees.ensures {t : Task σ α} (h : Guarantees step t) (hrefl : ∀ s, step s s)
    (htrans : ∀ {s s' s''}, step s s' → step s' s'' → step s s'') (s : σ) :
    t.Ensures step (fun _ s' => step s s') s :=
  (h s).ensures htrans (hrefl s)

end Guarantees

/-! ### Beside notes -/

section Beside

variable {ρ : Type} {step : σ → σ → Prop}

/-- A change of a state with notes that changes the state in some way and no note. -/
def Beside (step : σ → σ → Prop) (p p' : σ × ρ) : Prop := step p.1 p'.1 ∧ p'.2 = p.2

theorem GuaranteesFrom.within_first {t : Task σ α} {p : σ × ρ}
    (h : t.GuaranteesFrom step p.1) :
    (t.within (.first σ ρ)).GuaranteesFrom (Beside step) p := by
  induction t generalizing p with
  | done a => exact trivial
  | read next ih => exact ih p.1 h
  | write s' next ih => exact ⟨⟨h.1, rfl⟩, fun q => ih (h.2 q.1)⟩
  | suspend next ih => exact fun q => ih (h q.1)

/-- A task over the state changes no note. -/
theorem Guarantees.within_first {t : Task σ α} (h : Guarantees step t) :
    Guarantees (Beside step) (t.within (.first σ ρ)) :=
  fun p => (h p.1).within_first

/-- A task over the state is confined to it. -/
theorem guarantees_confined (t : Task σ α) :
    (t.within (.first σ ρ)).Guarantees (Cell.first σ ρ).Confined := by
  have h : Guarantees (fun _ _ => True) t := guarantees_of_forall (fun _ _ => trivial) t
  exact h.within_first.mono fun p p' hp => ⟨p'.1, Prod.ext rfl hp.2⟩

/-- A task over the state ensures what it ensures on its own, if the others change no note. -/
theorem Ensures.within_first {t : Task σ α} {Q : α → σ → Prop} {p : σ × ρ}
    (h : t.Ensures step Q p.1) :
    (t.within (.first σ ρ)).Ensures (Beside step) (fun a q => Q a q.1 ∧ q.2 = p.2) p := by
  suffices hfrom : ∀ q : σ × ρ, q.2 = p.2 → t.Ensures step Q q.1 →
      (t.within (.first σ ρ)).Ensures (Beside step) (fun a q => Q a q.1 ∧ q.2 = p.2) q from
    hfrom p rfl h
  clear h
  induction t with
  | done a => exact fun q hq h => ⟨h, hq⟩
  | read next ih => exact fun q hq h => ih q.1 q hq h
  | write s' next ih => exact fun q hq h => ih (s', q.2) hq h
  | suspend next ih => exact fun q hq h q' hq' => ih q' (hq'.2.trans hq) (h q'.1 hq'.1)

/-- A plain task ensures of the state what a task that mimics it does, if the others change the
state in the same way and no note. -/
theorem Mimics.ensures {asides : Prop} {rel : α → β → Prop} {t : Task (σ × ρ) α} {u : Task σ β}
    (h : Mimics asides rel t u) {Q : β → σ → Prop} {p : σ × ρ}
    (ht : t.Ensures (Beside step) (fun a q => ∀ b, rel a b → Q b q.1) p) :
    u.Ensures step Q p.1 := by
  induction h generalizing p with
  | done h => exact ht _ h
  | read h ih => exact ih p ht
  | @write p' s next next' hp h ih =>
    have hnext := ih ht
    rwa [hp] at hnext
  | suspend h ih => exact fun s hs => ih (ht (s, p.2) ⟨hs, rfl⟩)
  | look h ih => exact ih p ht
  | @aside _ keep next u h ih =>
    have hnext : next.Ensures (Beside step) (fun a q => ∀ b, rel a b → Q b q.1) (p.1, keep p) := ht
    have hu := ih hnext
    exact hu

end Beside

/-! ### Values that do not depend on others -/

/-- Whatever the others do, the value of a task has a property. -/
def Ends (P : α → Prop) (t : Task σ α) : Prop :=
  ∀ s, t.Ensures (fun _ _ => True) (fun a _ => P a) s

variable {P : α → Prop} {Q : β → Prop}

/-- The others may be known to do less. -/
theorem Ends.ensures {t : Task σ α} (h : Ends P t) (others : σ → σ → Prop) (s : σ) :
    t.Ensures others (fun a _ => P a) s :=
  (h s).of_others fun _ _ _ => trivial

theorem ends_done {a : α} (h : P a) : Ends P (done a : Task σ α) := fun _ => h

theorem Ends.bind {t : Task σ α} {f : α → Task σ β} (ht : Ends P t)
    (hf : ∀ a, P a → Ends Q (f a)) : Ends Q (t.bind f) := by
  intro s
  rw [ensures_bind]
  exact (ht s).mono fun a s' ha => hf a ha s'

/-- The turn of the second one of two tasks side by side. -/
theorem ensures_turn {R : γ → Prop} {goOn : Task σ β → Task σ γ} {finish : β → Task σ γ}
    {u : Task σ β} {s : σ} (hu : u.Ensures (fun _ _ => True) (fun b _ => Q b) s)
    (hgoOn : ∀ next, Ends Q next → Ends R (goOn next)) (hfinish : ∀ b, Q b → Ends R (finish b)) :
    (turn goOn finish u).Ensures (fun _ _ => True) (fun c _ => R c) s := by
  induction u generalizing s with
  | done b => exact fun s' _ => hfinish b hu s'
  | read next ih => exact ih s hu
  | write s' next ih => exact ih hu
  | suspend next ih => exact fun s' _ => hgoOn next (fun s'' => hu s'' trivial) s'

theorem Ends.both {t : Task σ α} {u : Task σ β} (ht : Ends P t) (hu : Ends Q u) :
    Ends (fun values : α × β => P values.1 ∧ Q values.2) (Task.both t u) := by
  suffices h : ∀ s, t.Ensures (fun _ _ => True) (fun a _ => P a) s → ∀ u : Task σ β, Ends Q u →
      (Task.both t u).Ensures (fun _ _ => True) (fun values _ => P values.1 ∧ Q values.2) s from
    fun s => h s (ht s) u hu
  clear ht hu
  induction t with
  | done a => exact fun s ha u hu => hu.bind (fun b hb => ends_done ⟨ha, hb⟩) s
  | read next ih => exact fun s ht u hu => ih s s ht u hu
  | write s' next ih => exact fun s ht u hu => ih s' ht u hu
  | suspend next ih =>
    intro s ht u hu
    -- the second task has its turn, and then both go on from where they are
    refine ensures_turn (hu s) (fun u hu s' => ih s' (ht s' trivial) u hu) fun b hb => ?_
    have hnext : Ends P next := fun s' => ht s' trivial
    exact hnext.bind fun a ha => ends_done ⟨ha, hb⟩

/-- **Tasks side by side**, each with a value of its own. -/
theorem ends_all {P : ι → α → Prop} {f : ι → Task σ α} {items : List ι}
    (h : ∀ i ∈ items, Ends (P i) (f i)) :
    Ends (fun values => List.Forall₂ P items values) (all (items.map f)) := by
  induction items with
  | nil => exact ends_done List.Forall₂.nil
  | cons i rest ih =>
    have hrest := ih fun j hj => h j (List.mem_cons_of_mem _ hj)
    refine ((h i List.mem_cons_self).both hrest).bind ?_
    rintro ⟨value, values⟩ ⟨hvalue, hvalues⟩
    exact ends_done (List.Forall₂.cons hvalue hvalues)

end Task

end FeatureFlags
