import FeatureFlags.Task

/-!
# What a task ensures

Whenever a task waits, others may change the state, and the task goes on from whatever it
then finds.  A property of the value and of the last state is *ensured* when it holds
however the others behave.  Tasks are finite trees, so a task that ensures anything also
ends.

A task over a part of a state is a task over the whole of it.  This is how a computation
is watched: it runs on one part of a pair, and what was seen of it is kept in the other.

## Main definitions

* `Task.Ensures others t Q s` — started in `s`, the task `t` ends with `Q`, when the others
  change the state along `others` whenever it waits.
* `Task.within` — a task over a part of the state.
* `Cell.Confined` — a change of the state that leaves everything outside a part as it is.
* `Task.Follows` — a plain task does what a watched one does.

## Main results

* `Task.ensures_bind` — the rule of sequencing.
* `Task.ensures_within` — a task over a part ensures what it ensures on its own.
* `Task.run_of_ensures` — what is ensured holds in particular when nobody interferes.
-/

namespace FeatureFlags

namespace Task

variable {σ τ α β : Type}

/-- Started in a state, a task ends with a property, when the others change the state along
`others` whenever it waits. -/
def Ensures (others : σ → σ → Prop) : Task σ α → (α → σ → Prop) → σ → Prop
  | done a, Q, s => Q a s
  | read next, Q, s => Ensures others (next s) Q s
  | write s next, Q, _ => Ensures others next Q s
  | suspend next, Q, s => ∀ s', others s s' → Ensures others next Q s'

variable {others : σ → σ → Prop}

@[simp] theorem ensures_done (a : α) (Q : α → σ → Prop) (s : σ) :
    (done a).Ensures others Q s ↔ Q a s := Iff.rfl

@[simp] theorem ensures_read (next : σ → Task σ α) (Q : α → σ → Prop) (s : σ) :
    (read next).Ensures others Q s ↔ (next s).Ensures others Q s := Iff.rfl

@[simp] theorem ensures_write (s' : σ) (next : Task σ α) (Q : α → σ → Prop) (s : σ) :
    (write s' next).Ensures others Q s ↔ next.Ensures others Q s' := Iff.rfl

@[simp] theorem ensures_suspend (next : Task σ α) (Q : α → σ → Prop) (s : σ) :
    (suspend next).Ensures others Q s ↔ ∀ s', others s s' → next.Ensures others Q s' := Iff.rfl

@[simp] theorem ensures_modify (f : σ → σ) (Q : Unit → σ → Prop) (s : σ) :
    (modify f).Ensures others Q s ↔ Q () (f s) := Iff.rfl

@[simp] theorem ensures_get_bind (f : σ → Task σ α) (Q : α → σ → Prop) (s : σ) :
    (get.bind f).Ensures others Q s ↔ (f s).Ensures others Q s := Iff.rfl

/-- **The rule of sequencing**: the first task has to end where the second one ensures the
property. -/
theorem ensures_bind (t : Task σ α) (f : α → Task σ β) (Q : β → σ → Prop) (s : σ) :
    (t.bind f).Ensures others Q s ↔
      t.Ensures others (fun a s => (f a).Ensures others Q s) s := by
  induction t generalizing s with
  | done a => rfl
  | read next ih => exact ih s s
  | write s' next ih => exact ih s'
  | suspend next ih =>
    rw [bind_suspend, ensures_suspend, ensures_suspend]
    exact forall₂_congr fun s' _ => ih s'

/-- What is ensured may be weakened. -/
theorem Ensures.mono {t : Task σ α} {Q P : α → σ → Prop} {s : σ}
    (h : t.Ensures others Q s) (hQP : ∀ a s, Q a s → P a s) : t.Ensures others P s := by
  induction t generalizing s with
  | done a => exact hQP a s h
  | read next ih => exact ih s h
  | write s' next ih => exact ih h
  | suspend next ih => exact fun s' hs' => ih (h s' hs')

/-- What is ensured holds all the more where the others may do less. -/
theorem Ensures.of_others {others' : σ → σ → Prop} {t : Task σ α} {Q : α → σ → Prop} {s : σ}
    (h : t.Ensures others Q s) (hless : ∀ s s', others' s s' → others s s') :
    t.Ensures others' Q s := by
  induction t generalizing s with
  | done a => exact h
  | read next ih => exact ih s h
  | write s' next ih => exact ih h
  | suspend next ih => exact fun s' hs' => ih (h s' (hless s s' hs'))

/-- What is ensured twice over is ensured together. -/
theorem Ensures.and {t : Task σ α} {P Q : α → σ → Prop} {s : σ} (hP : t.Ensures others P s)
    (hQ : t.Ensures others Q s) : t.Ensures others (fun a s => P a s ∧ Q a s) s := by
  induction t generalizing s with
  | done a => exact ⟨hP, hQ⟩
  | read next ih => exact ih s hP hQ
  | write s' next ih => exact ih hP hQ
  | suspend next ih => exact fun s' hs' => ih (hP s' hs') (hQ s' hs')

/-- A property of every value and every state is ensured by every task. -/
theorem ensures_of_forall {Q : α → σ → Prop} (h : ∀ a s, Q a s) (t : Task σ α) (s : σ) :
    t.Ensures others Q s := by
  induction t generalizing s with
  | done a => exact h a s
  | read next ih => exact ih s s
  | write s' next ih => exact ih s'
  | suspend next ih => exact fun s' _ => ih s'

@[simp] theorem ensures_map (f : α → β) (t : Task σ α) (Q : β → σ → Prop) (s : σ) :
    (f <$> t).Ensures others Q s ↔ t.Ensures others (fun a => Q (f a)) s :=
  ensures_bind t _ Q s

/-- What a task ensures holds in particular when it is run with nothing in between. -/
theorem run_of_ensures {t : Task σ α} {Q : α → σ → Prop} {s : σ}
    (hrefl : ∀ s, others s s) (h : t.Ensures others Q s) : Q (t.run s).1 (t.run s).2 := by
  induction t generalizing s with
  | done a => exact h
  | read next ih => exact ih s h
  | write s' next ih => exact ih h
  | suspend next ih => exact ih (h s (hrefl s))

/-! ### Tasks over a part of the state -/

/-- A task over a part of the state, as one over the whole of it. -/
def within (part : Cell τ σ) : Task σ α → Task τ α
  | done a => done a
  | read next => read fun p => within part (next (part.get p))
  | write s next => read fun p => write (part.set s p) (within part next)
  | suspend next => suspend (within part next)

end Task

namespace Cell

variable {σ τ : Type}

/-- A part that is read as it was written, and of which only the last writing counts. -/
structure Lawful (part : Cell τ σ) : Prop where
  get_set : ∀ s p, part.get (part.set s p) = s
  set_get : ∀ p, part.set (part.get p) p = p
  set_set : ∀ s s' p, part.set s (part.set s' p) = part.set s p

/-- A change of the state that leaves everything outside a part as it is. -/
def Confined (part : Cell τ σ) (p p' : τ) : Prop := ∃ s, p' = part.set s p

/-- The first part of a pair. -/
def first (σ ρ : Type) : Cell (σ × ρ) σ where
  get := Prod.fst
  set s p := (s, p.2)

theorem lawful_first (σ ρ : Type) : (first σ ρ).Lawful where
  get_set _ _ := rfl
  set_get _ := rfl
  set_set _ _ _ := rfl

end Cell

namespace Task

variable {σ τ α : Type}

/-- **A task over a part ensures what it ensures on its own**, with the others confined to
that part and free to do there what they like. -/
theorem ensures_within {part : Cell τ σ} (hpart : part.Lawful) (t : Task σ α)
    (Q : α → τ → Prop) (p : τ) :
    (t.within part).Ensures part.Confined Q p ↔
      t.Ensures (fun _ _ => True) (fun a s => Q a (part.set s p)) (part.get p) := by
  induction t generalizing p with
  | done a => simp only [within, ensures_done, hpart.set_get]
  | read next ih => exact ih (part.get p) p
  | write s next ih =>
    simp only [within, ensures_read, ensures_write]
    rw [ih, hpart.get_set]
    simp only [hpart.set_set]
  | suspend next ih =>
    simp only [within, ensures_suspend]
    -- the others have left everything outside the part as it was
    constructor
    · intro h s _
      have hs := (ih _).mp (h (part.set s p) ⟨s, rfl⟩)
      rw [hpart.get_set] at hs
      simpa only [hpart.set_set] using hs
    · rintro h p' ⟨s, rfl⟩
      rw [ih, hpart.get_set]
      simpa only [hpart.set_set] using h s trivial

/-! ### Tasks that do the same -/

variable {ρ β γ δ : Type} {rel : α → β → Prop} {rel' : γ → δ → Prop}

/-- A plain task ensures, of the state and of a related value, what a watched one ensures with
the others confined to the state: what is kept in the other part is never read. -/
def Follows (rel : α → β → Prop) (t : Task (σ × ρ) α) (u : Task σ β) : Prop :=
  ∀ (Q : β → σ → Prop) (p : σ × ρ),
    t.Ensures (Cell.first σ ρ).Confined (fun a q => ∀ b, rel a b → Q b q.1) p →
      u.Ensures (fun _ _ => True) Q p.1

theorem follows_done {a : α} {b : β} (h : rel a b) :
    Follows rel (.done a : Task (σ × ρ) α) (.done b) :=
  fun _ _ hQ => hQ b h

theorem follows_bind {t : Task (σ × ρ) α} {u : Task σ β} {f : α → Task (σ × ρ) γ}
    {g : β → Task σ δ} (htu : Follows rel t u)
    (hfg : ∀ a b, rel a b → Follows rel' (f a) (g b)) : Follows rel' (t.bind f) (u.bind g) := by
  intro Q p h
  rw [ensures_bind] at h
  rw [ensures_bind]
  apply htu _ p
  refine h.mono fun a q ha b hab => ?_
  exact hfg a b hab Q q ha

end Task

end FeatureFlags
