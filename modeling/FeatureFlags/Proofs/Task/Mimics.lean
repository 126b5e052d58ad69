import FeatureFlags.Proofs.Task.Advance
import FeatureFlags.Proofs.Task.Ensures
import Mathlib.Data.List.Forall2

/-!
# Watched tasks side by side

What a plain task ensures can be read off a watched one that it follows, but following is about a
task as a whole, and of tasks side by side each one goes on in turns.  A watched task that *mimics*
a plain one makes the same moves: it reads where the plain one does, writes the same state and
suspends at the same points, and in between it may look at the state.  It may put something aside
in the same step in which it writes; whether it may also do so in a step of its own is a matter of
what it is watched for.  Tasks side by side mimic each other as soon as each of them does.

## Main definitions

* `Task.noting` — a task whose end is noted.
* `Task.Mimics asides rel t u` — the watched task `t` makes the moves of the plain task `u`, and
  steps of its own only if `asides` holds.

## Main results

* `Task.Mimics.bind`, `Task.Mimics.both`, `Task.mimics_all` — tasks one after the other and side
  by side.
* `Task.mimics_note` — a task mimics itself if its end is noted.
* `Task.Mimics.follows` — **a plain task follows one that mimics it.**
* `Task.Mimics.advance` — a watched task without steps of its own goes on as the plain one does.
-/

namespace FeatureFlags

namespace Task

variable {σ ρ α β γ δ : Type}

/-- A watched task that makes the same moves as a plain one, and steps of its own if `asides`. -/
inductive Mimics (asides : Prop) (rel : α → β → Prop) : Task (σ × ρ) α → Task σ β → Prop where
  | done {a : α} {b : β} (h : rel a b) : Mimics asides rel (.done a) (.done b)
  | read {next : σ × ρ → Task (σ × ρ) α} {next' : σ → Task σ β}
      (h : ∀ p, Mimics asides rel (next p) (next' p.1)) :
      Mimics asides rel (.read next) (.read next')
  | write {p : σ × ρ} {s : σ} {next : Task (σ × ρ) α} {next' : Task σ β} (hp : p.1 = s)
      (h : Mimics asides rel next next') : Mimics asides rel (.write p next) (.write s next')
  | suspend {next : Task (σ × ρ) α} {next' : Task σ β} (h : Mimics asides rel next next') :
      Mimics asides rel (.suspend next) (.suspend next')
  /-- The watched task looks at the state. -/
  | look {next : σ × ρ → Task (σ × ρ) α} {u : Task σ β}
      (h : ∀ p, Mimics asides rel (next p) u) : Mimics asides rel (.read next) u
  /-- The watched task puts something aside in a step of its own. -/
  | aside (hasides : asides) {keep : σ × ρ → ρ} {next : Task (σ × ρ) α} {u : Task σ β}
      (h : Mimics asides rel next u) :
      Mimics asides rel (.read fun p => .write (p.1, keep p) next) u

variable {asides : Prop} {rel : α → β → Prop} {rel' : γ → δ → Prop}

/-- **A plain task follows one that mimics it.** -/
theorem Mimics.follows {t : Task (σ × ρ) α} {u : Task σ β} (h : Mimics asides rel t u) :
    Follows rel t u := by
  induction h with
  | done h => exact follows_done h
  | read h ih => exact fun Q p hp => ih p Q p hp
  | @write p s next next' hp h ih =>
    intro Q q hq
    have hnext := ih Q p hq
    rwa [hp] at hnext
  | suspend h ih =>
    intro Q p hp s _
    exact ih Q (s, p.2) (hp (s, p.2) ⟨s, rfl⟩)
  | look h ih => exact fun Q p hp => ih p Q p hp
  | @aside _ keep next u h ih => exact fun Q p hp => ih Q (p.1, keep p) hp

/-- A watched task without steps of its own goes on as the plain one does. -/
theorem Mimics.advance {t : Task (σ × ρ) α} {u : Task σ β} (h : Mimics False rel t u)
    (p : σ × ρ) : Mimics False rel (t.advance p).1 (u.advance p.1).1 ∧
      (t.advance p).2.1 = (u.advance p.1).2 := by
  induction h with
  | done h => exact ⟨.done h, rfl⟩
  | read h ih => exact ih p
  | write hp h => exact ⟨h, hp⟩
  | suspend h => exact ⟨h, rfl⟩
  | look h ih => exact ih p
  | aside hasides => exact hasides.elim

/-! ### Small tasks -/

/-- A task over the state mimics itself. -/
theorem mimics_within (t : Task σ α) : Mimics asides Eq (t.within (Cell.first σ ρ)) t := by
  induction t with
  | done a => exact .done rfl
  | read next ih => exact .read fun p => ih p.1
  | write s next ih => exact .look fun p => .write rfl ih
  | suspend next ih => exact .suspend ih

/-- A task that begins with a look at the state. -/
theorem mimics_get {f : σ × ρ → Task (σ × ρ) α} {g : σ → Task σ β}
    (h : ∀ p, Mimics asides rel (f p) (g p.1)) :
    Mimics asides rel (Task.get.bind f) (Task.get.bind g) :=
  .read h

/-- A change of the state, together with what is put aside in the same step. -/
theorem mimics_modify (change : σ → σ) (keep : σ × ρ → ρ) :
    Mimics asides Eq (Task.modify fun p => (change p.1, keep p)) (Task.modify change) :=
  .read fun _ => .write rfl (.done rfl)

/-! ### Tasks one after the other and side by side -/

theorem Mimics.bind {t : Task (σ × ρ) α} {u : Task σ β} {f : α → Task (σ × ρ) γ}
    {g : β → Task σ δ} (h : Mimics asides rel t u)
    (hfg : ∀ a b, rel a b → Mimics asides rel' (f a) (g b)) :
    Mimics asides rel' (t.bind f) (u.bind g) := by
  induction h with
  | done h => exact hfg _ _ h
  | read h ih => exact .read ih
  | write hp h ih => exact .write hp ih
  | suspend h ih => exact .suspend ih
  | look h ih => exact .look ih
  | aside hasides h ih => exact .aside hasides ih

/-- A watched task may go on without a move when the plain one has ended. -/
theorem Mimics.bind_left {t : Task (σ × ρ) α} {u : Task σ β} {f : α → Task (σ × ρ) γ}
    {rel' : γ → β → Prop} (h : Mimics asides rel t u)
    (hf : ∀ a b, rel a b → Mimics asides rel' (f a) (.done b)) :
    Mimics asides rel' (t.bind f) u := by
  have hbind : Mimics asides rel' (t.bind f) (u.bind .done) := h.bind hf
  rwa [Task.bind_done_right] at hbind

/-- A task on a state with notes, whose end is noted. -/
def noting {ν : Type} (describe : α → ν) (t : Task (σ × List ν) α) : Task (σ × List ν) α := do
  let a ← t
  Task.modify fun p => (p.1, p.2 ++ [describe a])
  return a

/-- Noting the end of a task is no move. -/
theorem Mimics.noting {ν : Type} {t : Task (σ × List ν) α} {u : Task σ β} (h : Mimics True rel t u)
    (describe : α → ν) : Mimics True rel (t.noting describe) u :=
  h.bind_left fun _ _ hab => .aside trivial (.done hab)

/-- A task over the state with its end noted mimics the task. -/
theorem mimics_note {ν : Type} (t : Task σ α) (describe : α → ν) :
    Mimics True Eq ((t.within (.first σ (List ν))).noting describe) t :=
  (mimics_within t).noting describe

theorem mimics_each {ι : Type} {f : ι → Task (σ × ρ) Unit} {g : ι → Task σ Unit}
    (h : ∀ i, Mimics asides Eq (f i) (g i)) (items : List ι) :
    Mimics asides Eq (each f items) (each g items) := by
  induction items with
  | nil => exact .done rfl
  | cons i rest ih => exact (h i).bind fun _ _ _ => ih

/-- The turn of the second one of two tasks side by side. -/
theorem Mimics.turn {u : Task (σ × ρ) α} {u' : Task σ β}
    {goOn : Task (σ × ρ) α → Task (σ × ρ) γ} {goOn' : Task σ β → Task σ δ}
    {finish : α → Task (σ × ρ) γ} {finish' : β → Task σ δ} (hu : Mimics asides rel u u')
    (hgoOn : ∀ u u', Mimics asides rel u u' → Mimics asides rel' (goOn u) (goOn' u'))
    (hfinish : ∀ a b, rel a b → Mimics asides rel' (finish a) (finish' b)) :
    Mimics asides rel' (Task.turn goOn finish u) (Task.turn goOn' finish' u') := by
  induction hu with
  | done h => exact .suspend (hfinish _ _ h)
  | read h ih => exact .read ih
  | write hp h ih => exact .write hp ih
  | suspend h => exact .suspend (hgoOn _ _ h)
  | look h ih => exact .look ih
  | aside hasides h ih => exact .aside hasides ih

theorem Mimics.both {t : Task (σ × ρ) α} {t' : Task σ β} {u : Task (σ × ρ) γ} {u' : Task σ δ}
    (ht : Mimics asides rel t t') (hu : Mimics asides rel' u u') :
    Mimics asides (fun x y => rel x.1 y.1 ∧ rel' x.2 y.2) (Task.both t u) (Task.both t' u') := by
  induction ht generalizing u u' with
  | done h => exact hu.bind fun _ _ h' => .done ⟨h, h'⟩
  | read h ih => exact .read fun p => ih p hu
  | write hp h ih => exact .write hp (ih hu)
  | suspend h ih =>
    refine hu.turn (fun _ _ hu => ih hu) fun _ _ h' => ?_
    exact h.bind fun _ _ h => .done ⟨h, h'⟩
  | look h ih => exact .look fun p => ih p hu
  | aside hasides h ih => exact .aside hasides (ih hu)

/-- **Tasks side by side** mimic others if each of them does. -/
theorem mimics_all {ι κ : Type} {items : List ι} {items' : List κ} {f : ι → Task (σ × ρ) α}
    {g : κ → Task σ α} (h : List.Forall₂ (fun i j => Mimics asides Eq (f i) (g j)) items items') :
    Mimics asides Eq (all (items.map f)) (all (items'.map g)) := by
  induction h with
  | nil => exact .done rfl
  | cons hij hrest ih =>
    refine (hij.both ih).bind ?_
    rintro ⟨a, as⟩ ⟨_, _⟩ ⟨rfl, rfl⟩
    exact .done rfl

end Task

end FeatureFlags
