import FeatureFlags.Proofs.Task.Ensures
import Mathlib.Data.List.Forall2

/-!
# What tasks side by side contribute

Notes are kept beside the state.  A task adds notes of its own, and while it waits the tasks
beside it add theirs, so the notes as they stand in the end are nobody's own.  What a task
*contributes* are the notes that it adds itself, in the order in which it adds them.

Of tasks side by side every one contributes what it would on its own.  The order among notes of
different tasks depends on who waits for how long, and nothing is said about it: the notes of all
of them are the notes of each one, in some order.

## Main definitions

* `Task.Contributes R t` — the value of `t` and what it contributes are related by `R`, whatever
  the others do meanwhile.

## Main results

* `Task.Contributes.bind` — one task after the other.
* `Task.contributes_all` — **tasks side by side.**
* `Task.Contributes.ensures` — what is contributed is what has been added, if nobody else adds
  anything.
-/

namespace FeatureFlags

namespace Task

variable {σ ν α β γ : Type}

/-- Started in a state, and with `own` contributed so far, a task ends with a value and a
contribution that are related, whatever the others do while it waits. -/
def ContributesFrom (R : α → List ν → Prop) : Task (σ × List ν) α → List ν → σ × List ν → Prop
  | done a, own, _ => R a own
  | read next, own, p => ContributesFrom R (next p) own p
  | write p' next, own, p => ∃ new, p'.2 = p.2 ++ new ∧ ContributesFrom R next (own ++ new) p'
  | suspend next, own, _ => ∀ p', ContributesFrom R next own p'

/-- The value of a task and what it contributes are related, whatever the others do while it
waits. -/
def Contributes (R : α → List ν → Prop) (t : Task (σ × List ν) α) : Prop :=
  ∀ p, ContributesFrom R t [] p

variable {R : α → List ν → Prop} {S : β → List ν → Prop} {own own' : List ν}
  {p : σ × List ν}

theorem ContributesFrom.mono {R' : α → List ν → Prop} {t : Task (σ × List ν) α}
    (h : ContributesFrom R t own p) (hR : ∀ a l, R a l → R' a l) :
    ContributesFrom R' t own p := by
  induction t generalizing own p with
  | done a => exact hR a own h
  | read next ih => exact ih p h
  | write p' next ih =>
    obtain ⟨new, hnew, hnext⟩ := h
    exact ⟨new, hnew, ih hnext⟩
  | suspend next ih => exact fun p' => ih (h p')

theorem Contributes.mono {R' : α → List ν → Prop} {t : Task (σ × List ν) α}
    (h : Contributes R t) (hR : ∀ a l, R a l → R' a l) : Contributes R' t :=
  fun p => (h p).mono hR

/-- A task goes on in the same way whatever has been contributed before, by itself or by others:
a relation between the two that stays true when both are extended. -/
theorem ContributesFrom.frame {K : List ν → List ν → Prop}
    (hK : ∀ l l' new, K l l' → K (l ++ new) (l' ++ new)) {t : Task (σ × List ν) α}
    (h : ContributesFrom R t own' p) (hown : K own own') :
    ContributesFrom (fun a l => ∃ l', R a l' ∧ K l l') t own p := by
  induction t generalizing own own' p with
  | done a => exact ⟨own', h, hown⟩
  | read next ih => exact ih p h hown
  | write p' next ih =>
    obtain ⟨new, hnew, hnext⟩ := h
    exact ⟨new, hnew, ih hnext (hK _ _ _ hown)⟩
  | suspend next ih => exact fun p' => ih (h p') hown

/-! ### One task after the other -/

theorem ContributesFrom.bind {t : Task (σ × List ν) α} {f : α → Task (σ × List ν) β}
    (ht : ContributesFrom R t own p)
    (hf : ∀ a l, R a l → ∀ p, ContributesFrom S (f a) l p) :
    ContributesFrom S (t.bind f) own p := by
  induction t generalizing own p with
  | done a => exact hf a own ht p
  | read next ih => exact ih p ht
  | write p' next ih =>
    obtain ⟨new, hnew, hnext⟩ := ht
    exact ⟨new, hnew, ih hnext⟩
  | suspend next ih => exact fun p' => ih (ht p')

/-- **One task after the other** contributes what the first one does and then what the second
one does. -/
theorem Contributes.bind {t : Task (σ × List ν) α} {f : α → Task (σ × List ν) β}
    (ht : Contributes R t)
    (hf : ∀ a first, R a first → Contributes (fun b second => S b (first ++ second)) (f a)) :
    Contributes S (t.bind f) := by
  intro p
  refine (ht p).bind fun a first hfirst p => ?_
  -- the second task goes on from what the first one has contributed
  have hK : ∀ l l' new : List ν, l = first ++ l' → l ++ new = first ++ (l' ++ new) := by
    intro l l' new hl
    rw [hl, List.append_assoc]
  refine ((hf a first hfirst p).frame hK (List.append_nil first).symm).mono ?_
  rintro b l ⟨second, hsecond, rfl⟩
  exact hsecond

/-- What is done with the value afterwards contributes nothing. -/
theorem contributes_map {t : Task (σ × List ν) α} (f : α → β)
    (h : Contributes (fun a l => S (f a) l) t) : Contributes S (f <$> t) :=
  fun p => (h p).bind fun _ _ ha _ => ha

/-! ### Small tasks -/

theorem contributes_done {a : α} (h : R a []) : Contributes R (done a : Task (σ × List ν) α) :=
  fun _ => h

/-- A note that is added. -/
theorem contributes_note (note : ν) :
    Contributes (fun _ l => l = [note])
      (Task.modify fun p : σ × List ν => (p.1, p.2 ++ [note])) :=
  fun _ => ⟨[note], rfl, rfl⟩

/-- A change of the state alone. -/
theorem contributes_modify (f : σ → σ) :
    Contributes (fun _ l => l = []) (Task.modify fun p : σ × List ν => (f p.1, p.2)) :=
  fun p => ⟨[], (List.append_nil p.2).symm, rfl⟩

/-- A task over the state contributes nothing. -/
theorem contributes_within (t : Task σ α) :
    Contributes (fun _ l => l = []) (t.within (Cell.first σ (List ν))) := by
  intro p
  induction t generalizing p with
  | done a => rfl
  | read next ih => exact ih p.1 p
  | write s next ih => exact ⟨[], (List.append_nil p.2).symm, ih _⟩
  | suspend next ih => exact fun p' => ih p'

/-! ### Tasks side by side -/

/-- The turn of the second one of two tasks side by side, in which only that one adds
anything. -/
theorem ContributesFrom.turn {T : γ → List ν → Prop} {u : Task (σ × List ν) β}
    {goOn : Task (σ × List ν) β → Task (σ × List ν) γ} {finish : β → Task (σ × List ν) γ}
    {first second : List ν} (hu : ContributesFrom S u second p) (hown : own.Perm (first ++ second))
    (hgoOn : ∀ next own second, (∀ p, ContributesFrom S next second p) →
      own.Perm (first ++ second) → ∀ p, ContributesFrom T (goOn next) own p)
    (hfinish : ∀ b own second, S b second → own.Perm (first ++ second) →
      ∀ p, ContributesFrom T (finish b) own p) :
    ContributesFrom T (turn goOn finish u) own p := by
  induction u generalizing own second p with
  | done b => exact hfinish b own second hu hown
  | read next ih => exact ih p hu hown
  | write p' next ih =>
    obtain ⟨new, hnew, hnext⟩ := hu
    refine ⟨new, hnew, ih hnext ?_⟩
    rw [← List.append_assoc]
    exact hown.append_right new
  | suspend next => exact hgoOn next own second hu hown

/-- Two tasks side by side, of which the first one has come to `p`. -/
theorem ContributesFrom.both {t : Task (σ × List ν) α} {u : Task (σ × List ν) β}
    {first second : List ν} (ht : ContributesFrom R t first p)
    (hu : ∀ p, ContributesFrom S u second p) (hown : own.Perm (first ++ second)) :
    ContributesFrom (fun (ab : α × β) l => ∃ l₁ l₂, R ab.1 l₁ ∧ S ab.2 l₂ ∧ l.Perm (l₁ ++ l₂))
      (Task.both t u) own p := by
  have hright : ∀ first : List ν, ∀ l l' new : List ν, l.Perm (first ++ l') →
      (l ++ new).Perm (first ++ (l' ++ new)) := by
    intro first l l' new hl
    rw [← List.append_assoc]
    exact hl.append_right new
  have hleft : ∀ second : List ν, ∀ l l' new : List ν, l.Perm (l' ++ second) →
      (l ++ new).Perm (l' ++ new ++ second) := by
    intro second l l' new hl
    refine (hl.append_right new).trans ?_
    rw [List.append_assoc, List.append_assoc]
    exact List.perm_append_comm.append_left l'
  induction t generalizing u own first second p with
  | done a =>
    -- the first task has ended, and the second one goes on alone
    refine ((hu p).frame (hright first) hown).bind fun b l hl _ => ?_
    obtain ⟨l₂, hb, hl⟩ := hl
    exact ⟨first, l₂, ht, hb, hl⟩
  | read next ih => exact ih p ht hu hown
  | write p' next ih =>
    obtain ⟨new, hnew, hnext⟩ := ht
    exact ⟨new, hnew, ih hnext hu (hleft second _ _ new hown)⟩
  | suspend next ih =>
    refine (hu p).turn hown (fun u own second hu hown p => ih (ht p) hu hown) ?_
    -- the second task has ended in its turn, and the first one goes on alone
    intro b own second hb hown p
    refine ((ht p).frame (hleft second) hown).bind fun a l hl _ => ?_
    obtain ⟨l₁, ha, hl⟩ := hl
    exact ⟨l₁, second, ha, hb, hl⟩

/-- **Tasks side by side**: every one of them has a share, its value and what it contributes, and
all that is contributed is what they contribute, in some order. -/
theorem contributes_all {ι : Type} {items : List ι} {f : ι → Task (σ × List ν) α}
    {R : ι → α → List ν → Prop} (hf : ∀ i ∈ items, Contributes (R i) (f i)) :
    Contributes (fun as l => ∃ shares : List (α × List ν), as = shares.map (·.1) ∧
      List.Forall₂ (fun i share => R i share.1 share.2) items shares ∧
        l.Perm (shares.flatMap (·.2))) (all (items.map f)) := by
  induction items with
  | nil => exact contributes_done ⟨[], rfl, List.Forall₂.nil, List.Perm.refl _⟩
  | cons i rest ih =>
    have hrest := ih fun j hj => hf j (List.mem_cons_of_mem _ hj)
    intro p
    refine ((hf i List.mem_cons_self p).both hrest (List.Perm.refl _)).bind ?_
    rintro ⟨a, as⟩ l ⟨l₁, l₂, ha, ⟨shares, rfl, hshares, hl₂⟩, hl⟩ _
    exact ⟨(a, l₁) :: shares, rfl, .cons ha hshares, hl.trans (hl₂.append_left l₁)⟩

/-! ### Nobody else adds anything -/

/-- What a task contributes is what has been added in the end, if the others only change the
state. -/
theorem ContributesFrom.ensures {t : Task (σ × List ν) α} {start : List ν}
    (h : ContributesFrom R t own p) (hp : p.2 = start ++ own) :
    t.Ensures (Cell.first σ (List ν)).Confined (fun a q => ∃ l, R a l ∧ q.2 = start ++ l) p := by
  induction t generalizing own p with
  | done a => exact ⟨own, h, hp⟩
  | read next ih => exact ih p h hp
  | write p' next ih =>
    obtain ⟨new, hnew, hnext⟩ := h
    refine ih hnext ?_
    rw [hnew, hp, List.append_assoc]
  | suspend next ih =>
    rintro p' ⟨s, rfl⟩
    exact ih (h _) hp

theorem Contributes.ensures {t : Task (σ × List ν) α} (h : Contributes R t) (s : σ) :
    t.Ensures (Cell.first σ (List ν)).Confined (fun a q => R a q.2) (s, []) := by
  have hall : t.Ensures (Cell.first σ (List ν)).Confined
      (fun a q => ∃ l, R a l ∧ q.2 = [] ++ l) (s, []) := (h (s, [])).ensures rfl
  refine hall.mono ?_
  rintro a q ⟨l, hl, hq⟩
  rw [hq, List.nil_append]
  exact hl

end Task

end FeatureFlags
