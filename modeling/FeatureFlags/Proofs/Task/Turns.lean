import FeatureFlags.Proofs.Task.Guarantees
import FeatureFlags.Proofs.Task.Mimics

/-!
# What a task adds in its turns

Notes are kept beside the state, and a task that waits lets others add theirs.  Whatever it adds
between two waits stands together, for nobody else has had a turn.  If a property of notes is kept
when notes are put one after the other, and every task of several side by side only adds notes with
it in each of its turns, then all their notes have it, in whatever order the turns were taken.

## Main definitions

* `Task.TurnsFrom P Q t` — what `t` adds in each of its turns has the property `P`, and what it adds
  in the last one has the property `Q` of its value.
* `Task.Turns P t` — what `t` adds in each of its turns has the property `P`.

## Main results

* `Task.Turns.bind`, `Task.Turns.both`, `Task.turns_all` — tasks one after the other and side by
  side.
* `Task.TurnsFrom.ensures` — **what has been added in all turns but the last has the property.**
-/

namespace FeatureFlags

namespace Task

variable {σ ν α β γ : Type}

/-- A property of notes that is kept when notes are put one after the other. -/
structure Lasting (P : List ν → Prop) : Prop where
  nil : P []
  append : ∀ {l l'}, P l → P l' → P (l ++ l')

/-- From a state on, and with something added already in the turn that is being taken, what a task
adds in each of its turns has the property `P`, and what it adds in the last one the property
`Q`. -/
def TurnsFrom (P : List ν → Prop) (Q : α → List ν → Prop) :
    Task (σ × List ν) α → List ν → σ × List ν → Prop
  | done a, added, _ => Q a added
  | read next, added, p => TurnsFrom P Q (next p) added p
  | write p' next, added, p =>
    ∃ new, p'.2 = p.2 ++ new ∧ ∀ p'', TurnsFrom P Q next (added ++ new) p''
  | suspend next, added, _ => P added ∧ ∀ p', TurnsFrom P Q next [] p'

/-- What a task adds in each of its turns has a property. -/
def Turns (P : List ν → Prop) (t : Task (σ × List ν) α) : Prop :=
  ∀ p, TurnsFrom P (fun _ => P) t [] p

variable {P : List ν → Prop} {Q : α → List ν → Prop} {R : β → List ν → Prop} {added : List ν}
  {p : σ × List ν}

/-! ### One task after the other -/

theorem TurnsFrom.bind {t : Task (σ × List ν) α} {f : α → Task (σ × List ν) β}
    (ht : TurnsFrom P Q t added p) (hf : ∀ a l, Q a l → ∀ p, TurnsFrom P R (f a) l p) :
    TurnsFrom P R (t.bind f) added p := by
  induction t generalizing added p with
  | done a => exact hf a added ht p
  | read next ih => exact ih p ht
  | write p' next ih =>
    obtain ⟨new, hnew, hnext⟩ := ht
    exact ⟨new, hnew, fun p'' => ih (hnext p'')⟩
  | suspend next ih => exact ⟨ht.1, fun p' => ih (ht.2 p')⟩

/-- In the turn that is being taken something may have been added before. -/
theorem TurnsFrom.after (hP : Lasting P) {t : Task (σ × List ν) α} {before : List ν}
    (ht : TurnsFrom P (fun _ => P) t added p) (hbefore : P before) :
    TurnsFrom P (fun _ => P) t (before ++ added) p := by
  induction t generalizing added p with
  | done a => exact hP.append hbefore ht
  | read next ih => exact ih p ht
  | write p' next ih =>
    obtain ⟨new, hnew, hnext⟩ := ht
    refine ⟨new, hnew, fun p'' => ?_⟩
    rw [List.append_assoc]
    exact ih (hnext p'')
  | suspend next ih => exact ⟨hP.append hbefore ht.1, ht.2⟩

/-- A task may take its first turn behind one that has just ended. -/
theorem Turns.behind (hP : Lasting P) {t : Task (σ × List ν) α} (ht : Turns P t) (hadded : P added)
    (p : σ × List ν) : TurnsFrom P (fun _ => P) t added p := by
  have hafter := (ht p).after hP hadded
  rwa [List.append_nil] at hafter

theorem Turns.bind (hP : Lasting P) {t : Task (σ × List ν) α} {f : α → Task (σ × List ν) β}
    (ht : Turns P t) (hf : ∀ a, Turns P (f a)) : Turns P (t.bind f) :=
  fun p => (ht p).bind fun a _ hl => (hf a).behind hP hl

/-! ### Small tasks -/

theorem turns_done (hP : Lasting P) (a : α) : Turns P (done a : Task (σ × List ν) α) :=
  fun _ => hP.nil

/-- A task over the state adds nothing. -/
theorem turns_within (hP : Lasting P) (t : Task σ α) :
    Turns P (t.within (Cell.first σ (List ν))) := by
  intro p
  induction t generalizing p with
  | done a => exact hP.nil
  | read next ih => exact ih p.1 p
  | write s next ih => exact ⟨[], (List.append_nil p.2).symm, ih⟩
  | suspend next ih => exact ⟨hP.nil, ih⟩

/-- The end of a task is noted in its last turn. -/
theorem Turns.noting {t : Task (σ × List ν) α} (ht : Turns P t) (describe : α → ν)
    (p : σ × List ν) :
    TurnsFrom P (fun a l => ∃ before, P before ∧ l = before ++ [describe a]) (t.noting describe) []
      p :=
  (ht p).bind fun a l hl _ => ⟨[describe a], rfl, fun _ => ⟨l, hl, rfl⟩⟩

/-- What comes after the end of a task that is noted goes on in the turn in which it is noted. -/
theorem Turns.noting_bind (hP : Lasting P) {t : Task (σ × List ν) α} (ht : Turns P t)
    {describe : α → ν} {f : α → Task (σ × List ν) β}
    (hf : ∀ a p, TurnsFrom P (fun _ => P) (f a) [describe a] p) :
    Turns P ((t.noting describe).bind f) := by
  intro p
  refine (ht.noting describe p).bind ?_
  rintro a l ⟨before, hbefore, rfl⟩ q
  exact (hf a q).after hP hbefore

/-! ### Tasks side by side -/

/-- The turn of the second one of two tasks side by side. -/
theorem TurnsFrom.turn {u : Task (σ × List ν) β} {goOn : Task (σ × List ν) β → Task (σ × List ν) γ}
    {finish : β → Task (σ × List ν) γ} (hu : TurnsFrom P (fun _ => P) u added p)
    (hgoOn : ∀ next, Turns P next → Turns P (goOn next)) (hfinish : ∀ b, Turns P (finish b)) :
    TurnsFrom P (fun _ => P) (Task.turn goOn finish u) added p := by
  induction u generalizing added p with
  | done b => exact ⟨hu, hfinish b⟩
  | read next ih => exact ih p hu
  | write p' next ih =>
    obtain ⟨new, hnew, hnext⟩ := hu
    exact ⟨new, hnew, fun p'' => ih (hnext p'')⟩
  | suspend next ih => exact ⟨hu.1, hgoOn next hu.2⟩

theorem Turns.both (hP : Lasting P) {t : Task (σ × List ν) α} {u : Task (σ × List ν) β}
    (ht : Turns P t) (hu : Turns P u) : Turns P (Task.both t u) := by
  suffices h : ∀ added p, TurnsFrom P (fun _ => P) t added p →
      ∀ u : Task (σ × List ν) β, Turns P u →
        TurnsFrom P (fun _ => P) (Task.both t u) added p from
    fun p => h [] p (ht p) u hu
  clear ht hu
  induction t with
  | done a =>
    intro added p hadded u hu
    exact (hu.behind hP hadded p).bind fun b l hl _ => hl
  | read next ih => exact fun added p ht u hu => ih p added p ht u hu
  | write p' next ih =>
    rintro added p ⟨new, hnew, hnext⟩ u hu
    exact ⟨new, hnew, fun p'' => ih _ _ (hnext p'') u hu⟩
  | suspend next ih =>
    intro added p ht u hu
    -- the second task goes on in the round in which the first one has suspended
    refine (hu.behind hP ht.1 p).turn (fun u hu p => ih [] p (ht.2 p) u hu) fun b => ?_
    have hnext : Turns P next := ht.2
    exact hnext.bind hP fun a => turns_done hP (a, b)

/-- **Tasks side by side** only add notes with a property in their turns if each of them does. -/
theorem turns_all (hP : Lasting P) {tasks : List (Task (σ × List ν) α)}
    (h : ∀ t ∈ tasks, Turns P t) : Turns P (all tasks) := by
  induction tasks with
  | nil => exact turns_done hP []
  | cons t rest ih =>
    have hrest := ih fun u hu => h u (List.mem_cons_of_mem _ hu)
    exact ((h t List.mem_cons_self).both hP hrest).bind hP fun _ => turns_done hP _

/-! ### All turns -/

/-- A change of a state with notes that keeps all notes and may add some. -/
def Adds (p p' : σ × List ν) : Prop := p.2 <+: p'.2

theorem Adds.of_confined {p p' : σ × List ν} (h : (Cell.first σ (List ν)).Confined p p') :
    Adds p p' := by
  obtain ⟨s, rfl⟩ := h
  exact List.prefix_rfl

/-- A task of which it is known what it adds keeps all notes. -/
theorem TurnsFrom.guaranteesFrom {t : Task (σ × List ν) α} (ht : TurnsFrom P Q t added p) :
    t.GuaranteesFrom Adds p := by
  induction t generalizing added p with
  | done a => exact trivial
  | read next ih => exact ih p ht
  | write p' next ih =>
    obtain ⟨new, hnew, hnext⟩ := ht
    exact ⟨⟨new, hnew.symm⟩, fun p'' => ih (hnext p'')⟩
  | suspend next ih => exact fun p' => ih (ht.2 p')

theorem Turns.guarantees {t : Task (σ × List ν) α} (ht : Turns P t) : t.Guarantees Adds :=
  fun p => (ht p).guaranteesFrom

theorem Guarantees.noting {t : Task (σ × List ν) α} (ht : t.Guarantees Adds) (describe : α → ν) :
    (t.noting describe).Guarantees Adds := by
  refine ht.bind fun a => Guarantees.bind ?_ fun _ => guarantees_done a
  exact guarantees_modify fun p => List.prefix_append p.2 [describe a]

/-- A task over the state with its end noted keeps all notes. -/
theorem guarantees_adds (t : Task σ α) (describe : α → ν) :
    ((t.within (.first σ (List ν))).noting describe).Guarantees Adds := by
  have hP : Lasting fun _ : List ν => True := ⟨trivial, fun _ _ => trivial⟩
  exact (turns_within hP t).guarantees.noting describe

theorem TurnsFrom.ensures_after (hP : Lasting P) {t : Task (σ × List ν) α}
    {start before : List ν} (ht : TurnsFrom P Q t added p) (hbefore : P before)
    (hp : p.2 = start ++ (before ++ added)) :
    t.Ensures (Cell.first σ (List ν)).Confined
      (fun a q => ∃ before last, q.2 = start ++ (before ++ last) ∧ P before ∧ Q a last) p := by
  induction t generalizing before added p with
  | done a => exact ⟨before, added, hp, hbefore, ht⟩
  | read next ih => exact ih p ht hbefore hp
  | write p' next ih =>
    obtain ⟨new, hnew, hnext⟩ := ht
    refine ih (hnext p') hbefore ?_
    rw [hnew, hp, List.append_assoc, List.append_assoc]
  | suspend next ih =>
    rintro _ ⟨s, rfl⟩
    have hdone : P (before ++ added) := hP.append hbefore ht.1
    refine ih (ht.2 _) hdone ?_
    rw [List.append_nil]
    exact hp

/-- **What has been added in all turns but the last has the property**, and what has been added in
the last one has its own, if the others only change the state. -/
theorem TurnsFrom.ensures (hP : Lasting P) {t : Task (σ × List ν) α} (ht : TurnsFrom P Q t [] p) :
    t.Ensures (Cell.first σ (List ν)).Confined
      (fun a q => ∃ before last, q.2 = p.2 ++ (before ++ last) ∧ P before ∧ Q a last) p :=
  ht.ensures_after hP hP.nil (List.append_nil p.2).symm

end Task

end FeatureFlags
