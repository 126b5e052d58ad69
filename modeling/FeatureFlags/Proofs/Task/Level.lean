import FeatureFlags.Proofs.Task.Amid
import FeatureFlags.Proofs.Task.Rely
import FeatureFlags.Proofs.Task.Turns

/-!
# Tasks that say the same

Two tasks keep notes of two kinds: of what they do, and of what they say of it.  They are level if
they say the same as long as they do the same.  Nothing is said of the state that the notes stand
beside: the tasks may find it and leave it as different as can be, and others may change it as they
like while they wait.

As long as two tasks only add notes, what they have done up to some point are beginnings of what
they will have done in the end.  If that is the same, then so is what they have done up to that
point, and tasks that are level may be put one after the other.

## Main definitions

* `Task.acts`, `Task.reports` — the notes of either kind.
* `Task.Level rel t u` — tasks that say the same and whose values are related, as long as they do
  the same.
* `Task.Explained` — notes that say just what can be told from what is done.

## Main results

* `Task.Level.bind` — **tasks that are level, one after the other.**
* `Task.level_of_ensures` — tasks are level if what they add is.
* `Task.level_noting` — calls are level if what is said within them can be told from what is done.
-/

namespace FeatureFlags

namespace Task

variable {σ ι ρ α β γ δ : Type}

/-! ### Notes of two kinds -/

/-- What has been done. -/
def acts (notes : List (ι ⊕ ρ)) : List ι := notes.filterMap Sum.getLeft?

/-- What has been said. -/
def reports (notes : List (ι ⊕ ρ)) : List ρ := notes.filterMap Sum.getRight?

@[simp] theorem acts_nil : acts ([] : List (ι ⊕ ρ)) = [] := rfl

@[simp] theorem acts_inl (act : ι) (l : List (ι ⊕ ρ)) : acts (.inl act :: l) = act :: acts l := rfl

@[simp] theorem acts_inr (said : ρ) (l : List (ι ⊕ ρ)) : acts (.inr said :: l) = acts l := rfl

@[simp] theorem acts_append (l l' : List (ι ⊕ ρ)) : acts (l ++ l') = acts l ++ acts l' :=
  List.filterMap_append

@[simp] theorem reports_nil : reports ([] : List (ι ⊕ ρ)) = [] := rfl

@[simp] theorem reports_inl (act : ι) (l : List (ι ⊕ ρ)) : reports (.inl act :: l) = reports l :=
  rfl

@[simp] theorem reports_inr (said : ρ) (l : List (ι ⊕ ρ)) :
    reports (.inr said :: l) = said :: reports l := rfl

@[simp] theorem reports_append (l l' : List (ι ⊕ ρ)) :
    reports (l ++ l') = reports l ++ reports l' :=
  List.filterMap_append

/-- One of two lists is a beginning of the other. -/
def Comparable (l l' : List ι) : Prop := l <+: l' ∨ l' <+: l

/-- Beginnings of lists that are comparable are so, too. -/
theorem Comparable.of_prefix {l l' m m' : List ι} (h : Comparable m m') (hl : l <+: m)
    (hl' : l' <+: m') : Comparable l l' := by
  rcases h with h | h
  · exact List.prefix_or_prefix_of_prefix (hl.trans h) hl'
  · exact List.prefix_or_prefix_of_prefix hl (hl'.trans h)

/-- What comes after a common beginning is comparable, too. -/
theorem Comparable.of_append {l m m' : List ι} (h : Comparable (l ++ m) (l ++ m')) :
    Comparable m m' :=
  h.imp (List.prefix_append_right_inj l).mp (List.prefix_append_right_inj l).mp

/-- Two states in which the same has been done and the same has been said. -/
structure Even (p q : σ × List (ι ⊕ ρ)) : Prop where
  acts : acts p.2 = acts q.2
  reports : reports p.2 = reports q.2

/-! ### Tasks -/

/-- Two tasks that only add notes, and that say the same as long as they do the same, whatever the
others make of the state; then their values are related. -/
def Level (rel : α → β → Prop) (t : Task (σ × List (ι ⊕ ρ)) α) (u : Task (σ × List (ι ⊕ ρ)) β) :
    Prop :=
  ∀ p q (changes changes' : List (σ → σ)), t.GuaranteesFrom Adds p → u.GuaranteesFrom Adds q →
    Even p q →
    let r := t.runAmid (beside _ changes) p
    let r' := u.runAmid (beside _ changes') q
    Comparable (acts r.2.2) (acts r'.2.2) → rel r.1 r'.1 ∧ Even r.2 r'.2

variable {rel : α → β → Prop} {rel' : γ → δ → Prop} {step : σ → σ → Prop}

/-- What a task guarantees together with what comes after it, it guarantees on its own. -/
theorem GuaranteesFrom.of_bind {t : Task σ α} {f : α → Task σ β} {s : σ}
    (h : (t.bind f).GuaranteesFrom step s) : t.GuaranteesFrom step s := by
  induction t generalizing s with
  | done a => exact trivial
  | read next ih => exact ih s h
  | write s' next ih => exact ⟨h.1, fun s'' => ih (h.2 s'')⟩
  | suspend next ih => exact fun s' => ih (h s')

/-- What comes after a task guarantees, from where that one has ended, what both of them do. -/
theorem GuaranteesFrom.after {t : Task σ α} {f : α → Task σ β}
    {s : σ} (h : (t.bind f).GuaranteesFrom step s) (changes : List (σ → σ)) :
    let r := t.runAmid changes s
    (f r.1).GuaranteesFrom step r.2 := by
  induction t generalizing changes s with
  | done a => exact h
  | read next ih => exact ih s h changes
  | write s' next ih => exact ih (h.2 s') changes
  | suspend next ih => exact ih (h (changes.headD id s)) changes.tail

/-- A task that only adds notes has added some in the end. -/
theorem GuaranteesFrom.prefix_runAmid {t : Task (σ × List ι) α} {p : σ × List ι}
    (h : t.GuaranteesFrom Adds p) (changes : List (σ → σ)) :
    p.2 <+: (t.runAmid (beside _ changes) p).2.2 := by
  have hensures : t.Ensures Adds (fun _ q => Adds p q) p :=
    h.ensures List.IsPrefix.trans List.prefix_rfl
  exact Ensures.runAmid_beside (hensures.of_others fun _ _ => Adds.of_confined) changes

/-- **Tasks that are level, one after the other.** -/
theorem Level.bind {t : Task (σ × List (ι ⊕ ρ)) α} {u : Task (σ × List (ι ⊕ ρ)) β}
    {f : α → Task (σ × List (ι ⊕ ρ)) γ} {g : β → Task (σ × List (ι ⊕ ρ)) δ} (h : Level rel t u)
    (hfg : ∀ a b, rel a b → Level rel' (f a) (g b)) : Level rel' (t.bind f) (u.bind g) := by
  intro p q changes changes' ht hu heven r r' hcomparable
  have hf := ht.after (beside _ changes)
  have hg := hu.after (beside _ changes')
  obtain ⟨n, hr⟩ := exists_runAmid_bind t f (beside _ changes) p
  obtain ⟨n', hr'⟩ := exists_runAmid_bind u g (beside _ changes') q
  have hdrop : ∀ (changes : List (σ → σ)) n,
      (beside (List (ι ⊕ ρ)) changes).drop n = beside _ (changes.drop n) :=
    fun changes n => List.map_drop.symm
  rw [hdrop] at hr hr'
  -- what has been done when the first tasks have ended is a beginning of what is done in the end
  have hfirst : acts (t.runAmid (beside _ changes) p).2.2 <+: acts r.2.2 := by
    rw [show r = _ from hr]
    exact (hf.prefix_runAmid _).filterMap _
  have hfirst' : acts (u.runAmid (beside _ changes') q).2.2 <+: acts r'.2.2 := by
    rw [show r' = _ from hr']
    exact (hg.prefix_runAmid _).filterMap _
  obtain ⟨hrel, heven'⟩ := h p q changes changes' ht.of_bind hu.of_bind heven
    (hcomparable.of_prefix hfirst hfirst')
  rw [show r = _ from hr, show r' = _ from hr'] at hcomparable ⊢
  exact hfg _ _ hrel _ _ _ _ hf hg heven' hcomparable

/-! ### Small tasks -/

theorem level_done {a : α} {b : β} (h : rel a b) :
    Level rel (.done a : Task (σ × List (ι ⊕ ρ)) α) (.done b) :=
  fun _ _ _ _ _ _ heven _ => ⟨h, heven⟩

/-- **Tasks are level if what they add is**: if the same is said in what they add whenever it is the
same that is done. -/
theorem level_of_ensures {t : Task (σ × List (ι ⊕ ρ)) α} {u : Task (σ × List (ι ⊕ ρ)) β}
    {way : α → List (ι ⊕ ρ) → Prop} {way' : β → List (ι ⊕ ρ) → Prop}
    (ht : ∀ p, t.Ensures (Cell.first _ _).Confined (fun a r => ∃ l, r.2 = p.2 ++ l ∧ way a l) p)
    (hu : ∀ p, u.Ensures (Cell.first _ _).Confined (fun b r => ∃ l, r.2 = p.2 ++ l ∧ way' b l) p)
    (hsame : ∀ a b l l', way a l → way' b l' → Comparable (acts l) (acts l') →
      rel a b ∧ acts l = acts l' ∧ reports l = reports l') : Level rel t u := by
  intro p q changes changes' _ _ heven r r' hcomparable
  obtain ⟨l, hl, hway⟩ := (ht p).runAmid_beside changes
  obtain ⟨l', hl', hway'⟩ := (hu q).runAmid_beside changes'
  have hadded : Comparable (acts l) (acts l') := by
    rw [hl, hl', acts_append, acts_append, heven.acts] at hcomparable
    exact hcomparable.of_append
  obtain ⟨hrel, hacts, hreports⟩ := hsame _ _ l l' hway hway' hadded
  refine ⟨hrel, ⟨?_, ?_⟩⟩
  · rw [hl, hl', acts_append, acts_append, heven.acts, hacts]
  · rw [hl, hl', reports_append, reports_append, heven.reports, hreports]

/-- The same report is made on both sides. -/
theorem level_report {keep keep' : σ → σ} (entry : ρ) :
    Level Eq (Task.modify fun p : σ × List (ι ⊕ ρ) => (keep p.1, p.2 ++ [.inr entry]))
      (Task.modify fun p => (keep' p.1, p.2 ++ [.inr entry])) := by
  have hreport : ∀ (keep : σ → σ) (p : σ × List (ι ⊕ ρ)),
      (Task.modify fun p : σ × List (ι ⊕ ρ) => (keep p.1, p.2 ++ [.inr entry])).Ensures
        (Cell.first _ _).Confined (fun _ r => ∃ l, r.2 = p.2 ++ l ∧ l = [.inr entry]) p :=
    fun _ _ => ⟨_, rfl, rfl⟩
  refine level_of_ensures (hreport keep) (hreport keep') ?_
  rintro _ _ _ _ rfl rfl -
  exact ⟨rfl, rfl, rfl⟩

/-! ### Notes that explain themselves -/

/-- What is said can be told from what is done, all of which is of some kind. -/
structure Explained (tell : ι → Option ρ) (inner : ι → Prop) (notes : List (ι ⊕ ρ)) : Prop where
  reports : reports notes = (acts notes).filterMap tell
  inner : ∀ act ∈ acts notes, inner act

variable {tell : ι → Option ρ} {inner : ι → Prop}

theorem lasting_explained (tell : ι → Option ρ) (inner : ι → Prop) :
    Lasting (Explained tell inner) where
  nil := ⟨rfl, fun _ h => absurd h List.not_mem_nil⟩
  append {l l'} h h' := by
    refine ⟨?_, ?_⟩
    · rw [reports_append, acts_append, List.filterMap_append, h.reports, h'.reports]
    · rw [acts_append]
      exact List.forall_mem_append.mpr ⟨h.inner, h'.inner⟩

/-- Something that is done, together with what is said of it. -/
theorem explained_told {act : ι} (h : inner act) :
    Explained tell inner (.inl act :: (tell act).toList.map .inr) := by
  cases htell : tell act with
  | none => exact ⟨by simp [htell], by simpa using h⟩
  | some said => exact ⟨by simp [htell], by simpa using h⟩

/-- Lists of one kind that go on with something of another kind are the same, if they are so
together with that. -/
theorem Comparable.concat {l l' : List ι} {a b : ι} (h : Comparable (l ++ [a]) (l' ++ [b]))
    (hl : ∀ x ∈ l, inner x) (hl' : ∀ x ∈ l', inner x) (ha : ¬ inner a) (hb : ¬ inner b) :
    l = l' ∧ a = b := by
  have hshort : ∀ {l l' : List ι} {a b : ι}, (∀ x ∈ l', inner x) → ¬ inner a →
      l ++ [a] <+: l' ++ [b] → l ++ [a] = l' ++ [b] := by
    intro l l' a b hl' ha hprefix
    rcases List.prefix_concat_iff.mp hprefix with heq | hprefix
    · exact heq
    · have hmem : a ∈ l' := hprefix.subset (List.mem_append_right l List.mem_cons_self)
      exact absurd (hl' a hmem) ha
  have heq : l ++ [a] = l' ++ [b] :=
    h.elim (hshort hl' ha) fun h => (hshort hl hb h).symm
  obtain ⟨hlists, hends⟩ := List.append_inj' heq rfl
  exact ⟨hlists, List.singleton_inj.mp hends⟩

/-- **Two calls, each of which is noted when it has ended.**  What is noted meanwhile explains
itself and is of another kind. -/
theorem level_noting {t : Task (σ × List (ι ⊕ ρ)) α} {u : Task (σ × List (ι ⊕ ρ)) β}
    {describe : α → ι} {describe' : β → ι} (ht : Turns (Explained tell inner) t)
    (hu : Turns (Explained tell inner) u) (hdescribe : ∀ a, ¬ inner (describe a))
    (hdescribe' : ∀ b, ¬ inner (describe' b)) (h : ∀ a b, describe a = describe' b → rel a b) :
    Level rel (t.noting fun a => .inl (describe a)) (u.noting fun b => .inl (describe' b)) := by
  have hexplained := lasting_explained tell inner
  -- what is noted of a call: what is noted meanwhile, and its end
  have hnoting : ∀ {γ : Type} {t : Task (σ × List (ι ⊕ ρ)) γ} {describe : γ → ι},
      Turns (Explained tell inner) t → ∀ p, (t.noting fun a => .inl (describe a)).Ensures
        (Cell.first _ _).Confined (fun a r => ∃ l, r.2 = p.2 ++ l ∧
          ∃ before, Explained tell inner before ∧ l = before ++ [.inl (describe a)]) p := by
    intro γ t describe ht p
    refine ((ht.noting _ p).ensures hexplained).mono ?_
    rintro a r ⟨before, _, hr, hbefore, last, hlast, rfl⟩
    rw [← List.append_assoc before] at hr
    exact ⟨_, hr, before ++ last, hexplained.append hbefore hlast, rfl⟩
  refine level_of_ensures (hnoting ht) (hnoting hu) ?_
  rintro a b _ _ ⟨before, hbefore, rfl⟩ ⟨before', hbefore', rfl⟩ hcomparable
  rw [acts_append, acts_append] at hcomparable
  obtain ⟨hacts, hends⟩ := hcomparable.concat hbefore.inner hbefore'.inner (hdescribe a)
    (hdescribe' b)
  refine ⟨h a b hends, ?_, ?_⟩
  · rw [acts_append, acts_append, hacts, hends]
  · rw [reports_append, reports_append, hbefore.reports, hbefore'.reports, hacts, hends]

end Task

end FeatureFlags
