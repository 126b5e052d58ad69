import FeatureFlags.Proofs.Lifecycle.System

/-!
# One lifetime after the other

What is done to an instance that has been bound some number of times, if every lifetime is
over before the next one begins: it is attached and started and then detached and shut down,
again and again.  A history keeps the lifetimes of an instance apart if it has this order.

## Main definitions

* `Lifecycle.callsOn` — the calls on an instance that a history tells of.
* `Lifecycle.opening`, `Lifecycle.closing` — the calls at the two ends of a lifetime.
* `Lifecycle.lives`, `Lifecycle.course` — the calls of all lifetimes in order.
* `Lifecycle.Apart` — the lifetimes of an instance do not overlap.
* `Lifecycle.Retired` — an instance was detached and shut down after every start.

## Main results

* `Lifecycle.apart_of_course` — **calls in the order of the course keep the lifetimes
  apart.**
* `Lifecycle.retired_of_lives` — **whole lifetimes end with a shutdown.**
-/

namespace FeatureFlags

namespace Lifecycle

/-! ### Calls on an instance -/

/-- Whether a stage is a call of the provider, or the end of one; the other stages are steps
of the registry. -/
def Stage.isCall : Stage → Bool
  | .report => false
  | .release => false
  | _ => true

/-- Whether a duty is a call on an instance. -/
def Duty.isCallOn (id : ProviderId) (duty : Duty) : Bool := duty.stage.isCall && duty.id == id

/-- The call on an instance that a note tells of. -/
def Note.call? (id : ProviderId) : Note → Option Duty
  | .did duty => if duty.isCallOn id then some duty else none
  | _ => none

/-- The calls on an instance that a history tells of, in order. -/
def callsOn (id : ProviderId) (history : History) : List Duty := history.filterMap (Note.call? id)

section CallsOn

variable {id : ProviderId} {duty : Duty} {history more : History}

theorem callsOn_append : callsOn id (history ++ more) = callsOn id history ++ callsOn id more :=
  List.filterMap_append

theorem mem_callsOn (hduty : duty.isCallOn id = true) :
    duty ∈ callsOn id history ↔ .did duty ∈ history := by
  rw [callsOn, List.mem_filterMap]
  constructor
  · rintro ⟨note, hnote, hcall⟩
    cases note with
    | did other =>
      rw [Note.call?] at hcall
      by_cases hother : other.isCallOn id = true
      · rw [if_pos hother] at hcall
        rw [← Option.some.inj hcall]
        exact hnote
      · rw [if_neg hother] at hcall
        exact absurd hcall (by simp)
    | bound => exact absurd hcall (by simp [Note.call?])
    | unbound => exact absurd hcall (by simp [Note.call?])
    | announced => exact absurd hcall (by simp [Note.call?])
  · intro hnote
    exact ⟨_, hnote, by rw [Note.call?, if_pos hduty]⟩

theorem callsOn_did (hduty : duty.isCallOn id = true) (before after : History) :
    callsOn id (before ++ .did duty :: after) =
      callsOn id before ++ duty :: callsOn id after := by
  rw [callsOn_append]
  congr 1
  exact List.filterMap_cons_some (by rw [Note.call?, if_pos hduty])

/-- Of a duty that is done the history tells if it is a call on the instance. -/
theorem callsOn_notes (outcome : Except EvaluationError Unit) :
    callsOn id (duty.notes outcome) = if duty.isCallOn id then [duty] else [] := by
  have hdid : callsOn id [.did duty] = if duty.isCallOn id then [duty] else [] := by
    by_cases hduty : duty.isCallOn id = true
    · rw [if_pos hduty]
      exact List.filterMap_cons_some (by rw [Note.call?, if_pos hduty])
    · rw [if_neg hduty]
      exact List.filterMap_cons_none (by rw [Note.call?, if_neg hduty])
  unfold Duty.notes
  split
  · rw [← hdid, ← List.singleton_append, callsOn_append]
    exact List.append_nil _
  · exact hdid

/-- A change of bindings makes no call by itself. -/
theorem callsOn_changes (before after : Registry) :
    callsOn id (System.changes before after) = [] := by
  rw [callsOn, List.filterMap_eq_nil_iff]
  intro note hnote
  rcases List.mem_append.mp hnote with hnote | hnote
  all_goals
    obtain ⟨_, -, rfl⟩ := List.mem_map.mp hnote
    rfl

end CallsOn

/-! ### The calls of a lifetime -/

/-- Whether an instance needs no start in a lifetime: the registry makes its own defaults
ready, and binds them as it makes them. -/
def bornReady (id : ProviderId) (lifetime : Nat) : Bool :=
  match id with
  | .builtin _ => lifetime == 1
  | .application _ => false

/-- The calls of a start. -/
def starting (id : ProviderId) (lifetime : Nat) : List Duty :=
  [⟨.attach, id, lifetime⟩, ⟨.startUp, id, lifetime⟩, ⟨.started, id, lifetime⟩]

/-- The calls that open a lifetime. -/
def opening (id : ProviderId) (lifetime : Nat) : List Duty :=
  if bornReady id lifetime then [⟨.startUp, id, lifetime⟩, ⟨.started, id, lifetime⟩]
  else starting id lifetime

/-- The calls that close a lifetime. -/
def closing (id : ProviderId) (lifetime : Nat) : List Duty :=
  [⟨.detach, id, lifetime⟩, ⟨.shutDown, id, lifetime⟩, ⟨.ended, id, lifetime⟩]

/-- The calls of the first lifetimes of an instance. -/
def lives (id : ProviderId) : Nat → List Duty
  | 0 => []
  | n + 1 => lives id n ++ (opening id (n + 1) ++ closing id (n + 1))

/-- The calls on an instance that was unbound some number of times and may be bound again. -/
def course (id : ProviderId) (unbound : Nat) (bound : Bool) : List Duty :=
  lives id unbound ++ if bound then opening id (unbound + 1) else []

section Calls

variable {id : ProviderId} {duty : Duty} {lifetime n : Nat}

theorem lifetime_of_mem_opening (h : duty ∈ opening id lifetime) : duty.lifetime = lifetime := by
  unfold opening starting at h
  split at h
  · simp only [List.mem_cons, List.not_mem_nil, or_false] at h
    rcases h with rfl | rfl <;> rfl
  · simp only [List.mem_cons, List.not_mem_nil, or_false] at h
    rcases h with rfl | rfl | rfl <;> rfl

theorem lifetime_of_mem_closing (h : duty ∈ closing id lifetime) : duty.lifetime = lifetime := by
  simp only [closing, List.mem_cons, List.not_mem_nil, or_false] at h
  rcases h with rfl | rfl | rfl <;> rfl

/-- The stages of an opening. -/
theorem stage_of_mem_opening (h : duty ∈ opening id lifetime) :
    duty.stage = .attach ∨ duty.stage = .startUp ∨ duty.stage = .started := by
  unfold opening starting at h
  split at h
  · simp only [List.mem_cons, List.not_mem_nil, or_false] at h
    rcases h with rfl | rfl <;> simp
  · simp only [List.mem_cons, List.not_mem_nil, or_false] at h
    rcases h with rfl | rfl | rfl <;> simp

theorem stage_of_mem_closing (h : duty ∈ closing id lifetime) :
    duty.stage = .detach ∨ duty.stage = .shutDown ∨ duty.stage = .ended := by
  simp only [closing, List.mem_cons, List.not_mem_nil, or_false] at h
  rcases h with rfl | rfl | rfl <;> simp

/-- An opening ends with the end of the start. -/
theorem opening_eq (id : ProviderId) (lifetime : Nat) :
    ∃ first, opening id lifetime = first ++ [⟨.started, id, lifetime⟩] ∧
      ⟨.started, id, lifetime⟩ ∉ first := by
  unfold opening starting
  split
  · exact ⟨[⟨.startUp, id, lifetime⟩], rfl, by simp⟩
  · exact ⟨[⟨.attach, id, lifetime⟩, ⟨.startUp, id, lifetime⟩], rfl, by simp⟩

theorem lifetime_of_mem_lives (h : duty ∈ lives id n) : 1 ≤ duty.lifetime ∧ duty.lifetime ≤ n := by
  induction n with
  | zero => exact absurd h List.not_mem_nil
  | succ n ih =>
    rw [lives, List.mem_append, List.mem_append] at h
    rcases h with h | h | h
    · have := ih h
      omega
    · have := lifetime_of_mem_opening h
      omega
    · have := lifetime_of_mem_closing h
      omega

/-- The calls of each of the first lifetimes are among those of all of them. -/
theorem lifetime_subset_lives (hpos : 1 ≤ lifetime) (hle : lifetime ≤ n) :
    opening id lifetime ++ closing id lifetime ⊆ lives id n := by
  induction n with
  | zero => omega
  | succ n ih =>
    rw [lives]
    by_cases heq : lifetime = n + 1
    · subst heq
      exact List.subset_append_right _ _
    · exact List.subset_append_of_subset_left _ (ih (by omega))

theorem closing_subset_lives (hpos : 1 ≤ lifetime) (hle : lifetime ≤ n) :
    closing id lifetime ⊆ lives id n :=
  List.Subset.trans (List.subset_append_right _ _) (lifetime_subset_lives hpos hle)

theorem opening_subset_lives (hpos : 1 ≤ lifetime) (hle : lifetime ≤ n) :
    opening id lifetime ⊆ lives id n :=
  List.Subset.trans (List.subset_append_left _ _) (lifetime_subset_lives hpos hle)

end Calls

/-! ### Before and after -/

/-- Wherever one element stands in a list, another one stands before it. -/
def Precedes {α : Type} (a b : α) (l : List α) : Prop :=
  ∀ before after, l = before ++ b :: after → a ∈ before

/-- Wherever one element stands in a list, another one stands after it. -/
def Succeeds {α : Type} (a b : α) (l : List α) : Prop :=
  ∀ before after, l = before ++ b :: after → a ∈ after

section Order

variable {α : Type} {a b : α} {u v : List α}

theorem precedes_of_not_mem (h : b ∉ u) : Precedes a b u := by
  rintro before after rfl
  exact absurd (List.mem_append_right _ List.mem_cons_self) h

theorem succeeds_of_not_mem (h : b ∉ u) : Succeeds a b u := by
  rintro before after rfl
  exact absurd (List.mem_append_right _ List.mem_cons_self) h

theorem precedes_append (hu : Precedes a b u) (hv : a ∈ u ∨ Precedes a b v) :
    Precedes a b (u ++ v) := by
  intro before after h
  -- the element stands in the second list, or in the first one
  rcases List.append_eq_append_iff.mp h with ⟨w, rfl, rfl⟩ | ⟨w, rfl, hw⟩
  · rcases hv with hv | hv
    · exact List.mem_append_left _ hv
    · exact List.mem_append_right _ (hv w after rfl)
  · cases w with
    | nil =>
      rcases hv with hv | hv
      · rw [List.append_nil] at hv
        exact hv
      · exact absurd (hv [] after hw.symm) List.not_mem_nil
    | cons c w =>
      obtain ⟨rfl, -⟩ := List.cons.inj hw
      exact hu before w rfl

theorem succeeds_append (hu : Succeeds a b u ∨ a ∈ v) (hv : Succeeds a b v) :
    Succeeds a b (u ++ v) := by
  intro before after h
  rcases List.append_eq_append_iff.mp h with ⟨w, rfl, rfl⟩ | ⟨w, rfl, hw⟩
  · exact hv w after rfl
  · cases w with
    | nil => exact hv [] after hw.symm
    | cons c w =>
      obtain ⟨rfl, rfl⟩ := List.cons.inj hw
      rcases hu with hu | hu
      · exact List.mem_append_left _ (hu before w rfl)
      · exact List.mem_append_right _ hu

theorem precedes_of_initial (h : Precedes a b v) (hinitial : u <+: v) : Precedes a b u := by
  obtain ⟨w, rfl⟩ := hinitial
  rintro before after rfl
  exact h before (after ++ w) (by simp)

end Order

/-! ### Lifetimes that do not overlap -/

/-- The lifetimes of an instance do not overlap: the shutdown that ends a lifetime begins
after the start of that lifetime has ended, and the start of the next one begins after that
shutdown has ended. -/
structure Apart (id : ProviderId) (history : History) : Prop where
  shutDown : ∀ n before after, history = before ++ .did ⟨.shutDown, id, n⟩ :: after →
    .did ⟨.started, id, n⟩ ∈ before
  startUp : ∀ n before after, history = before ++ .did ⟨.startUp, id, n + 1⟩ :: after →
    n = 0 ∨ .did ⟨.ended, id, n⟩ ∈ before

/-- Whenever an instance was attached or started it was detached and shut down afterwards. -/
def Retired (id : ProviderId) (history : History) : Prop :=
  ∀ stage n before after, stage = .attach ∨ stage = .startUp →
    history = before ++ .did ⟨stage, id, n⟩ :: after →
      .did ⟨.detach, id, n⟩ ∈ after ∧ .did ⟨.ended, id, n⟩ ∈ after

section Lifetimes

variable {id : ProviderId} {n unbound : Nat}

theorem not_mem_opening_of_stage {stage : Stage}
    (hstage : stage = .detach ∨ stage = .shutDown ∨ stage = .ended) :
    (⟨stage, id, n⟩ : Duty) ∉ opening id unbound := by
  intro h
  have hopening := stage_of_mem_opening h
  rcases hstage with rfl | rfl | rfl <;> simp at hopening

theorem not_mem_closing_of_stage {stage : Stage}
    (hstage : stage = .attach ∨ stage = .startUp ∨ stage = .started) :
    (⟨stage, id, n⟩ : Duty) ∉ closing id unbound := by
  intro h
  have hclosing := stage_of_mem_closing h
  rcases hstage with rfl | rfl | rfl <;> simp at hclosing

theorem started_mem_opening : (⟨.started, id, n⟩ : Duty) ∈ opening id n := by
  obtain ⟨first, heq, -⟩ := opening_eq id n
  rw [heq]
  exact List.mem_append_right _ (List.mem_singleton_self _)

/-- In whole lifetimes every shutdown comes after the end of its start. -/
theorem lives_started_precedes :
    Precedes ⟨.started, id, n⟩ (⟨.shutDown, id, n⟩ : Duty) (lives id unbound) := by
  induction unbound with
  | zero => exact precedes_of_not_mem List.not_mem_nil
  | succ unbound ih =>
    apply precedes_append ih
    right
    apply precedes_append (precedes_of_not_mem (not_mem_opening_of_stage (by simp)))
    by_cases hn : n = unbound + 1
    · subst hn
      exact .inl started_mem_opening
    · exact .inr (precedes_of_not_mem fun h => hn (lifetime_of_mem_closing h))

/-- In whole lifetimes every start comes after the end of the shutdown before it. -/
theorem lives_ended_precedes (hn : n ≠ 0) :
    Precedes ⟨.ended, id, n⟩ (⟨.startUp, id, n + 1⟩ : Duty) (lives id unbound) := by
  induction unbound with
  | zero => exact precedes_of_not_mem List.not_mem_nil
  | succ unbound ih =>
    apply precedes_append ih
    -- the shutdown ends the lifetime before, or else this lifetime has no such start
    by_cases hlast : n = unbound
    · subst hlast
      exact .inl (closing_subset_lives (by omega) (Nat.le_refl n) (by simp [closing]))
    · right
      apply precedes_of_not_mem
      intro h
      rcases List.mem_append.mp h with h | h
      · have hlifetime : n + 1 = unbound + 1 := lifetime_of_mem_opening h
        omega
      · exact not_mem_closing_of_stage (by simp) h

/-- In whole lifetimes a detaching and the end of a shutdown come after every attaching and
start. -/
theorem lives_succeeds {late early : Stage} (hlate : late = .detach ∨ late = .ended)
    (hearly : early = .attach ∨ early = .startUp) :
    Succeeds ⟨late, id, n⟩ (⟨early, id, n⟩ : Duty) (lives id unbound) := by
  induction unbound with
  | zero => exact succeeds_of_not_mem List.not_mem_nil
  | succ unbound ih =>
    apply succeeds_append (.inl ih)
    have hclosing : Succeeds ⟨late, id, n⟩ (⟨early, id, n⟩ : Duty) (closing id (unbound + 1)) :=
      succeeds_of_not_mem (not_mem_closing_of_stage (by rcases hearly with rfl | rfl <;> simp))
    apply succeeds_append _ hclosing
    by_cases hn : n = unbound + 1
    · subst hn
      right
      rcases hlate with rfl | rfl <;> simp [closing]
    · exact .inl (succeeds_of_not_mem fun h => hn (lifetime_of_mem_opening h))

/-- **Calls in the order of the course keep the lifetimes apart.** -/
theorem apart_of_course {history : History} {bound : Bool}
    (h : callsOn id history <+: course id unbound bound) : Apart id history where
  shutDown := by
    rintro n before after rfl
    rw [callsOn_did (by simp [Duty.isCallOn, Stage.isCall])] at h
    have hcourse : Precedes ⟨.started, id, n⟩ (⟨.shutDown, id, n⟩ : Duty)
        (course id unbound bound) := by
      apply precedes_append lives_started_precedes
      right
      apply precedes_of_not_mem
      cases bound with
      | true => exact not_mem_opening_of_stage (by simp)
      | false => exact List.not_mem_nil
    have hmem := precedes_of_initial hcourse h _ _ rfl
    exact (mem_callsOn (by simp [Duty.isCallOn, Stage.isCall])).mp hmem
  startUp := by
    rintro n before after rfl
    by_cases hn : n = 0
    · exact .inl hn
    right
    rw [callsOn_did (by simp [Duty.isCallOn, Stage.isCall])] at h
    have hcourse : Precedes ⟨.ended, id, n⟩ (⟨.startUp, id, n + 1⟩ : Duty)
        (course id unbound bound) := by
      apply precedes_append (lives_ended_precedes hn)
      by_cases hlast : n = unbound
      · subst hlast
        exact .inl (closing_subset_lives (by omega) (Nat.le_refl n) (by simp [closing]))
      · right
        apply precedes_of_not_mem
        cases bound with
        | true =>
          intro hmem
          have hlifetime : n + 1 = unbound + 1 := lifetime_of_mem_opening hmem
          omega
        | false => exact List.not_mem_nil
    have hmem := precedes_of_initial hcourse h _ _ rfl
    exact (mem_callsOn (by simp [Duty.isCallOn, Stage.isCall])).mp hmem

/-- **Whole lifetimes end with a shutdown.** -/
theorem retired_of_lives {history : History} (h : callsOn id history = lives id unbound) :
    Retired id history := by
  rintro stage n before after hstage rfl
  have hcall : Duty.isCallOn id ⟨stage, id, n⟩ = true := by
    rcases hstage with rfl | rfl <;> simp [Duty.isCallOn, Stage.isCall]
  rw [callsOn_did hcall] at h
  have hdetach := lives_succeeds (.inl rfl) hstage _ _ h.symm
  have hended := lives_succeeds (.inr rfl) hstage _ _ h.symm
  exact ⟨(mem_callsOn (by simp [Duty.isCallOn, Stage.isCall])).mp hdetach,
    (mem_callsOn (by simp [Duty.isCallOn, Stage.isCall])).mp hended⟩

end Lifetimes

end Lifecycle

end FeatureFlags
