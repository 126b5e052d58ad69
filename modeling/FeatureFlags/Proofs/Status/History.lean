import FeatureFlags.ProviderStatus

/-!
# Statuses along events

A status is a fold over events: what an event does depends on the status before it alone.  The
worst of several statuses is the one of the greatest severity, so the order in which they are
compared is of no account.

The worst status changes with one of the statuses.  Of an aggregate that is told of such a
change by the event that its new value stands for, with the error code of the event that brought
the change about, the new value can be reconstructed (`onEvent_matchingEvent`): an error code
matters only where a status becomes worse.

## Main definitions

* `ProviderStatus.onEvents` — the status after some events.

## Main results

* `ProviderStatus.onEvents_fatal` — a fatal provider stays fatal.
* `ProviderStatus.worst_insert` — one of several statuses, wherever it stands.
* `ProviderStatus.onEvent_matchingEvent` — **what an aggregate is told makes it what it is.**
-/

namespace FeatureFlags

namespace ProviderStatus

/-! ### Several events -/

/-- The status after some events, each with the error code it carries. -/
def onEvents (status : ProviderStatus) (events : List (ProviderEvent × Option ErrorCode)) :
    ProviderStatus :=
  events.foldl (fun status e => status.onEvent e.1 e.2) status

@[simp] theorem onEvents_nil (status : ProviderStatus) : status.onEvents [] = status := rfl

@[simp] theorem onEvents_cons (status : ProviderStatus) (e : ProviderEvent × Option ErrorCode)
    (events : List (ProviderEvent × Option ErrorCode)) :
    status.onEvents (e :: events) = (status.onEvent e.1 e.2).onEvents events := rfl

theorem onEvents_append (status : ProviderStatus)
    (events more : List (ProviderEvent × Option ErrorCode)) :
    status.onEvents (events ++ more) = (status.onEvents events).onEvents more :=
  List.foldl_append

/-- A fatal provider stays fatal. -/
@[simp] theorem onEvents_fatal (events : List (ProviderEvent × Option ErrorCode)) :
    fatal.onEvents events = fatal := by
  induction events with
  | nil => rfl
  | cons e events ih => rw [onEvents_cons, onEvent_fatal, ih]

/-- After an event that says anything about the status, no provider is one that is not ready. -/
theorem onEvent_ne_notReady_of_ne {event : ProviderEvent} (h : event ≠ .configurationChanged)
    (status : ProviderStatus) (code : Option ErrorCode) :
    status.onEvent event code ≠ notReady := by
  cases event with
  | ready => cases status <;> simp [onEvent]
  | stale => cases status <;> simp [onEvent]
  | error =>
    by_cases hcode : code = some .providerFatal
    · cases status <;> simp [onEvent, hcode]
    · cases status <;> simp [onEvent, hcode]
  | configurationChanged => exact absurd rfl h

/-- No event makes a provider one that is not ready. -/
theorem onEvent_ne_notReady {status : ProviderStatus} (h : status ≠ notReady)
    (event : ProviderEvent) (code : Option ErrorCode) : status.onEvent event code ≠ notReady := by
  by_cases hevent : event = .configurationChanged
  · rw [hevent, onEvent_configurationChanged]
    exact h
  · exact onEvent_ne_notReady_of_ne hevent status code

theorem onEvents_ne_notReady {status : ProviderStatus} (h : status ≠ notReady)
    (events : List (ProviderEvent × Option ErrorCode)) : status.onEvents events ≠ notReady := by
  induction events generalizing status with
  | nil => exact h
  | cons e events ih => exact ih (onEvent_ne_notReady h e.1 e.2)

/-- One event that says anything about the status is enough. -/
theorem onEvents_ne_notReady_of_mem {events : List (ProviderEvent × Option ErrorCode)}
    {e : ProviderEvent × Option ErrorCode} (he : e ∈ events) (h : e.1 ≠ .configurationChanged)
    (status : ProviderStatus) : status.onEvents events ≠ notReady := by
  obtain ⟨before, after, rfl⟩ := List.append_of_mem he
  rw [onEvents_append, onEvents_cons]
  exact onEvents_ne_notReady (onEvent_ne_notReady_of_ne h _ _) after

/-! ### The worst of several statuses -/

theorem severity_worse (a b : ProviderStatus) :
    (worse a b).severity = max a.severity b.severity := by
  unfold worse
  split
  · omega
  · omega

theorem worse_comm (a b : ProviderStatus) : worse a b = worse b a :=
  severity_injective (by rw [severity_worse, severity_worse, Nat.max_comm])

theorem worse_assoc (a b c : ProviderStatus) : worse (worse a b) c = worse a (worse b c) :=
  severity_injective (by simp only [severity_worse, Nat.max_assoc])

@[simp] theorem ready_worse (status : ProviderStatus) : worse ready status = status := by
  cases status <;> rfl

@[simp] theorem worse_ready (status : ProviderStatus) : worse status ready = status := by
  rw [worse_comm, ready_worse]

theorem worse_ne_notReady {a b : ProviderStatus} (ha : a ≠ notReady) (hb : b ≠ notReady) :
    worse a b ≠ notReady := by
  unfold worse
  split
  · exact hb
  · exact ha

@[simp] theorem worst_nil : worst [] = ready := rfl

@[simp] theorem worst_cons (status : ProviderStatus) (statuses : List ProviderStatus) :
    worst (status :: statuses) = worse status (worst statuses) := by
  suffices h : ∀ first, statuses.foldl worse first = worse first (worst statuses) by
    rw [worst, List.foldl_cons, ready_worse, h]
  -- both sides begin with `first` and take in the statuses from the left
  induction statuses with
  | nil => exact fun first => (worse_ready first).symm
  | cons status statuses ih =>
    intro first
    have hworst : worst (status :: statuses) = worse status (worst statuses) := by
      rw [worst, List.foldl_cons, ready_worse, ih]
    rw [List.foldl_cons, ih, hworst, worse_assoc]

theorem worst_append (statuses more : List ProviderStatus) :
    worst (statuses ++ more) = worse (worst statuses) (worst more) := by
  induction statuses with
  | nil => rw [List.nil_append, worst_nil, ready_worse]
  | cons status statuses ih => rw [List.cons_append, worst_cons, worst_cons, ih, worse_assoc]

/-- One of several statuses, wherever it stands, against the worst of the others. -/
theorem worst_insert (before after : List ProviderStatus) (status : ProviderStatus) :
    worst (before ++ status :: after) = worse status (worst (before ++ after)) := by
  rw [worst_append, worst_append, worst_cons, ← worse_assoc, ← worse_assoc,
    worse_comm (worst before)]

theorem worst_ne_notReady {statuses : List ProviderStatus}
    (h : ∀ status ∈ statuses, status ≠ notReady) : worst statuses ≠ notReady := by
  induction statuses with
  | nil => exact ProviderStatus.noConfusion
  | cons status statuses ih =>
    rw [worst_cons]
    refine worse_ne_notReady (h status List.mem_cons_self) (ih fun other hother => ?_)
    exact h other (List.mem_cons_of_mem _ hother)

theorem worse_eq_or (a b : ProviderStatus) : worse a b = a ∨ worse a b = b := by
  unfold worse
  split
  · exact .inr rfl
  · exact .inl rfl

/-- The worst status is one of them, unless they are all fine. -/
theorem worst_eq_ready_or_mem (statuses : List ProviderStatus) :
    worst statuses = ready ∨ worst statuses ∈ statuses := by
  induction statuses with
  | nil => exact .inl rfl
  | cons status rest ih =>
    rw [worst_cons]
    rcases worse_eq_or status (worst rest) with heq | heq
    · rw [heq]
      exact .inr List.mem_cons_self
    · rw [heq]
      exact ih.imp_right (List.mem_cons_of_mem _)

theorem worst_eq_fatal_iff {statuses : List ProviderStatus} :
    worst statuses = fatal ↔ fatal ∈ statuses := by
  have hworse : ∀ a b, worse a b = fatal ↔ a = fatal ∨ b = fatal := by
    intro a b
    cases a <;> cases b <;> decide
  induction statuses with
  | nil => simp
  | cons status rest ih => simp only [worst_cons, hworse, ih, List.mem_cons, eq_comm]

theorem worst_eq_ready_iff {statuses : List ProviderStatus} :
    worst statuses = ready ↔ ∀ status ∈ statuses, status = ready := by
  have hworse : ∀ a b, worse a b = ready ↔ a = ready ∧ b = ready := by
    intro a b
    cases a <;> cases b <;> decide
  induction statuses with
  | nil => simp
  | cons status rest ih => simp only [worst_cons, hworse, ih, List.forall_mem_cons]

/-! ### What an aggregate is told -/

/-- **What an aggregate is told makes it what it is.**  If an event changes the worse one of a
status and another, its new value stands for an event, and that event with the code of the first
one turns the old value into the new one. -/
theorem onEvent_matchingEvent {old others : ProviderStatus} (hold : old ≠ notReady)
    (hothers : others ≠ notReady) (event : ProviderEvent) (code : Option ErrorCode)
    (hchanged : worse (old.onEvent event code) others ≠ worse old others) :
    ∃ passed, (worse (old.onEvent event code) others).matchingEvent? = some passed ∧
      (worse old others).onEvent passed code = worse (old.onEvent event code) others := by
  cases event with
  | configurationChanged => exact absurd (by rw [onEvent_configurationChanged]) hchanged
  | ready => cases old <;> cases others <;> simp_all [onEvent, worse, severity, matchingEvent?]
  | stale => cases old <;> cases others <;> simp_all [onEvent, worse, severity, matchingEvent?]
  | error =>
    by_cases hcode : code = some .providerFatal
    · cases old <;> cases others <;> simp_all [onEvent, worse, severity, matchingEvent?]
    · cases old <;> cases others <;> simp_all [onEvent, worse, severity, matchingEvent?]

end ProviderStatus

end FeatureFlags
