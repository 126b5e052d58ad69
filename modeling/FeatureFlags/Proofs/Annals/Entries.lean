import FeatureFlags.Proofs.Lifecycle.System
import FeatureFlags.Proofs.Status.History
import Mathlib.Data.List.DropRight

/-!
# Annals

The annals of a registry say which instances became bound and unbound, and which events and
outcomes of starts were applied to an instance that was bound at the time.  They say nothing about
statuses: the status that an instance should have is worked out from them, as a fold over what was
applied to it since it last became bound.

## Main definitions

* `Annals.Entry`, `Annals` — what is put down, the oldest first.
* `Annals.current` — the entries of the last lifetime of an instance.
* `Annals.applied` — the events applied to an instance.
* `Annals.status` — the status that follows from the annals.

## Main results

* `Annals.status_append` — as long as an instance stays bound, its status follows from the one
  before and from what is applied to it.
-/

namespace FeatureFlags

/-- What is put down about an instance. -/
inductive Annals.Entry where
  /-- It became bound. -/
  | bound (id : ProviderId)
  /-- The registry made it as a default of its own, bound and ready. -/
  | made (id : ProviderId)
  | unbound (id : ProviderId)
  /-- An event of it was applied. -/
  | announced (id : ProviderId) (event : ProviderEvent) (code : Option ErrorCode)
  /-- The outcome of a start was applied; the start was begun for the given lifetime, and
  lifetimes are counted from 1. -/
  | reported (id : ProviderId) (lifetime : Nat) (outcome : Except EvaluationError Unit)

/-- What has been put down, the oldest first. -/
abbrev Annals := List Annals.Entry

namespace Annals

/-- Whether a lifetime of an instance begins. -/
def Entry.begins (id : ProviderId) : Entry → Bool
  | bound other => other = id
  | made other => other = id
  | _ => false

/-- The event, with its error code, that is applied to an instance. -/
def Entry.applied? (id : ProviderId) : Entry → Option (ProviderEvent × Option ErrorCode)
  | announced other event code => if other = id then some (event, code) else none
  | reported other _ outcome => if other = id then some (Lifecycle.startEvent outcome) else none
  | _ => none

/-- The status in which a lifetime begins. -/
def Entry.firstStatus : Entry → ProviderStatus
  | made _ => .ready
  | _ => .notReady

variable (id : ProviderId)

/-- How many lifetimes of an instance have begun. -/
def lifetimes (annals : Annals) : Nat := annals.countP (Entry.begins id)

/-- The entry with which the last lifetime of an instance began. -/
def opening? (annals : Annals) : Option Entry := annals.reverse.find? (Entry.begins id)

/-- What has been put down since the last lifetime of an instance began. -/
def current (annals : Annals) : Annals := annals.rtakeWhile fun e => !e.begins id

/-- The events applied to an instance, with their error codes. -/
def applied (annals : Annals) : List (ProviderEvent × Option ErrorCode) :=
  annals.filterMap (Entry.applied? id)

/-- The status in which the last lifetime of an instance began. -/
def firstStatus (annals : Annals) : ProviderStatus :=
  ((opening? id annals).map Entry.firstStatus).getD .notReady

/-- The status that follows from the annals: a fold over the events applied to an instance since
its last lifetime began. -/
def status (annals : Annals) : ProviderStatus :=
  (firstStatus id annals).onEvents (applied id (current id annals))

variable {id} {annals more : Annals} {e : Entry}

/-! ### One more entry -/

theorem lifetimes_mono (h : annals <+: more) : lifetimes id annals ≤ lifetimes id more :=
  h.sublist.countP_le

theorem applied_append : applied id (annals ++ more) = applied id annals ++ applied id more :=
  List.filterMap_append

/-- The entry with which a lifetime begins is the only one of it so far. -/
theorem current_of_begins (h : e.begins id = true) : current id (annals ++ [e]) = [] := by
  rw [current, List.rtakeWhile_concat, h]
  rfl

theorem current_of_not (h : e.begins id = false) :
    current id (annals ++ [e]) = current id annals ++ [e] := by
  rw [current, List.rtakeWhile_concat, h]
  rfl

theorem opening?_of_begins (h : e.begins id = true) : opening? id (annals ++ [e]) = some e := by
  rw [opening?, List.reverse_append, List.reverse_singleton, List.singleton_append,
    List.find?_cons_of_pos h]

theorem opening?_of_not (h : e.begins id = false) :
    opening? id (annals ++ [e]) = opening? id annals := by
  have hnot : ¬e.begins id = true := by simp [h]
  rw [opening?, List.reverse_append, List.reverse_singleton, List.singleton_append,
    List.find?_cons_of_neg hnot, opening?]

theorem status_of_begins (h : e.begins id = true) :
    status id (annals ++ [e]) = e.firstStatus := by
  rw [status, firstStatus, opening?_of_begins h, current_of_begins h]
  rfl

/-! ### More entries of the same lifetime -/

theorem current_append (h : ∀ e ∈ more, e.begins id = false) :
    current id (annals ++ more) = current id annals ++ more := by
  induction more using List.reverseRecOn with
  | nil => rw [List.append_nil, List.append_nil]
  | append_singleton more e ih =>
    obtain ⟨hmore, he⟩ := List.forall_mem_append.mp h
    rw [← List.append_assoc, current_of_not (he e (List.mem_singleton_self e)), ih hmore,
      List.append_assoc]

theorem opening?_append (h : ∀ e ∈ more, e.begins id = false) :
    opening? id (annals ++ more) = opening? id annals := by
  induction more using List.reverseRecOn with
  | nil => rw [List.append_nil]
  | append_singleton more e ih =>
    obtain ⟨hmore, he⟩ := List.forall_mem_append.mp h
    rw [← List.append_assoc, opening?_of_not (he e (List.mem_singleton_self e)), ih hmore]

/-- **As long as an instance stays bound**, its status follows from the one before and from what is
applied to it. -/
theorem status_append (h : ∀ e ∈ more, e.begins id = false) :
    status id (annals ++ more) = (status id annals).onEvents (applied id more) := by
  rw [status, firstStatus, opening?_append h, current_append h, applied_append,
    ProviderStatus.onEvents_append]
  rfl

end Annals

end FeatureFlags
