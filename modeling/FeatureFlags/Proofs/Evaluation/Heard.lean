import FeatureFlags.Proofs.Evaluation.Keeping
import FeatureFlags.Proofs.Evaluation.Listening
import FeatureFlags.Proofs.Multi.Sources

/-!
# Evaluations that are heard

An evaluation goes through a source of answers, and its hooks are those of some members.  It is run
on a state that also holds what is heard of it: all calls that have ended, those of hooks and those
inside the lookup, in one list with everything that is reported.  Hearing it changes nothing, and it
only adds to what has been heard.

## Main definitions

* `Hook.noting` — a hook with its stages noted when they have ended.
* `Member.plain`, `Member.heard` — the hook of a member, and the same heard.
* `Evaluation.through`, `Evaluation.heardBy` — an evaluation through a source with some members, and
  the same heard.

## Main results

* `Evaluation.heardBy_mimics` — **an evaluation makes the same moves when it is heard.**
* `Evaluation.heardBy_adds` — what has been heard is kept.
-/

namespace FeatureFlags

open Evaluation (Act Heard)
open FeatureFlags.Task (Mimics guarantees_adds guarantees_done guarantees_modify mimics_note)

variable {σ : Type}

/-! ### Hooks -/

/-- A hook with its stages noted when they have ended. -/
def Hook.noting (hook : Hook σ) (position : Nat) : Hook (Heard σ) where
  supports := hook.supports
  before ctx hints data := ((hook.before ctx hints data).within (.first _ _)).noting fun ended =>
    .inl (.before position (ended.2.map Option.isSome))
  after ctx details hints data :=
    ((hook.after ctx details hints data).within (.first _ _)).noting fun ended =>
      .inl (.after position ended.2)
  error ctx e hints data :=
    ((hook.error ctx e hints data).within (.first _ _)).noting fun ended =>
      .inl (.error position ended.2)
  finish ctx hints data := ((hook.finish ctx hints data).within (.first _ _)).noting fun ended =>
    .inl (.finish position ended.2)

/-- A hook makes the same moves when its stages are noted. -/
theorem Hook.noting_mimics (hook : Hook σ) (position : Nat) :
    (hook.noting position).Mimics hook where
  supports := rfl
  before ctx hints data := mimics_note (hook.before ctx hints data) _
  after ctx details hints data := mimics_note (hook.after ctx details hints data) _
  error ctx e hints data := mimics_note (hook.error ctx e hints data) _
  finish ctx hints data := mimics_note (hook.finish ctx hints data) _

theorem Hook.noting_adds (hook : Hook σ) (position : Nat) :
    (hook.noting position).Keeps Task.Adds where
  before ctx hints data := guarantees_adds (hook.before ctx hints data) _
  after ctx details hints data := guarantees_adds (hook.after ctx details hints data) _
  error ctx e hints data := guarantees_adds (hook.error ctx e hints data) _
  finish ctx hints data := guarantees_adds (hook.finish ctx hints data) _

namespace LoggingHook

variable (journal : Journal σ) (hook : LoggingHook)

/-- A logging hook makes the same moves when its reports are noted. -/
theorem heard_mimics : (hook.toHook journal.heard).Mimics (hook.toHook journal) where
  supports := rfl
  before _ _ _ := (journal.heard_matches.log (.inr rfl)).bind fun _ _ _ => .done rfl
  after _ _ _ _ := (journal.heard_matches.log (.inr rfl)).bind fun _ _ _ => .done rfl
  error _ _ _ _ := (journal.heard_matches.log (.inr rfl)).bind fun _ _ _ => .done rfl
  finish _ _ _ := .done rfl

theorem heard_adds : (hook.toHook journal.heard).Keeps Task.Adds := by
  have hlog : ∀ entry, (Task.log journal.heard entry).Guarantees Task.Adds :=
    fun entry => guarantees_modify fun p => List.prefix_append p.2 [.inr entry]
  exact
    { before := fun ctx _ _ => (hlog (hook.beforeEntry ctx)).bind fun _ => guarantees_done _
      after := fun ctx details _ _ =>
        (hlog (hook.afterEntry ctx details)).bind fun _ => guarantees_done _
      error := fun ctx e _ _ => (hlog (hook.errorEntry ctx e)).bind fun _ => guarantees_done _
      finish := fun _ _ _ => guarantees_done _ }

end LoggingHook

namespace Member

/-- The hook, reporting to a journal if it is a logging hook. -/
def plain (journal : Journal σ) : Member σ → Hook σ
  | own hook => hook
  | logging hook => hook.toHook journal

/-- The hook with its stages noted, unless it is a logging hook. -/
def heard (journal : Journal σ) (position : Nat) : Member σ → Hook (Heard σ)
  | own hook => hook.noting position
  | logging hook => hook.toHook journal.heard

variable (journal : Journal σ)

theorem heard_mimics (position : Nat) (member : Member σ) :
    (member.heard journal position).Mimics (member.plain journal) := by
  cases member with
  | own hook => exact hook.noting_mimics position
  | logging hook => exact hook.heard_mimics journal

theorem heard_adds (position : Nat) (member : Member σ) :
    (member.heard journal position).Keeps Task.Adds := by
  cases member with
  | own hook => exact hook.noting_adds position
  | logging hook => exact hook.heard_adds journal

/-- All members make the same moves when they are heard. -/
theorem all_heard_mimic (members : List (Member σ)) (start : Nat) :
    List.Forall₂ Hook.Mimics
      ((members.zipIdx start).map fun (member, position) => member.heard journal position)
      (members.map (plain journal)) := by
  induction members generalizing start with
  | nil => exact .nil
  | cons member rest ih => exact .cons (member.heard_mimics journal start) (ih (start + 1))

end Member

namespace Evaluation

/-! ### Evaluations that are heard -/

/-- An evaluation of the same things through a source, with the hooks of some members. -/
def through (e : Evaluation σ) (journal : Journal σ) (source : Source σ)
    (members : List (Member σ)) : Evaluation σ :=
  { e with provider := source.toProvider journal, hooks := members.map (Member.plain journal) }

/-- The same evaluation with all calls heard. -/
def heardBy (e : Evaluation σ) (journal : Journal σ) (source : Source σ)
    (members : List (Member σ)) : Evaluation (Heard σ) :=
  (e.through journal source members).withCallbacks ((source.heard journal).noting .lookup)
    (members.zipIdx.map fun (member, position) => member.heard journal position)

section Heard

variable (journal : Journal σ) (e : Evaluation σ) (source : Source σ) (members : List (Member σ))

/-- **An evaluation makes the same moves when its calls are heard.** -/
theorem heardBy_mimics :
    Mimics True Eq ((e.heardBy journal source members).run journal.heard)
      ((e.through journal source members).run journal) := by
  have hresolve : ∀ t flagKey defaultValue ctx,
      Mimics True Eq (((source.heard journal).noting .lookup).resolve t flagKey defaultValue ctx)
        ((source.toProvider journal).resolve t flagKey defaultValue ctx) :=
    fun t flagKey defaultValue ctx =>
      (source.heard_mimics journal t flagKey defaultValue ctx).noting _
  refine run_mimics_of_guests journal.heard_matches _ (source.heard_name journal) hresolve
    (among_of_forall₂ ?_)
  exact Member.all_heard_mimic journal members 0

/-- An evaluation that is heard keeps all notes. -/
theorem heardBy_adds :
    ((e.heardBy journal source members).run journal.heard).Guarantees Task.Adds := by
  refine run_guarantees ?_ ?_ ?_
  · exact fun entry p => List.prefix_append p.2 [.inr entry]
  · intro t flagKey defaultValue ctx
    exact (source.heard_turns journal t defaultValue ctx).guarantees.noting _
  · intro hook hhook
    obtain ⟨⟨member, position⟩, -, rfl⟩ := List.mem_map.mp hhook
    exact member.heard_adds journal position

end Heard

end Evaluation

end FeatureFlags
