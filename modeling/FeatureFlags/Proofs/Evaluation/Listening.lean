import FeatureFlags.Hook.Logging
import FeatureFlags.Proofs.Evaluation.Unwatched
import FeatureFlags.Proofs.Task.Amid

/-!
# Logging hooks only listen

A logging hook reports what it is told and gives nothing.  Where reports are kept apart from the
state that the callbacks work on, it is an idle hook, and it may be put anywhere in a chain or left
out: only the reports tell the difference.

## Main definitions

* `Member` — a hook of an evaluation: one of the application, or a logging hook.
* `Journal.apart` — a journal that keeps reports apart from the state.
* `Member.watchedFrom` — the hooks of the application watched, each at its place among them.
* `Evaluation.joinedBy` — an evaluation with the hooks of some members.

## Main results

* `Evaluation.joinedBy_mimics` — an evaluation makes the moves that it makes without logging hooks.
* `Evaluation.logging_hooks_only_listen` — **logging hooks change no result, no call, nothing that
  a callback is told, and no order.**
-/

namespace FeatureFlags

open Evaluation (Watched)
open FeatureFlags.Task (Mimics beside)

variable {σ ρ : Type}

/-! ### Members -/

/-- A hook of an evaluation: one of the application, or a logging hook. -/
inductive Member (σ : Type) where
  | own (hook : Hook σ)
  | logging (hook : LoggingHook)

/-- A journal that keeps reports apart from the state. -/
def Journal.apart (keep : LogEntry → ρ → ρ) : Journal (σ × ρ) :=
  fun entry p => (p.1, keep entry p.2)

/-- Whatever is reported, a journal that keeps reports apart does nothing to the state. -/
theorem Journal.apart_matches (keep : LogEntry → ρ → ρ) :
    Journal.Matches True (Journal.apart keep) (Journal.silent : Journal σ) :=
  fun _ _ _ _ => rfl

namespace Member

/-- The hook of the application, if it is one. -/
def own? : Member σ → Option (Hook σ)
  | own hook => some hook
  | logging _ => none

/-- The hook, on a state with reports. -/
def toHook (journal : Journal (σ × ρ)) : Member σ → Hook (σ × ρ)
  | own hook => hook.within (.first σ ρ)
  | logging hook => hook.toHook journal

/-- The hooks of the application watched, each at its place among them. -/
def watchedFrom : Nat → List (Member σ) → List (Member (Watched σ))
  | _, [] => []
  | position, own hook :: rest => own (hook.watched position) :: watchedFrom (position + 1) rest
  | position, logging hook :: rest => logging hook :: watchedFrom position rest

/-- Leaving logging hooks out and watching the others may be done in any order. -/
theorem own?_watchedFrom (members : List (Member σ)) (position : Nat) :
    (watchedFrom position members).filterMap own? =
      ((members.filterMap own?).zipIdx position).map fun (hook, position) =>
        hook.watched position := by
  induction members generalizing position with
  | nil => rfl
  | cons member rest ih =>
    cases member with
    | own hook => exact congrArg (hook.watched position :: ·) (ih (position + 1))
    | logging hook => exact ih position

/-- Where reports are kept apart, a logging hook makes no moves and gives nothing. -/
theorem idle_of_logging (keep : LogEntry → ρ → ρ) (hook : LoggingHook) :
    (hook.toHook (Journal.apart keep : Journal (σ × ρ))).Idle where
  supports _ := rfl
  before _ _ _ := .aside trivial (.done rfl)
  after _ _ _ _ := .aside trivial (.done rfl)
  error _ _ _ _ := .aside trivial (.done rfl)
  finish _ _ _ := .done rfl

/-- Of the hooks of some members, those of the application mimic themselves, and the others are
idle. -/
theorem among_toHook (keep : LogEntry → ρ → ρ) (members : List (Member σ)) :
    Among True Hook.Idle Hook.Mimics (members.map (toHook (Journal.apart keep)))
      (members.filterMap own?) := by
  induction members with
  | nil => exact .nil
  | cons member rest ih =>
    cases member with
    | own hook => exact .cons hook.within_mimics ih
    | logging hook => exact .guest trivial (idle_of_logging keep hook) ih

end Member

/-! ### Evaluations -/

namespace Evaluation

/-- An evaluation of the same things with the hooks of some members, on a state with reports. -/
def joinedBy (e : Evaluation σ) (keep : LogEntry → ρ → ρ) (members : List (Member σ)) :
    Evaluation (σ × ρ) :=
  e.withCallbacks (e.provider.within (.first σ ρ)) (members.map (Member.toHook (.apart keep)))

/-- An evaluation with the hooks of the application among some members, on the state alone. -/
def ownedBy (e : Evaluation σ) (members : List (Member σ)) : Evaluation σ :=
  { e with hooks := members.filterMap Member.own? }

/-- **An evaluation makes the moves that it makes without logging hooks**, and without reports. -/
theorem joinedBy_mimics (e : Evaluation σ) (keep : LogEntry → ρ → ρ) (members : List (Member σ)) :
    Mimics True Eq ((e.joinedBy keep members).run (.apart keep))
      ((e.ownedBy members).run .silent) := by
  have hresolve : ∀ t flagKey defaultValue ctx,
      Mimics True Eq ((e.provider.within (.first σ ρ)).resolve t flagKey defaultValue ctx)
        (e.provider.resolve t flagKey defaultValue ctx) :=
    fun _ _ _ _ => Task.mimics_within _
  exact run_mimics_of_guests (e := e.ownedBy members) (Journal.apart_matches keep) _ rfl hresolve
    (Member.among_toHook keep members)

/-- Watching the hooks of the application among some members is watching the evaluation with these
hooks alone. -/
theorem watched_ownedBy (e : Evaluation σ) (members : List (Member σ)) :
    e.watched.ownedBy (Member.watchedFrom 0 members) = (e.ownedBy members).watched := by
  have hhooks : (Member.watchedFrom 0 members).filterMap Member.own? =
      Hook.watchedAll (members.filterMap Member.own?) := Member.own?_watchedFrom members 0
  rw [ownedBy, hhooks]
  rfl

/-- **Logging hooks only listen.**  Run with some members, in any order and amid any changes that
others make to the state, an evaluation gives the same result, leaves the same state and makes the
same calls in the same order as without the logging hooks among them: it looks the same things up,
tells the hooks of the application the same, finds the same in their scratch spaces, and they end in
the same way.  Only the reports differ.  That the calls are noted changes nothing. -/
theorem logging_hooks_only_listen (e : Evaluation σ) (keep : LogEntry → ρ → ρ)
    (members : List (Member σ)) (s : σ) (reports : ρ) (changes : List (σ → σ)) :
    let bare := (members.filterMap Member.own?).map Member.own
    let watched := fun members : List (Member σ) =>
      ((e.watched.joinedBy keep (Member.watchedFrom 0 members)).run (.apart keep)).runAmid
        (beside ρ (beside _ changes)) ((s, []), reports)
    let plain := ((e.joinedBy keep members).run (.apart keep)).runAmid (beside ρ changes)
      (s, reports)
    (watched members).1 = (watched bare).1 ∧ (watched members).2.1 = (watched bare).2.1 ∧
      plain.1 = (watched members).1 ∧ plain.2.1 = (watched members).2.1.1 := by
  intro bare watched plain
  -- every run of some members does what the plain evaluation with their own hooks does
  have hrun : ∀ members : List (Member σ),
      (watched members).1 = (((e.ownedBy members).watched.run .silent).runAmid (beside _ changes)
          (s, [])).1 ∧
        (watched members).2.1 = (((e.ownedBy members).watched.run .silent).runAmid
          (beside _ changes) (s, [])).2 := by
    intro members
    rw [← watched_ownedBy]
    exact (e.watched.joinedBy_mimics keep (Member.watchedFrom 0 members)).runAmid
      (beside _ changes) ((s, []), reports)
  have hbare : e.ownedBy bare = e.ownedBy members := by
    have hown : bare.filterMap Member.own? = members.filterMap Member.own? := by
      rw [List.filterMap_map]
      exact List.filterMap_some
    rw [ownedBy, ownedBy, hown]
  obtain ⟨hresult, hstate⟩ := hrun members
  obtain ⟨hresult', hstate'⟩ := hrun bare
  rw [hbare] at hresult' hstate'
  obtain ⟨hplain, hleft⟩ := (e.joinedBy_mimics keep members).runAmid changes (s, reports)
  obtain ⟨hnoted, hkept⟩ := (run_mimics .silent (e.ownedBy members)).runAmid changes (s, [])
  refine ⟨hresult.trans hresult'.symm, hstate.trans hstate'.symm, ?_, ?_⟩
  · exact hplain.trans (hnoted.symm.trans hresult.symm)
  · exact hleft.trans (hkept.symm.trans (congrArg Prod.fst hstate).symm)

end Evaluation

end FeatureFlags
