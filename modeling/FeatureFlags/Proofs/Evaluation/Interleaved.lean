import FeatureFlags.Proofs.Evaluation.Kept
import FeatureFlags.Proofs.Evaluation.Lookup
import FeatureFlags.Proofs.Evaluation.Unwatched
import FeatureFlags.Proofs.Lifecycle.Usage
import FeatureFlags.Proofs.Task.Poll

/-!
# Evaluations that take turns

Any number of evaluations may be under way on an instance.  Each goes on to its next suspension
when it has its turn, and between two turns anything may happen to the instance.  The evaluations
share the hooks and the state that these work on, but not the scratch spaces of the hooks.

To tell what each evaluation does, the same is let happen to an instance on which every evaluation
keeps notes of its own calls.  It goes on as the plain one does, since the notes are never read.

## Main definitions

* `Traffic` — an instance with evaluations under way; `Traffic.after` — a run.
* `Traffic.Kind` — how evaluations begin and have their turns; `Traffic.plain`,
  `Traffic.noted` — the evaluations themselves, and evaluations that note their calls.

## Main results

* `Traffic.Mirrors.after` — two kinds of evaluations that go on alike turn by turn do so in every
  run.
* `Traffic.scratch_spaces_handed_on` — **whatever goes on at the same time, at every position of
  every evaluation the scratch space is handed on from stage to stage.**
-/

namespace FeatureFlags

open Api (State)
open Evaluation (Call Keeps Watched)

/-- A call of a client that evaluates a flag. -/
structure Request where
  client : Client
  flagType : FlagType
  flagKey : String
  defaultValue : FlagValue
  context : EvaluationContext
  options : EvaluationOptions

/-- What may happen next on an instance. -/
inductive Happening (W : Type) where
  /-- An evaluation is called. -/
  | call (request : Request)
  /-- The evaluation called at some point has its turn. -/
  | turn (index : Nat)
  /-- Anything else. -/
  | elsewhere (change : State W → State W)

/-- An instance, with the evaluations that have been called so far. -/
structure Traffic (W A : Type) where
  state : State W
  underway : List A

namespace Traffic

variable {W A B : Type}

/-! ### Runs -/

/-- How evaluations begin, and what comes of one turn. -/
structure Kind (W A : Type) where
  begin : Request → A
  turn : A → State W → A × State W

/-- The instance after one more thing has happened. -/
def next (kind : Kind W A) (x : Traffic W A) : Happening W → Traffic W A
  | .call request => { x with underway := x.underway ++ [kind.begin request] }
  | .turn index =>
    match x.underway[index]? with
    | some a => ⟨(kind.turn a x.state).2, x.underway.set index (kind.turn a x.state).1⟩
    | none => x
  | .elsewhere change => { x with state := change x.state }

/-- The instance after a number of things have happened. -/
def after (kind : Kind W A) (x : Traffic W A) (happenings : List (Happening W)) : Traffic W A :=
  happenings.foldl (next kind) x

/-! ### Kinds of evaluations that go on alike -/

/-- One kind of evaluations goes on as another one does, along a relation. -/
structure Kind.Simulates (kind : Kind W A) (kind' : Kind W B) (rel : A → B → Prop) : Prop where
  begin : ∀ request, rel (kind.begin request) (kind'.begin request)
  turn : ∀ a b s, rel a b →
    rel (kind.turn a s).1 (kind'.turn b s).1 ∧ (kind.turn a s).2 = (kind'.turn b s).2

/-- Two instances in the same state, with related evaluations under way. -/
structure Mirrors (rel : A → B → Prop) (x : Traffic W A) (y : Traffic W B) : Prop where
  state : x.state = y.state
  underway : List.Forall₂ rel x.underway y.underway

variable {kind : Kind W A} {kind' : Kind W B} {rel : A → B → Prop} {x : Traffic W A}
  {y : Traffic W B}

theorem Mirrors.next (hkind : kind.Simulates kind' rel) (h : Mirrors rel x y)
    (happening : Happening W) :
    Mirrors rel (x.next kind happening) (y.next kind' happening) := by
  cases happening with
  | call request =>
    exact ⟨h.state, List.rel_append h.underway (.cons (hkind.begin request) .nil)⟩
  | turn index =>
    rw [Traffic.next, Traffic.next]
    rcases Api.forall₂_at h.underway index with ⟨hx, hy⟩ | ⟨a, b, hx, hy, hab, hset⟩
    · rw [hx, hy]
      exact h
    · obtain ⟨hrel, hstate⟩ := hkind.turn a b x.state hab
      rw [h.state] at hrel hstate
      rw [hx, hy, h.state]
      exact ⟨hstate, hset hrel⟩
  | elsewhere change => exact ⟨congrArg change h.state, h.underway⟩

/-- **Evaluations that go on alike turn by turn do so in every run.** -/
theorem Mirrors.after (hkind : kind.Simulates kind' rel) (h : Mirrors rel x y)
    (happenings : List (Happening W)) :
    Mirrors rel (x.after kind happenings) (y.after kind' happenings) := by
  induction happenings generalizing x y with
  | nil => exact h
  | cons happening rest ih => exact ih (h.next hkind happening)

/-! ### Evaluations, and evaluations that note their calls -/

/-- What evaluations give. -/
abbrev Answer := Except Panic (EvaluationDetails FlagValue)

/-- The evaluations themselves.  One that has ended stays as it is. -/
def plain (host : Host W) : Kind W (Progress (State W) Answer) where
  begin r := .waiting
    (r.client.evaluate host r.flagType r.flagKey r.defaultValue r.context r.options)
  turn progress s := progress.rest.poll s

/-- An evaluation under way, with the calls that it has made so far. -/
structure Noted (W : Type) where
  progress : Progress (Watched (State W)) Answer
  calls : List Call

/-- Evaluations that note their calls, each for itself. -/
def noted (host : Host W) : Kind W (Noted W) where
  begin r := ⟨.waiting
    (r.client.evaluateWatched host r.flagType r.flagKey r.defaultValue r.context r.options), []⟩
  turn x s :=
    let (progress, s, calls) := x.progress.rest.poll (s, x.calls)
    (⟨progress, calls⟩, s)

end Traffic

/-! ### Notes are only added to -/

namespace Evaluation

variable {σ α : Type}

/-- A change of a watched state that keeps all notes and may add some. -/
def Adds (p p' : Watched σ) : Prop := p.2 <+: p'.2

theorem Adds.of_confined {p p' : Watched σ} (h : (Cell.first σ (List Call)).Confined p p') :
    Adds p p' := by
  obtain ⟨s, rfl⟩ := h
  exact List.prefix_rfl

/-- A task whose call is noted adds one note. -/
theorem note_adds (t : Task σ α) (describe : α → Call) :
    Task.Guarantees Adds
      ((t.within (Cell.first σ (List Call))).bind fun a =>
        (note (describe a)).bind fun _ => .done a) := by
  have hadds : Task.Guarantees Adds (t.within (Cell.first σ (List Call))) :=
    (Task.guarantees_confined t).mono fun _ _ => Adds.of_confined
  refine hadds.bind fun a => Task.Guarantees.bind ?_ fun _ => Task.guarantees_done a
  exact Task.guarantees_modify fun p => List.prefix_append p.2 [describe a]

theorem watched_adds (hook : Hook σ) (position : Nat) : (hook.watched position).Keeps Adds where
  before ctx hints data := note_adds (hook.before ctx hints data) _
  after ctx details hints data := note_adds (hook.after ctx details hints data) _
  error ctx err hints data := note_adds (hook.error ctx err hints data) _
  finish ctx hints data := note_adds (hook.finish ctx hints data) _

/-- An evaluation that notes its calls only adds to its notes. -/
theorem run_adds (journal : Journal σ) (e : Evaluation σ) :
    (e.watched.run journal.watched).Guarantees Adds := by
  refine run_guarantees ?_ ?_ ?_
  · exact fun entry p => List.prefix_rfl
  · intro t flagKey defaultValue ctx
    exact note_adds (e.provider.resolve t flagKey defaultValue ctx) _
  · intro hook hhook
    obtain ⟨⟨plain, position⟩, -, rfl⟩ := List.mem_map.mp hhook
    exact watched_adds plain position

end Evaluation

namespace Traffic

open Evaluation (Adds)

variable {W : Type}

/-! ### What is known of an evaluation that notes its calls -/

/-- What is known of an evaluation that notes its calls, at any time: when it ends, scratch spaces
will have been handed on, and until then it only adds to its notes. -/
structure Noted.Sound (x : Noted W) : Prop where
  ends : ∀ s, Watched.Ensures x.progress.rest (fun _ q => Keeps q.2) (s, x.calls)
  adds : x.progress.rest.Guarantees Adds

/-- What will have been so of all calls at the end is so of the calls made already. -/
theorem Noted.Sound.keeps {x : Noted W} (h : x.Sound) (s : State W) : Keeps x.calls := by
  have hadds : Watched.Ensures x.progress.rest (fun _ q => x.calls <+: q.2) (s, x.calls) := by
    refine (h.adds.ensures (fun _ => List.prefix_rfl) List.IsPrefix.trans (s, x.calls)).of_others ?_
    exact fun _ _ => Adds.of_confined
  obtain ⟨hkeeps, more, hmore⟩ := Task.run_of_ensures (fun p => ⟨p.1, rfl⟩) ((h.ends s).and hadds)
  rw [← hmore] at hkeeps
  exact hkeeps.of_append

theorem begin_sound (host : Host W) (request : Request) : ((noted host).begin request).Sound where
  ends s :=
    Evaluation.run_keeps host.log (request.client.evaluation host request.flagType request.flagKey
      request.defaultValue request.context request.options s) s
  adds := Task.guarantees_read fun p => Evaluation.run_adds host.log (request.client.evaluation host
    request.flagType request.flagKey request.defaultValue request.context request.options p.1)

/-- A turn leaves what is known. -/
theorem Noted.Sound.turn {x : Noted W} (h : x.Sound) (host : Host W) (s : State W) :
    ((noted host).turn x s).1.Sound where
  ends s' := (h.ends s).poll (by rintro _ p _ hkeeps ⟨s, rfl⟩; exact hkeeps) _ ⟨s', rfl⟩
  adds := h.adds.poll (s, x.calls)

/-- An evaluation that notes its calls, and a plain one that it goes on with. -/
structure Noted.Mirrors (x : Noted W) (progress : Progress (State W) Answer) : Prop where
  mimics : x.progress.Mimics True Eq progress
  sound : x.Sound

/-- Evaluations that note their calls go on as the evaluations themselves do. -/
theorem noted_simulates (host : Host W) : (noted host).Simulates (plain host) Noted.Mirrors where
  begin request := by
    refine ⟨?_, begin_sound host request⟩
    exact .read fun p => Evaluation.run_mimics host.log (request.client.evaluation host
      request.flagType request.flagKey request.defaultValue request.context request.options p.1)
  turn x progress s h := by
    obtain ⟨hmimics, hstate⟩ := h.mimics.rest.poll (s, x.calls)
    exact ⟨⟨hmimics, h.sound.turn host s⟩, hstate⟩

/-! ### The main result -/

/-- **The scratch space of a hook is private to one position in one evaluation.**  Whatever happens
to an instance, evaluations that note their calls go on in step with the plain ones: the state is
the same, and each of them has ended with the same answer or waits at the same point.  In each one,
at every position, the first stage called finds the scratch space empty and every later one finds
it as the stage called there before left it. -/
theorem scratch_spaces_handed_on (host : Host W) (s : State W) (happenings : List (Happening W)) :
    let bare := Traffic.after (plain host) ⟨s, []⟩ happenings
    let watched := Traffic.after (noted host) ⟨s, []⟩ happenings
    watched.state = bare.state ∧
      List.Forall₂ (fun x progress => x.progress.Mimics True Eq progress) watched.underway
        bare.underway ∧
      ∀ x ∈ watched.underway, Keeps x.calls := by
  intro bare watched
  have hmirrors : Mirrors Noted.Mirrors watched bare :=
    Mirrors.after (noted_simulates host) ⟨rfl, .nil⟩ happenings
  obtain ⟨hsound, hmimics⟩ := (List.forall₂_and_left _ _).mp
    (hmirrors.underway.imp fun _ _ h => ⟨h.sound, h.mimics⟩)
  exact ⟨hmirrors.state, hmimics, fun x hx => (hsound x hx).keeps s⟩

end Traffic

end FeatureFlags
