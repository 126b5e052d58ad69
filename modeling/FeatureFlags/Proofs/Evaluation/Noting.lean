import FeatureFlags.Proofs.Evaluation.Answered
import FeatureFlags.Proofs.Evaluation.Lookup
import FeatureFlags.Proofs.Evaluation.Unwatched

/-!
# Evaluations through a provider that keeps notes

A provider may note what it does for a lookup, where an evaluation sees only how the lookup ended.
The evaluation is run on a state with such notes and watched as any other: two kinds of notes, one
beside the other, and it makes the same moves without either.  What the provider ensures of its
lookup and its notes is known at the end, because nobody else touches them.

## Main definitions

* `Cell.beside` — a part of a state that stands beside notes.
* `Task.FollowsFrom` — a plain task does what one with notes does, from a state on.
* `Evaluation.noting` — an evaluation through a provider that keeps notes.
* `Evaluation.givenBack` — an answer of any kind given back as a flag type.
* `Client.detailsNoting` — details for a caller, noted and watched.

## Main results

* `Client.detailsNoting_follows` — **details are the same whether notes are kept or not.**
* `Client.detailsNoting_known` — **what the provider ensures of its lookup is known of the
  details.**
-/

namespace FeatureFlags

variable {σ τ ρ α β : Type}

/-! ### Notes beside notes -/

/-- A part of a state that stands beside notes. -/
def Cell.beside (ρ : Type) (part : Cell τ σ) : Cell (τ × ρ) σ where
  get p := part.get p.1
  set s p := (part.set s p.1, p.2)

namespace Task

theorem mimics_modify_beside {asides : Prop} (part : Cell σ α) (f : α → α) :
    Mimics asides Eq ((part.beside ρ).modify f) (part.modify f) :=
  mimics_modify (fun s => part.set (f (part.get s)) s) Prod.snd

/-- A change of a part changes no note beside it. -/
theorem confined_beside {part : Cell τ σ} {p p' : τ × ρ} :
    (part.beside ρ).Confined p p' ↔ Beside part.Confined p p' := by
  constructor
  · rintro ⟨s, rfl⟩
    exact ⟨⟨s, rfl⟩, rfl⟩
  · rintro ⟨⟨s, hs⟩, hnotes⟩
    exact ⟨s, Prod.ext hs hnotes⟩

/-- From a state on, a plain task ensures of its part and of a related value what a task with notes
ensures with the others confined to that part. -/
def FollowsFrom (part : Cell τ σ) (rel : α → β → Prop) (t : Task τ α) (u : Task σ β) (p : τ) :
    Prop :=
  ∀ Q : β → σ → Prop, t.Ensures part.Confined (fun a q => ∀ b, rel a b → Q b (part.get q)) p →
    u.Ensures (fun _ _ => True) Q (part.get p)

theorem Follows.followsFrom {rel : α → β → Prop} {t : Task (σ × ρ) α} {u : Task σ β}
    (h : Follows rel t u) (p : σ × ρ) : FollowsFrom (.first σ ρ) rel t u p :=
  fun Q hQ => h Q p hQ

/-- Tasks that begin with a look at the state. -/
theorem FollowsFrom.read {part : Cell τ σ} {rel : α → β → Prop} {f : τ → Task τ α}
    {g : σ → Task σ β} {p : τ} (h : FollowsFrom part rel (f p) (g (part.get p)) p) :
    FollowsFrom part rel (.read f) (.read g) p :=
  fun Q hQ => h Q hQ

/-- Further notes may be kept by a task that makes the same moves. -/
theorem FollowsFrom.mimics {asides : Prop} {part : Cell τ σ} {t : Task (τ × ρ) α} {u : Task τ α}
    {v : Task σ α} {p : τ × ρ} (h : FollowsFrom part Eq u v p.1) (ht : Mimics asides Eq t u) :
    FollowsFrom (part.beside ρ) Eq t v p := by
  intro Q hQ
  refine h Q (ht.ensures ((hQ.of_others fun _ _ => confined_beside.mpr).mono ?_))
  rintro a q ha _ rfl
  exact ha

/-- What is done with the value afterwards is the same. -/
theorem FollowsFrom.map {part : Cell τ σ} {t : Task τ α} {u : Task σ α} {p : τ} (f : α → β)
    (h : FollowsFrom part Eq t u p) : FollowsFrom part Eq (f <$> t) (f <$> u) p := by
  intro Q hQ
  refine (ensures_map _ _ _ _).mpr (h (fun a => Q (f a)) ?_)
  refine ((ensures_map _ _ _ _).mp hQ).mono ?_
  rintro a q ha _ rfl
  exact ha _ rfl

end Task

/-! ### Evaluations -/

theorem Hook.within_keeps (hook : Hook σ) :
    (hook.within (.first σ ρ)).Keeps (Cell.first σ ρ).Confined where
  before _ _ _ := Task.guarantees_confined _
  after _ _ _ _ := Task.guarantees_confined _
  error _ _ _ _ := Task.guarantees_confined _
  finish _ _ _ := Task.guarantees_confined _

namespace Evaluation

/-- What a provider that has an answer of any kind gives back as a flag type. -/
def givenBack (t : FlagType) (r : Resolution FlagValue) : Outcome (Resolution FlagValue) :=
  if r.value.isValidFor t then .returned r else .failed (.typeMismatch t r.value.kindName)

theorem ofExcept_toCarrier (t : FlagType) (r : Resolution FlagValue) :
    (Outcome.ofExcept (r.toCarrier t)).map (Resolution.map (FlagValue.ofCarrier t)) =
      givenBack t r := by
  rw [givenBack, Resolution.toCarrier]
  by_cases hvalid : r.value.isValidFor t
  · obtain ⟨value, hvalue, hback⟩ := FlagValue.toCarrier_of_valid hvalid
    rw [if_pos hvalid, hvalue]
    exact congrArg Outcome.returned (Resolution.map_withValue hback)
  · rw [if_neg hvalid, FlagValue.toCarrier_of_not_valid hvalid]
    rfl

/-- An evaluation of the same things on a state with notes, which its provider may keep. -/
def noting (e : Evaluation σ) (noted : Provider (σ × ρ)) : Evaluation (σ × ρ) :=
  e.withCallbacks noted (e.hooks.map (Hook.within (.first _ _)))

variable {e : Evaluation σ} {noted : Provider (σ × ρ)}

/-- **An evaluation makes the same moves when its provider keeps notes.** -/
theorem noting_mimics (journal : Journal σ) (hname : noted.name = e.provider.name)
    (hresolve : ∀ t flagKey defaultValue ctx, Task.Mimics True Eq
      (noted.resolve t flagKey defaultValue ctx) (e.provider.resolve t flagKey defaultValue ctx)) :
    Task.Mimics True Eq ((e.noting noted).run (journal.beside ρ)) (e.run journal) :=
  withCallbacks_mimics journal _ hname hresolve (Hook.within_all_mimic e.hooks)

/-- Whether there are details at all is the same. -/
theorem Gives.of_noting {P : EvaluationDetails α → Prop}
    {result : Except Panic (EvaluationDetails α)} (h : (e.noting noted).Gives P result) :
    e.Gives P result := by
  have hmimic : List.Forall₂ Hook.Mimics (e.hooks.map (Hook.within (.first σ ρ))) e.hooks :=
    Hook.within_all_mimic e.hooks
  have hselect := select_alike e.flagType hmimic
  rw [Gives] at h ⊢
  cases hchain : HookChain.select e.flagType e.hooks with
  | error panic =>
    rw [hchain] at hselect
    have hnoted : HookChain.select (e.noting noted).flagType (e.noting noted).hooks =
        .error panic := hselect
    rw [hnoted] at h
    exact h
  | ok chain =>
    rw [hchain] at hselect
    obtain ⟨alike, halike, -⟩ := hselect
    have hnoted : HookChain.select (e.noting noted).flagType (e.noting noted).hooks =
        .ok alike := halike
    rw [hnoted] at h
    exact h

/-- **What the provider ensures of its lookup is known at the end** of an evaluation through it,
and the evaluation goes in one of the five ways. -/
theorem noting_course (journal : Journal σ) {K : Call → σ × ρ → Prop} {start : ρ}
    (hK : ∀ call p p', K call p → (Cell.first σ ρ).Confined p p' → K call p')
    (hresolve : ∀ ctx s, (noted.resolveValue e.flagKey e.defaultValue ctx).Ensures
      (Cell.first _ _).Confined
        (fun outcome p => K (.lookup e.flagKey e.defaultValue ctx outcome) p) (s, start))
    (s : σ) :
    let e' := e.noting noted
    (e'.watched.run (journal.beside ρ).watched).Ensures ((Cell.first σ ρ).beside _).Confined
      (fun result q => e'.Settles (fun details calls => Course e' e'.positions calls details) result
        q.2 ∧ Known K q) ((s, start), []) := by
  intro e'
  have hcourse := (e'.run_watched (journal.beside ρ) (s, start)).of_others
    fun p p' (hp : ((Cell.first σ ρ).beside _).Confined p p') =>
      (⟨p'.1, Prod.ext rfl (Task.confined_beside.mp hp).2⟩ : (Cell.first _ _).Confined p p')
  have hknown : (e'.watched.run (journal.beside ρ).watched).Ensures
      (Task.Beside (Cell.first σ ρ).Confined) (fun _ q => Known K q) ((s, start), []) := by
    refine run_known (fun p => ⟨p.1, rfl⟩) ?_ (fun entry p => ⟨journal entry p.1, rfl⟩) hK ?_ ?_
    · rintro p _ _ ⟨s, rfl⟩ ⟨s', rfl⟩
      exact ⟨s', rfl⟩
    · rintro ctx _ ⟨s', rfl⟩
      exact hresolve ctx s'
    · intro hook hhook
      obtain ⟨plain, -, rfl⟩ := List.mem_map.mp hhook
      exact plain.within_keeps
  exact hcourse.and (hknown.of_others fun _ _ => Task.confined_beside.mp)

end Evaluation

/-! ### Through a client -/

namespace Client

open Api (State)
open Evaluation (Call Course Known Watched typedDetails)
open FeatureFlags.Task (FollowsFrom Mimics)

variable {W : Type} (host : Host W) (client : Client) (t : FlagType) (flagKey : String)
  (fallback : t.Carrier) (ctx : EvaluationContext) (options : EvaluationOptions)
  (noted : Provider (State W × ρ))

/-- Details for a caller who asked for a flag type, with the calls of the evaluation noted and a
provider that keeps notes of its own. -/
def detailsNoting : Task (Watched (State W × ρ)) (Except Panic (EvaluationDetails t.Carrier)) := do
  let result ← .read fun q =>
    let e := client.evaluation host t flagKey (.ofCarrier t fallback) ctx options q.1.1
    (e.noting noted).watched.run (host.log.beside ρ).watched
  return result.map (typedDetails t fallback)

variable {noted} {s : State W}

/-- **Details are the same whether notes are kept or not.** -/
theorem detailsNoting_follows {p : Provider (State W)}
    (hprovider : (client.evaluation host t flagKey (.ofCarrier t fallback) ctx options s).provider =
      p)
    (hname : noted.name = p.name)
    (hresolve : ∀ t flagKey defaultValue ctx, Mimics True Eq
      (noted.resolve t flagKey defaultValue ctx) (p.resolve t flagKey defaultValue ctx))
    (start : ρ) :
    FollowsFrom ((Cell.first _ _).beside _) Eq
      (client.detailsNoting host t flagKey fallback ctx options noted)
      (client.details host t flagKey fallback ctx options) ((s, start), []) := by
  subst hprovider
  refine (FollowsFrom.read ?_).map _
  have hnoting := (Evaluation.noting_mimics host.log hname hresolve).follows.followsFrom (s, start)
  exact hnoting.mimics (Evaluation.run_mimics _ _)

/-- **What the provider ensures of its lookup is known of the details**: the evaluation goes in one
of the five ways. -/
theorem detailsNoting_known {K : Call → State W × ρ → Prop} {start : ρ}
    (hK : ∀ call p p', K call p → (Cell.first _ _).Confined p p' → K call p')
    (hresolve : ∀ ctx s, (noted.resolveValue flagKey (.ofCarrier t fallback) ctx).Ensures
      (Cell.first _ _).Confined
        (fun outcome p => K (.lookup flagKey (.ofCarrier t fallback) ctx outcome) p) (s, start))
    (s : State W) :
    let e := client.evaluation host t flagKey (.ofCarrier t fallback) ctx options s
    let e' := e.noting noted
    (client.detailsNoting host t flagKey fallback ctx options noted).Ensures
      ((Cell.first _ _).beside _).Confined
      (fun result q => e.Gives (fun details => ∃ untyped,
          details = typedDetails t fallback untyped ∧ Course e' e'.positions q.2 untyped) result ∧
        Known K q) ((s, start), []) := by
  intro e e'
  have hcourse := Evaluation.noting_course (e := e) host.log hK hresolve s
  refine (Task.ensures_map _ _ _ _).mpr (hcourse.mono ?_)
  rintro result q ⟨hsettles, hknown⟩
  refine ⟨Evaluation.Gives.of_noting (hsettles.gives _ fun untyped hcourse => ?_), hknown⟩
  exact ⟨untyped, rfl, hcourse⟩

end Client

end FeatureFlags
