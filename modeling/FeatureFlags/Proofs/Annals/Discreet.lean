import FeatureFlags.Proofs.Annals.Told

/-!
# Every discreet application has a chronicle

A callback that is discreet changes the registry by announcing events alone, and so each of its
changes can be explained by some events.  A told version of it puts down such events beside each
change.

## Main definitions

* `Annals.explanation` — events that explain a change of the registry.
* `Annals.told` — a callback that puts down an explanation of everything it changes.
* `Annals.Chronicle.ofDiscreet` — **a chronicle of a discreet application.**
-/

namespace FeatureFlags

open Api (State)
open FeatureFlags.Task (Mimics)

namespace Annals

variable {W α : Type}

/-- A change by events has an explanation: the events that were applied, in order. -/
theorem exists_explanation {r after : Registry} (h : r.Announced after) :
    ∃ entries : Annals, ∀ annals,
      Relation.ReflTransGen Announcing (r, annals) (after, annals ++ entries) := by
  induction h with
  | refl =>
    refine ⟨[], fun annals => ?_⟩
    rw [List.append_nil]
  | @tail r' r'' hsteps hstep ih =>
    obtain ⟨entries, hentries⟩ := ih
    obtain ⟨id, event, code, rfl⟩ := hstep
    cases hannounce : r'.announce id event code with
    | none => exact ⟨entries, hentries⟩
    | some after =>
      refine ⟨entries ++ [.announced id event code], fun annals => ?_⟩
      rw [← List.append_assoc]
      exact (hentries annals).tail (.intro hannounce)

open Classical in
/-- Events that explain a change of the registry, if there are any. -/
noncomputable def explanation (r after : Registry) : Annals :=
  if h : r.Announced after then (exists_explanation h).choose else []

theorem announcing_explanation {r after : Registry} (h : r.Announced after) (annals : Annals) :
    Relation.ReflTransGen Announcing (r, annals) (after, annals ++ explanation r after) := by
  rw [explanation, dif_pos h]
  exact (exists_explanation h).choose_spec annals

/-- A callback that puts down an explanation of everything it changes. -/
noncomputable def told : Task (State W) α → Task (Kept W) α
  | .done a => .done a
  | .read next => .read fun k => told (next k.1)
  | .write s next =>
    .read fun k => .write (s, k.2 ++ explanation k.1.registry s.registry) (told next)
  | .suspend next => .suspend (told next)

theorem told_mimics (t : Task (State W) α) : Mimics False Eq (told t) t := by
  induction t with
  | done a => exact .done rfl
  | read next ih => exact .read fun k => ih k.1
  | write s next ih => exact .look fun k => .write rfl ih
  | suspend next ih => exact .suspend ih

theorem told_told {t : Task (State W) α} (h : t.Discreet) : Told (told t) t where
  mimics := told_mimics t
  candid := by
    suffices hfrom : ∀ k : Kept W,
        t.GuaranteesFrom (fun s s' => Registry.Announced s.registry s'.registry) k.1 →
          (told t).GuaranteesFrom
            (fun k k' => Relation.ReflTransGen Announcing (ledger k) (ledger k')) k from
      fun k => hfrom k (h k.1)
    clear h
    induction t with
    | done a => exact fun _ _ => trivial
    | read next ih => exact fun k hk => ih k.1 k hk
    | write s next ih =>
      exact fun k hk => ⟨announcing_explanation hk.1 k.2, fun k' => ih k' (hk.2 k'.1)⟩
    | suspend next ih => exact fun _ hk k' => ih k' (hk k'.1)

/-- **A chronicle of a discreet application.** -/
noncomputable def Chronicle.ofDiscreet {host : Host W} (h : host.Discreet) : Chronicle host where
  attach s id emitter := told ((host.providerOf s id).attach emitter)
  startUp s id ctx := told ((host.providerOf s id).startUp ctx)
  detach s id := told (host.providerOf s id).detach
  shutDown s id := told (host.providerOf s id).shutDown
  handle handler details := told (host.handle handler details)
  attach_told s id emitter := told_told ((h.providerOf s id).attach emitter)
  startUp_told s id ctx := told_told ((h.providerOf s id).startUp ctx)
  detach_told s id := told_told (h.providerOf s id).detach
  shutDown_told s id := told_told (h.providerOf s id).shutDown
  handle_told handler details := told_told (h.handle handler details)

end Annals

end FeatureFlags
