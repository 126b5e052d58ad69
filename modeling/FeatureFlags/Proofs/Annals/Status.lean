import FeatureFlags.Proofs.Annals.Course
import FeatureFlags.Proofs.Evaluation.ShortCircuit
import FeatureFlags.Proofs.Lifecycle.Pool

/-!
# The status of a bound instance is its history

Calls that bind providers and resets, starts and shutdowns that end early or late, and events come
in between each other in any order.  The status of a bound instance is nevertheless a fold over
what was applied to it since it last became bound.  So only an event of the instance, or the
outcome of a start of it, can change its status; and a fatal instance stays fatal, and is asked for
no value, until it is unbound.

## Main definitions

* `Annals.patientChronicle` — a chronicle of an application of providers that wait.

## Main results

* `Annals.status_since` — **the status of an instance that stays bound** follows from the one
  before and from what is applied to it.
* `Annals.status_is_history` — **the status table is the history.**
-/

namespace FeatureFlags

open Api (Act ShortCircuits Usage stateAfter)

namespace Annals

variable {W : Type} {host : Host W} {c : Chronicle host}

/-- **The status of an instance that stays bound** follows from the one before and from what is
applied to it. -/
theorem status_since {x : Usage (Kept W)} (hx : Orderly x) {id : ProviderId}
    (hid : x.state.1.registry.isBound id = true) (acts : List (Act W)) :
    let y := x.after c.service acts
    ∃ since, y.state.2 = x.state.2 ++ since ∧ (Entry.unbound id ∉ since →
      y.state.1.registry.isBound id = true ∧
        y.state.1.registry.statusOf id =
          (x.state.1.registry.statusOf id).onEvents (applied id since)) := by
  intro y
  obtain ⟨hafter, hsteps⟩ := hx.after (c := c) acts
  obtain ⟨since, hsince, hkept⟩ := hsteps.lifetime hx.faithful hid
  refine ⟨since, hsince, fun hstays => ?_⟩
  obtain ⟨hbound, hbegins⟩ := hkept hstays
  refine ⟨hbound, ?_⟩
  calc y.state.1.registry.statusOf id
      = status id y.state.2 := hafter.faithful.status id hbound
    _ = status id (x.state.2 ++ since) := congrArg (status id) hsince
    _ = (status id x.state.2).onEvents (applied id since) := status_append hbegins
    _ = (x.state.1.registry.statusOf id).onEvents (applied id since) :=
        congrArg (ProviderStatus.onEvents · _) (hx.faithful.status id hid).symm

/-- **The status table is the history.**  After any run, the status of a bound instance is the one
that follows from the annals: from not ready, or from ready if the registry made the instance as a
default of its own, the events and outcomes of starts applied to it since it last became bound.
However the run goes on, as long as the instance is not unbound:
* its status follows from the one before and from what is applied to it meanwhile;
* if it is fatal, it stays so, and no evaluation that it serves is started. -/
theorem status_is_history (c : Chronicle host) (world : W) (acts : List (Act W)) (id : ProviderId)
    (hid : (stateAfter host world acts).registry.isBound id = true) :
    let s := stateAfter host world acts
    s.registry.statusOf id = status id (c.annals world acts) ∧
    ∀ more : List (Act W),
      let s' := stateAfter host world (acts ++ more)
      ∃ since, c.annals world (acts ++ more) = c.annals world acts ++ since ∧
        (Entry.unbound id ∉ since →
          s'.registry.isBound id = true ∧
          s'.registry.statusOf id = (s.registry.statusOf id).onEvents (applied id since) ∧
          (s.registry.statusOf id = .fatal →
            s'.registry.statusOf id = .fatal ∧ ShortCircuits host s' id .providerFatal)) := by
  intro s
  have hs : s = (c.course world acts).state.1 := c.stateAfter_eq world acts
  have hx : Orderly (c.course world acts) := c.orderly world acts
  have hbound : (c.course world acts).state.1.registry.isBound id = true := hs ▸ hid
  refine ⟨c.statusOf_stateAfter hid, fun more => ?_⟩
  intro s'
  have hs' : s' = (c.course world (acts ++ more)).state.1 := c.stateAfter_eq world _
  obtain ⟨since, hsince, hkept⟩ := status_since (c := c) hx hbound more
  rw [← c.course_append] at hsince hkept
  refine ⟨since, hsince, fun hstays => ?_⟩
  rw [← hs', ← hs] at hkept
  obtain ⟨hstill, hstatus⟩ := hkept hstays
  refine ⟨hstill, hstatus, fun hfatal => ?_⟩
  have hfatal' : s'.registry.statusOf id = .fatal := by
    rw [hstatus, hfatal, ProviderStatus.onEvents_fatal]
  refine ⟨hfatal', Api.shortCircuits_of_status ?_ host⟩
  rw [hfatal']
  rfl

/-! ### An application that waits -/

/-- A callback that ends at once. -/
theorem told_done {α : Type} (a : α) : Told (.done a : Task (Kept W) α) (.done a) :=
  ⟨.done rfl, fun _ => trivial⟩

/-- A callback that waits once. -/
theorem told_suspend {α : Type} (a : α) :
    Told (.suspend (.done a) : Task (Kept W) α) (.suspend (.done a)) :=
  ⟨.suspend (.done rfl), fun _ _ => trivial⟩

/-- A chronicle of an application of providers that wait: they announce nothing. -/
def patientChronicle : Chronicle Lifecycle.patient where
  attach _ _ _ := .done ()
  startUp _ id _ :=
    match id with
    | .application _ => .suspend (.done (.returned ()))
    | .builtin _ => .done (.returned ())
  detach _ _ := .done ()
  shutDown _ id :=
    match id with
    | .application _ => .suspend (.done (.returned ()))
    | .builtin _ => .done (.returned ())
  handle _ _ := .done none
  attach_told _ id _ := by cases id <;> exact told_done ()
  startUp_told _ id _ := by
    cases id with
    | application number => exact told_suspend _
    | builtin generation => exact told_done _
  detach_told _ id := by cases id <;> exact told_done ()
  shutDown_told _ id := by
    cases id with
    | application number => exact told_suspend _
    | builtin generation => exact told_done _
  handle_told _ _ := told_done none

/-- A provider is bound, and then fails for good while it is being started. -/
def failing : List (Act Unit) :=
  [.bind .default ⟨.application 0, "waiting"⟩,
    .emit (.application 0) (.error (.of .providerFatal "gone"))]

/-- Its start ends well after that. -/
def started : List (Act Unit) := List.replicate 6 (.advance 0)

/-- The outcome of the start is applied, but the provider stays fatal. -/
theorem fatal_when_started :
    let s := stateAfter Lifecycle.patient () (failing ++ started)
    patientChronicle.annals () (failing ++ started) =
        patientChronicle.annals () failing ++ [.reported (.application 0) 1 (.ok ())] ∧
      s.registry.statusOf (.application 0) = .fatal ∧
        ShortCircuits Lifecycle.patient s (.application 0) .providerFatal := by
  intro s
  have hreported : patientChronicle.annals () (failing ++ started) =
      patientChronicle.annals () failing ++ [.reported (.application 0) 1 (.ok ())] := rfl
  obtain ⟨-, hmore⟩ := status_is_history patientChronicle () failing (.application 0) (by decide)
  obtain ⟨since, hsince, hkept⟩ := hmore started
  obtain rfl := List.append_cancel_left (hsince.symm.trans hreported)
  obtain ⟨-, -, hfatal⟩ := hkept fun hmem => Entry.noConfusion (List.mem_singleton.mp hmem)
  exact ⟨hreported, hfatal (by decide)⟩

end Annals

end FeatureFlags
