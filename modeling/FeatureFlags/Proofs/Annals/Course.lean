import FeatureFlags.Proofs.Annals.Told

/-!
# An instance in use, with its annals

An instance whose calls keep the annals goes on as it does without them.  Whatever happens to it,
every change of the registry is put down, and so the annals stay faithful.

## Main definitions

* `Annals.Chronicle.service` — the calls, with the annals kept.
* `Annals.Chronicle.annals` — the annals of a run.
* `Annals.Orderly` — the annals are faithful, and every call under way puts down what it changes.

## Main results

* `Annals.Chronicle.stateAfter_eq` — **the instance goes on as it does without annals.**
* `Annals.Orderly.act`, `Annals.Orderly.after` — **whatever happens is put down.**
* `Annals.Chronicle.statusOf_stateAfter` — the status of a bound instance follows from the annals.
-/

namespace FeatureFlags

open Api (Act Service State Usage stateAfter)

namespace Annals

variable {W : Type} {host : Host W}

/-! ### With the annals and without -/

namespace Chronicle

/-- The calls, with the annals kept. -/
def service (c : Chronicle host) : Service W (Kept W) where
  cell := .first _ _
  bind := c.bindProvider
  clear := c.clearProviders
  dispatch id raised := c.dispatch id raised (.announced id raised.event raised.details.errorCode)

theorem service_mimics (c : Chronicle host) : c.service.Mimics host where
  cell := rfl
  bind := c.bindProvider_mimics
  clear := c.clearProviders_mimics
  dispatch id raised := c.dispatch_mimics id raised _

variable (c : Chronicle host) (world : W) (acts more : List (Act W))

/-- An instance with its annals after a run. -/
def course : Usage (Kept W) := Usage.after c.service ⟨(State.fresh world, Ledger.fresh.2), []⟩ acts

/-- The annals of a run. -/
def annals : Annals := (c.course world acts).state.2

/-- **The instance goes on as it does without annals.** -/
theorem stateAfter_eq : stateAfter host world acts = (c.course world acts).state.1 :=
  have hstart : Usage.Mirrors ⟨(State.fresh world, Ledger.fresh.2), []⟩ ⟨State.fresh world, []⟩ :=
    ⟨rfl, .nil⟩
  (hstart.after c.service_mimics acts).state.symm

theorem course_append :
    c.course world (acts ++ more) = (c.course world acts).after c.service more :=
  Usage.after_append c.service _ acts more

end Chronicle

/-! ### Whatever happens is put down -/

/-- The annals are faithful, and every call under way puts down what it changes. -/
structure Orderly (x : Usage (Kept W)) : Prop where
  faithful : Faithful (ledger x.state)
  calls : ∀ t ∈ x.calls, ∃ start, start <+: x.state.2 ∧ t.Guarantees (Puts start)

theorem orderly_fresh (world : W) : Orderly ⟨(State.fresh world, Ledger.fresh.2), []⟩ where
  faithful := faithful_fresh
  calls _ ht := absurd ht List.not_mem_nil

variable {c : Chronicle host} {x : Usage (Kept W)}

/-- The calls that were under way put down what they change when more has been put down. -/
theorem Orderly.calls_of_steps (h : Orderly x) {kept : Kept W}
    (hsteps : Steps (ledger x.state) (ledger kept)) :
    ∀ t ∈ x.calls, ∃ start, start <+: kept.2 ∧ t.Guarantees (Puts start) := by
  intro t ht
  obtain ⟨start, hstart, hputs⟩ := h.calls t ht
  exact ⟨start, hstart.trans hsteps.grows, hputs⟩

/-- A call that goes on puts down what it changes. -/
theorem advance_puts {start : Annals} {t : Task (Kept W) Unit} (hstart : start <+: x.state.2)
    (ht : t.Guarantees (Puts start)) :
    Steps (ledger x.state) (ledger (t.advance x.state).2) ∧
      ∃ start, start <+: (t.advance x.state).2.2 ∧
        (t.advance x.state).1.Guarantees (Puts start) := by
  obtain ⟨hchange, hrest⟩ := (ht x.state).advance
  have hsteps : Steps (ledger x.state) (ledger (t.advance x.state).2) := by
    rcases hchange with hsame | hputs
    · rw [hsame]
    · exact hputs hstart
  exact ⟨hsteps, start, hstart.trans hsteps.grows, hrest⟩

/-- A call that is started. -/
theorem Orderly.start (h : Orderly x) {call : Task (Kept W) Unit}
    (hsteps : Steps (ledger x.state) (ledger (call.advance x.state).2))
    (hrest : ∃ start, start <+: (call.advance x.state).2.2 ∧
      (call.advance x.state).1.Guarantees (Puts start)) :
    Orderly (x.start call) ∧ Steps (ledger x.state) (ledger (x.start call).state) := by
  refine ⟨⟨Steps.faithful hsteps h.faithful, fun t ht => ?_⟩, hsteps⟩
  rcases List.mem_append.mp ht with ht | ht
  · exact h.calls_of_steps hsteps t ht
  · rw [List.mem_singleton.mp ht]
    exact hrest

/-- A call that is started, if it is known what it changes in its first step. -/
theorem Orderly.start_of_advance (h : Orderly x) {call rest : Task (Kept W) Unit} {kept : Kept W}
    (hadvance : call.advance x.state = (rest, kept))
    (hsteps : Steps (ledger x.state) (ledger kept)) (hputs : rest.Guarantees (Puts kept.2)) :
    Orderly (x.start call) ∧ Steps (ledger x.state) (ledger (x.start call).state) := by
  refine h.start ?_ ?_
  · rw [hadvance]
    exact hsteps
  · rw [hadvance]
    exact ⟨kept.2, List.prefix_refl _, hputs⟩

/-- A call that goes on. -/
theorem Orderly.advance (h : Orderly x) (call : Nat) :
    Orderly (x.advance call) ∧ Steps (ledger x.state) (ledger (x.advance call).state) := by
  rw [Usage.advance]
  cases hcall : x.calls[call]? with
  | none => exact ⟨h, .refl⟩
  | some t =>
    obtain ⟨start, hstart, hputs⟩ := h.calls t (List.mem_of_getElem? hcall)
    obtain ⟨hsteps, hrest⟩ := advance_puts hstart hputs
    refine ⟨⟨Steps.faithful hsteps h.faithful, fun u hu => ?_⟩, hsteps⟩
    rcases List.mem_or_eq_of_mem_set hu with hu | rfl
    · exact h.calls_of_steps hsteps u hu
    · exact hrest

/-- **Whatever happens is put down.** -/
theorem Orderly.act (h : Orderly x) (a : Act W) :
    Orderly (x.act c.service a) ∧ Steps (ledger x.state) (ledger (x.act c.service a).state) := by
  cases a with
  | bind slot p =>
    rw [Usage.act]
    split
    next hpossible =>
      obtain ⟨rest, hadvance, hputs⟩ := c.advance_bindProvider slot p x.state
      exact h.start_of_advance hadvance (.single (.bind slot hpossible.2)) hputs
    · exact ⟨h, .refl⟩
  | clear arrange =>
    rw [Usage.act]
    split
    · obtain ⟨rest, hadvance, hputs⟩ := c.advance_clearProviders arrange x.state
      exact h.start_of_advance hadvance (.single .clear) hputs
    · exact ⟨h, .refl⟩
  | emit id raised =>
    have hputs : (c.dispatch id raised
        (.announced id raised.event raised.details.errorCode)).Guarantees (Puts x.state.2) :=
      c.dispatch_puts fun hannounce _ => .announced hannounce
    obtain ⟨hsteps, hrest⟩ := advance_puts (List.prefix_refl _) hputs
    exact h.start hsteps hrest
  | advance call => exact h.advance call
  | elsewhere change => exact ⟨⟨h.faithful, h.calls⟩, .refl⟩

/-- **Whatever happens in a run is put down.** -/
theorem Orderly.after (h : Orderly x) (acts : List (Act W)) :
    Orderly (x.after c.service acts) ∧
      Steps (ledger x.state) (ledger (x.after c.service acts).state) := by
  induction acts generalizing x with
  | nil => exact ⟨h, .refl⟩
  | cons a acts ih =>
    obtain ⟨hact, hsteps⟩ := h.act (c := c) a
    obtain ⟨hafter, hmore⟩ := ih hact
    exact ⟨hafter, hsteps.trans hmore⟩

/-- After every run the annals are faithful. -/
theorem Chronicle.orderly (c : Chronicle host) (world : W) (acts : List (Act W)) :
    Orderly (c.course world acts) := ((orderly_fresh world).after acts).1

/-- After every run the status of a bound instance follows from the annals. -/
theorem Chronicle.statusOf_stateAfter (c : Chronicle host) {world : W} {acts : List (Act W)}
    {id : ProviderId} (hid : (stateAfter host world acts).registry.isBound id = true) :
    (stateAfter host world acts).registry.statusOf id = status id (c.annals world acts) := by
  rw [c.stateAfter_eq] at hid ⊢
  exact (c.orderly world acts).faithful.status id hid

end Annals

end FeatureFlags
