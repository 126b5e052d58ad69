import FeatureFlags.Api.Evaluate
import FeatureFlags.Api.Lifecycle
import FeatureFlags.Proofs.Evaluation.Keeping
import FeatureFlags.Proofs.Task.Guarantees

/-!
# Calls that keep to a kind of change

What a call on an instance does to the state is in part its own doing, and for the rest what the
callbacks of the application do that it runs.  If the callbacks keep to changes of one kind, then so
does the call, as soon as the few changes that it makes itself are of that kind too.

## Main definitions

* `Provider.Keeps step` — a provider that changes the state along `step` alone.
* `Host.Keeps step` — an application whose callbacks change the state along `step` alone.

## Main results

* `Api.dispatch_guarantees`, `Api.deliver_guarantees` — events.
* `Api.bindProvider_guarantees`, `Api.clearProviders_guarantees` — changes of bindings.
* `Client.evaluate_guarantees` — evaluations.
-/

namespace FeatureFlags

open Api (State)
open FeatureFlags.Task (Guarantees guarantees_done guarantees_each guarantees_get_bind
  guarantees_modify)

/-- A provider that changes the state along `step` alone. -/
structure Provider.Keeps {σ : Type} (step : σ → σ → Prop) (p : Provider σ) : Prop where
  hooks : ∀ hook ∈ p.hooks, hook.Keeps step
  startUp : ∀ ctx, (p.startUp ctx).Guarantees step
  shutDown : p.shutDown.Guarantees step
  attach : ∀ emitter, (p.attach emitter).Guarantees step
  detach : p.detach.Guarantees step
  resolve : ∀ t flagKey defaultValue ctx, (p.resolve t flagKey defaultValue ctx).Guarantees step

/-- An application whose callbacks change the state along `step` alone. -/
structure Host.Keeps {W : Type} (step : State W → State W → Prop) (host : Host W) : Prop where
  provider : ∀ s number, (host.provider s number).Keeps step
  hook : ∀ s id, (host.hook s id).Keeps step
  handle : ∀ handler details, (host.handle handler details).Guarantees step
  receive : ∀ number raised, (host.receive number raised).Guarantees step

variable {W : Type} {host : Host W} {step : State W → State W → Prop}

/-! ### Weaker kinds of change -/

theorem Hook.Keeps.mono {σ : Type} {step step' : σ → σ → Prop} {hook : Hook σ}
    (h : hook.Keeps step) (hstep : ∀ s s', step s s' → step' s s') : hook.Keeps step' where
  before ctx hints data := (h.before ctx hints data).mono hstep
  after ctx details hints data := (h.after ctx details hints data).mono hstep
  error ctx e hints data := (h.error ctx e hints data).mono hstep
  finish ctx hints data := (h.finish ctx hints data).mono hstep

theorem Provider.Keeps.mono {σ : Type} {step step' : σ → σ → Prop} {p : Provider σ}
    (h : p.Keeps step) (hstep : ∀ s s', step s s' → step' s s') : p.Keeps step' where
  hooks hook hmem := (h.hooks hook hmem).mono hstep
  startUp ctx := (h.startUp ctx).mono hstep
  shutDown := h.shutDown.mono hstep
  attach emitter := (h.attach emitter).mono hstep
  detach := h.detach.mono hstep
  resolve t flagKey defaultValue ctx := (h.resolve t flagKey defaultValue ctx).mono hstep

theorem Host.Keeps.mono {step' : State W → State W → Prop} (h : host.Keeps step)
    (hstep : ∀ s s', step s s' → step' s s') : host.Keeps step' where
  provider s number := (h.provider s number).mono hstep
  hook s id := (h.hook s id).mono hstep
  handle handler details := (h.handle handler details).mono hstep
  receive number raised := (h.receive number raised).mono hstep

theorem NoOp.keeps {σ : Type} (step : σ → σ → Prop) : (NoOp.provider σ).Keeps step where
  hooks _ h := absurd h List.not_mem_nil
  startUp _ := guarantees_done _
  shutDown := guarantees_done _
  attach _ := guarantees_done ()
  detach := guarantees_done ()
  resolve _ _ _ _ := guarantees_done _

/-- The default that the registry makes for itself does not change anything. -/
theorem Host.Keeps.providerOf (h : host.Keeps step) (s : State W) (id : ProviderId) :
    (host.providerOf s id).Keeps step := by
  cases id with
  | application number => exact h.provider s number
  | builtin generation => exact NoOp.keeps step

namespace Api

variable (hlog : ∀ entry s, step s (host.log entry s))

/-! ### Events -/

section Events

include hlog

/-- A report, if there is one, and then something else. -/
theorem report_guarantees {α : Type} {reported : Prop} [Decidable reported] (entry : LogEntry)
    {t : Task (State W) α} (ht : t.Guarantees step) :
    (if reported then (Task.log host.log entry).bind fun _ => t else t).Guarantees step := by
  split
  · exact Guarantees.bind (guarantees_modify (hlog entry)) fun _ => ht
  · exact ht

theorem runHandler_guarantees (event : ProviderEvent) {details : EventDetails}
    {handler : HandlerId} (hhandle : (host.handle handler details).Guarantees step) :
    (runHandler host event details handler).Guarantees step := by
  refine hhandle.bind fun outcome => ?_
  cases outcome with
  | none => exact guarantees_done ()
  | some p => exact guarantees_modify (hlog _)

variable (hhandle : ∀ handler details, (host.handle handler details).Guarantees step)

include hhandle

/-- Looking up the recipients of an event changes nothing, and the rest is done by the handlers. -/
theorem tellRecipients_guarantees (event : ProviderEvent) (details : EventDetails)
    (serves : Option String → Bool) :
    ((lookUpRecipients event serves).bind fun recipients =>
      Task.each (runHandler host event details) recipients).Guarantees step := by
  refine guarantees_get_bind fun s => guarantees_get_bind fun s' => ?_
  exact guarantees_each fun handler _ => runHandler_guarantees hlog event (hhandle handler _)

variable (hannounce : ∀ s id event code registry,
  s.registry.announce id event code = some registry → step s { s with registry })

include hannounce

/-- An event changes the registry by what it announces, and the rest is done by the handlers. -/
theorem dispatch_guarantees (id : ProviderId) (raised : RaisedEvent) :
    (dispatch host id raised).Guarantees step := by
  intro s
  unfold dispatch
  simp only [Task.get, Task.bind_def, Task.bind_read, Task.bind_done, Task.GuaranteesFrom]
  cases hchange : s.registry.announce id raised.event raised.details.errorCode with
  | none => exact guarantees_modify (hlog _) s
  | some registry =>
    refine ⟨hannounce _ _ _ _ _ hchange, report_guarantees hlog _ ?_⟩
    exact tellRecipients_guarantees hlog hhandle _ _ _

variable (hrelay : ∀ s id relay, step s ((relayCell id).set relay s))
  (hreceive : ∀ number raised, (host.receive number raised).Guarantees step)

include hrelay hreceive

theorem deliverThrough_guarantees (fuel : Nat) (emitter : Emitter) (raised : RaisedEvent) :
    (deliverThrough host fuel emitter raised).Guarantees step := by
  have hdispatch := dispatch_guarantees hlog hhandle hannounce
  induction fuel generalizing emitter raised with
  | zero =>
    cases emitter with
    | registry id => exact hdispatch id raised
    | application number => exact hreceive number raised
    | relay id sub => exact guarantees_done ()
  | succ fuel ih =>
    cases emitter with
    | registry id => exact hdispatch id raised
    | application number => exact hreceive number raised
    | relay id sub =>
      rw [deliverThrough]
      refine guarantees_get_bind fun s => ?_
      dsimp only
      obtain ⟨relay, passed⟩ := ((relayCell id).get s).receive sub raised
      refine Guarantees.bind (guarantees_modify fun s => hrelay s id relay) fun _ => ?_
      cases passed with
      | none => exact guarantees_done ()
      | some passed =>
        refine report_guarantees hlog _ (guarantees_get_bind fun s => ?_)
        cases ((relayCell id).get s).outlet with
        | none => exact guarantees_done ()
        | some emitter => exact ih emitter passed

/-- **An event that is sent through an emitter**, by however many relays it is passed on. -/
theorem deliver_guarantees (emitter : Emitter) (raised : RaisedEvent) :
    (deliver host emitter raised).Guarantees step :=
  guarantees_get_bind fun _ =>
    deliverThrough_guarantees hlog hhandle hannounce hrelay hreceive _ emitter raised

end Events

/-! ### Changes of bindings -/

section Bindings

variable (hregistry : ∀ s registry, step s { s with registry }) (hhost : host.Keeps step)

include hlog hregistry hhost

theorem perform_guarantees (ctx : EvaluationContext) (job : LifecycleJob) :
    (perform host ctx job).Guarantees step := by
  cases job with
  | shutDown p =>
    refine guarantees_get_bind fun s => ?_
    have hprovider := hhost.providerOf s p.id
    refine Guarantees.bind hprovider.detach fun _ => hprovider.shutDown.bind fun outcome => ?_
    refine Guarantees.bind (guarantees_modify (hlog _)) fun _ => ?_
    exact guarantees_modify fun s => hregistry s _
  | startUp p =>
    refine guarantees_get_bind fun s => ?_
    have hprovider := hhost.providerOf s p.id
    refine Guarantees.bind (hprovider.attach _) fun _ =>
      (hprovider.startUp ctx).bind fun outcome => ?_
    refine Guarantees.bind (guarantees_modify (hlog _)) fun _ => ?_
    exact dispatch_guarantees hlog hhost.handle (fun s _ _ _ registry _ => hregistry s registry) _ _

theorem bindProvider_guarantees (slot : Slot) (p : ProviderRef) :
    (bindProvider host slot p).Guarantees step := by
  refine guarantees_get_bind fun s => ?_
  refine Guarantees.bind (guarantees_modify fun s => hregistry s _) fun _ => ?_
  refine Guarantees.bind (guarantees_modify (hlog _)) fun _ => ?_
  exact guarantees_each fun job _ => perform_guarantees hlog hregistry hhost _ job

/-- **Binding a provider**, with all that follows from it. -/
theorem setProvider_guarantees (domain : Option String) (p : ProviderRef) :
    (setProvider host domain p).Guarantees step := by
  have hbind : ∀ slot, (Except.ok <$> bindProvider host slot p :
      Task (State W) (Except UsageError Unit)).Guarantees step := fun slot =>
    Guarantees.bind (bindProvider_guarantees hlog hregistry hhost slot p) fun _ => guarantees_done _
  unfold setProvider
  split
  · exact guarantees_done _
  · exact hbind _
  · exact hbind _

/-- **Unbinding everything.** -/
theorem clearProviders_guarantees : (clearProviders host).Guarantees step := by
  refine guarantees_get_bind fun s => ?_
  refine Guarantees.bind (guarantees_modify fun s => hregistry s _) fun _ => ?_
  refine Guarantees.bind (guarantees_each fun job _ =>
    perform_guarantees hlog hregistry hhost _ job) fun _ => ?_
  exact guarantees_modify (hlog _)

end Bindings

end Api

/-! ### Evaluations -/

/-- **An evaluation through a client** keeps to what its hooks and its provider keep to. -/
theorem Client.evaluate_guarantees (hlog : ∀ entry s, step s (host.log entry s))
    (hhost : host.Keeps step) (client : Client) (flagType : FlagType) (flagKey : String)
    (defaultValue : FlagValue) (ctx : EvaluationContext) (options : EvaluationOptions) :
    (client.evaluate host flagType flagKey defaultValue ctx options).Guarantees step := by
  refine Task.guarantees_read fun s => ?_
  have hprovider := hhost.providerOf s (s.registry.resolveWithStatus client.domain).1.id
  refine Evaluation.run_guarantees hlog hprovider.resolve fun hook hmem => ?_
  rcases List.mem_append.mp hmem with hscoped | hown
  · obtain ⟨id, -, rfl⟩ := List.mem_map.mp hscoped
    exact hhost.hook s id
  · exact hprovider.hooks hook hown

end FeatureFlags
