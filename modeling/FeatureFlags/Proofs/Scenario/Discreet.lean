import FeatureFlags.Proofs.Lifecycle.Discreet
import FeatureFlags.Scenario.Steps

/-!
# Scripted applications are discreet

The callbacks of a scripted application act out steps, and the steps that a callback may
contain change the memory of the application, register handlers or send events; none of them
touches the registry in any other way.

## Main results

* `Scripted.application_discreet` — **every scripted application is discreet**, however deep
  its callbacks nest.
-/

namespace FeatureFlags

namespace Scripted

open FeatureFlags.Task (Guarantees guarantees_done guarantees_each guarantees_get_bind
  guarantees_read guarantees_suspend guarantees_yields)

theorem discreet_modifyWorld (f : World → World) : (modifyWorld f).Discreet :=
  discreet_modify fun _ => rfl

theorem discreet_withWorld {α : Type} (f : World → α × World) : (withWorld f).Discreet :=
  Task.guarantees_atomically fun _ => .refl

theorem discreet_trace (entry : TraceEntry) : (trace entry).Discreet := discreet_modifyWorld _

/-! ### Waiting -/

theorem discreet_awaitTicket (name : String) (ticket : Ticket) (patience : Nat) :
    (awaitTicket name ticket patience).Discreet := by
  induction patience with
  | zero => exact guarantees_done ()
  | succ patience ih =>
    refine guarantees_suspend (guarantees_read fun s => ?_)
    dsimp only
    split
    · exact discreet_modifyWorld _
    · exact ih

theorem discreet_passGate (name : String) : (passGate name).Discreet := by
  rw [passGate]
  refine Task.Discreet.bind (discreet_withWorld _) fun ticket => ?_
  cases ticket with
  | none => exact guarantees_done ()
  | some ticket => exact guarantees_get_bind fun s => discreet_awaitTicket name ticket _

theorem discreet_wait (a : Action Step) : (wait a).Discreet := by
  rw [wait]
  cases a.gate with
  | none => exact guarantees_yields _
  | some name => exact (discreet_passGate name).bind fun _ => guarantees_yields _

/-! ### Callbacks -/

section Callbacks

variable {runStep : Step → Task ScriptedState Reply} (hstep : ∀ step, (runStep step).Discreet)

include hstep

theorem discreet_runInner (step : Step) : (runInner runStep step).Discreet := by
  refine (hstep step).bind fun r => ?_
  split
  · exact guarantees_done ()
  · exact discreet_trace _

theorem discreet_act (suspends : Bool) (wentOn : Option TraceEntry) (key : ScriptKey)
    (script : Script Step) : (act runStep suspends wentOn key script).Discreet := by
  rw [act]
  refine Task.Discreet.bind (discreet_withWorld _) fun a => ?_
  refine Task.Discreet.bind (guarantees_each fun step _ => discreet_runInner hstep step) ?_
  intro _
  split
  · refine (discreet_wait a).bind fun _ => ?_
    cases wentOn with
    | none => exact guarantees_done a
    | some entry => exact (discreet_trace entry).bind fun _ => guarantees_done a
  · exact guarantees_done a

theorem discreet_startUp (suspends : Bool) (number : Nat) (name : String)
    (script : CallbackScript Step) (ctx : EvaluationContext) :
    (startUp runStep suspends number name script ctx).Discreet := by
  rw [startUp]
  refine Task.Discreet.bind (discreet_modifyWorld _) fun _ => ?_
  refine Task.Discreet.bind (discreet_trace _) fun _ => ?_
  exact Task.Discreet.bind (discreet_act hstep _ _ _ _) fun _ => guarantees_done _

theorem discreet_shutDown (suspends : Bool) (number : Nat) (name : String)
    (script : CallbackScript Step) : (shutDown runStep suspends number name script).Discreet := by
  rw [shutDown]
  refine Task.Discreet.bind (discreet_modifyWorld _) fun _ => ?_
  refine Task.Discreet.bind (discreet_trace _) fun _ => ?_
  exact Task.Discreet.bind (discreet_act hstep _ _ _ _) fun _ => guarantees_done _

theorem discreet_attach (number : Nat) (name : String) (script : CallbackScript Step)
    (emitter : Emitter) : (attach runStep number name script emitter).Discreet := by
  refine guarantees_get_bind fun s => (discreet_trace _).bind fun _ => ?_
  refine (discreet_modifyWorld _).bind fun _ => ?_
  exact guarantees_each fun step _ => discreet_runInner hstep step

omit hstep in
theorem discreet_detach (number : Nat) (name : String) (script : CallbackScript Step) :
    (detach number name script).Discreet := by
  refine guarantees_get_bind fun s => (discreet_trace _).bind fun _ => ?_
  split
  · exact discreet_modifyWorld _
  · exact guarantees_done ()

theorem suspendingProvider_discreet (number : Nat) (name : String) (script : CallbackScript Step)
    (hooks : List (Hook ScriptedState)) :
    (suspendingProvider runStep number name script hooks).Discreet where
  attach := discreet_attach hstep number name script
  startUp := discreet_startUp hstep true number name script
  detach := discreet_detach number name script
  shutDown := discreet_shutDown hstep true number name script

omit hstep in
/-- A discreet task that is run from beginning to end announces events alone. -/
theorem announced_run {α : Type} {t : Task ScriptedState α} (ht : t.Discreet)
    (s : ScriptedState) : Registry.Announced s.registry (t.run s).2.registry :=
  (ht s).run (fun _ => .refl) fun h h' => h.trans h'

theorem blockingProvider_discreet (number : Nat)
    (name : String) (script : CallbackScript Step) (types : List FlagType) (bare : Bool)
    (hooks : List (Hook ScriptedState)) (host : Host World) :
    ((blockingProvider runStep number name script types bare hooks).toProvider
      host.log).Discreet := by
  apply BlockingProvider.toProvider_discreet
  · intro emitter s
    dsimp only [blockingProvider]
    split
    · exact .refl
    · exact announced_run (discreet_attach hstep number name script emitter) s
  · intro ctx s
    dsimp only [blockingProvider]
    split
    · exact .refl
    · exact announced_run (discreet_startUp hstep false number name script ctx) s
  · intro s
    dsimp only [blockingProvider]
    split
    · exact .refl
    · exact announced_run (discreet_detach number name script) s
  · intro s
    dsimp only [blockingProvider]
    split
    · exact .refl
    · exact announced_run (discreet_shutDown hstep false number name script) s

/-- Every provider of the application is discreet; a multi-provider has its sub-providers from
the providers with less fuel. -/
theorem providerAt_discreet (host : Host World) (s : ScriptedState) (fuel number : Nat) :
    (providerAt host.log runStep s fuel number).Discreet := by
  induction fuel generalizing number with
  | zero =>
    rw [providerAt]
    dsimp only
    split
    · exact NoOp.discreet
    · exact InMemory.discreet _
    · exact suspendingProvider_discreet hstep number _ _ _
    · exact blockingProvider_discreet hstep number _ _ _ _ _ host
    · exact NoOp.discreet
  | succ fuel ih =>
    rw [providerAt]
    dsimp only
    split
    · exact NoOp.discreet
    · exact InMemory.discreet _
    · exact suspendingProvider_discreet hstep number _ _ _
    · exact blockingProvider_discreet hstep number _ _ _ _ _ host
    · apply MultiProvider.toProvider_discreet
      intro sub hsub
      obtain ⟨⟨name, number⟩, -, rfl⟩ := List.mem_map.mp hsub
      exact ih number

theorem discreet_handle (id : HandlerId) (details : EventDetails) :
    (handle runStep id details).Discreet := by
  refine guarantees_get_bind fun s => ?_
  split
  · exact guarantees_done none
  · refine (discreet_trace _).bind fun _ => ?_
    split
    · exact guarantees_done none
    · refine (discreet_modifyWorld _).bind fun _ => ?_
      split
      · refine Guarantees.bind (guarantees_each fun step _ => discreet_runInner hstep step) ?_
        exact fun _ => guarantees_done _
      · exact guarantees_done _

theorem host_discreet : (host runStep).Discreet where
  provider s number := providerAt_discreet hstep (host runStep) s _ number
  handle := discreet_handle hstep

end Callbacks

/-! ### Steps -/

section Steps

theorem discreet_look (f : ScriptedState → Reply) : (look f).Discreet :=
  guarantees_read fun _ => guarantees_done _

theorem discreet_change {f : ScriptedState → ScriptedState}
    (h : ∀ s, (f s).registry = s.registry) : (change f).Discreet :=
  Task.Discreet.bind (discreet_modify h) fun _ => guarantees_done _

theorem discreet_remember (f : World → World) : (remember f).Discreet :=
  Task.Discreet.bind (discreet_modifyWorld f) fun _ => guarantees_done _

theorem discreet_changeScope (id : Option String)
    (f : ScriptedState → Api.Scope → Api.Scope) : (changeScope id f).Discreet := by
  apply discreet_change
  intro s
  cases id <;> rfl

variable {host : Host World} (hhost : host.Discreet)
  (hreceive : ∀ number raised, (host.receive number raised).Discreet)

theorem discreet_define (host : Host World) (id : String) (script : ProviderScript Step) :
    (define host id script).Discreet := by
  cases script with
  | noOp => exact discreet_remember _
  | memory flags => exact discreet_change fun _ => rfl
  | suspending script => exact discreet_remember _
  | blocking script types bare => exact discreet_remember _
  | multi entries chooser =>
    rw [define, defineMulti]
    refine Task.Discreet.bind (discreet_withWorld _) fun numbers => ?_
    refine guarantees_get_bind fun s => ?_
    dsimp only
    split
    · exact guarantees_done _
    · refine Task.Discreet.bind (discreet_modifyWorld _) fun _ => ?_
      refine Task.Discreet.bind (discreet_modify fun _ => rfl) fun _ => ?_
      exact Task.Discreet.bind (discreet_log host _) fun _ => guarantees_done _

theorem discreet_handlerIn (id : Option String) (event : ProviderEvent) (handler : String) :
    (handlerIn id event handler).Discreet := by
  rw [handlerIn]
  refine guarantees_get_bind fun s => ?_
  exact Task.Discreet.bind (discreet_withWorld _) fun _ => guarantees_done _

theorem discreet_removeHandler (client : Option Client) (event : ProviderEvent)
    (handler : HandlerId) :
    (Api.removeHandler client event handler : Task ScriptedState Unit).Discreet := by
  apply discreet_modify
  intro s
  cases client <;> rfl

include hhost

theorem discreet_addHandler (client : Option Client) (event : ProviderEvent)
    (handler : HandlerId) : (Api.addHandler host client event handler).Discreet := by
  have hlate : ∀ providers, (Api.runLate host event handler providers).Discreet := by
    intro providers
    exact guarantees_each fun _ _ => discreet_runHandler hhost event _ handler
  cases client with
  | none =>
    refine Task.Discreet.bind (discreet_modify fun _ => rfl) fun _ => ?_
    exact guarantees_get_bind fun s => hlate _
  | some client =>
    refine Task.Discreet.bind (discreet_modify fun _ => rfl) fun _ => ?_
    exact guarantees_get_bind fun s => hlate _

include hreceive

theorem discreet_emit (id : String) (raised : RaisedEvent) : (emit host id raised).Discreet := by
  rw [emit]
  refine guarantees_get_bind fun s => ?_
  cases (known s id).emitter with
  | none => exact guarantees_done _
  | some emitter =>
    exact Task.Discreet.bind (discreet_deliver hhost hreceive emitter raised)
      fun _ => guarantees_done _

theorem discreet_updateFlags (id : ProviderId) (flags : SortedMap MemoryFlag) :
    (InMemory.updateFlags host.log (Api.memoryCell id) (Api.deliver host) flags).Discreet := by
  refine Task.Discreet.bind (discreet_modify fun _ => rfl) fun _ => ?_
  refine Task.Discreet.bind (discreet_log host _) fun _ => guarantees_get_bind fun s => ?_
  cases ((Api.memoryCell id).get s).emitter with
  | none => exact guarantees_done ()
  | some emitter => exact discreet_deliver hhost hreceive emitter _

/-- **A step of a callback** changes the registry by events alone. -/
theorem discreet_answer (step : Step) : (answer host step).Discreet := by
  cases step with
  | provider id script => exact discreet_define host id script
  | hook id script => exact discreet_remember _
  | handler id script => exact discreet_remember _
  | client id domain =>
    exact Task.Discreet.bind (discreet_modifyWorld _) fun _ => discreet_look _
  | cloneClient id source =>
    exact Task.Discreet.bind (discreet_modifyWorld _) fun _ => discreet_look _
  | addHooks client hooks => exact discreet_changeScope client _
  | clearHooks client => exact discreet_changeScope client _
  | hookCount client => exact discreet_look _
  | setContext client ctx => exact discreet_changeScope client _
  | getContext client => exact discreet_look _
  | status domain => exact discreet_look _
  | clientStatus client => exact discreet_look _
  | bound domain => exact discreet_look _
  | addHandler client event handler =>
    refine Task.Discreet.bind (discreet_handlerIn client event handler) fun found => ?_
    exact Task.Discreet.bind (discreet_addHandler hhost found.1 event found.2)
      fun _ => guarantees_done _
  | removeHandler client event handler =>
    refine Task.Discreet.bind (discreet_handlerIn client event handler) fun found => ?_
    exact Task.Discreet.bind (discreet_removeHandler found.1 event found.2)
      fun _ => guarantees_done _
  | emit provider raised => exact discreet_emit hhost hreceive provider raised
  | updateFlags provider flags =>
    refine guarantees_get_bind fun s => ?_
    exact Task.Discreet.bind (discreet_updateFlags hhost hreceive _ flags)
      fun _ => guarantees_done _
  | flagKeys provider => exact discreet_look _
  | staticResolution flag => exact discreet_look _
  | attach provider =>
    refine guarantees_get_bind fun s => ?_
    exact Task.Discreet.bind ((hhost.provider s _).attach _) fun _ => guarantees_done _
  | detach provider =>
    refine guarantees_get_bind fun s => ?_
    exact Task.Discreet.bind (hhost.provider s _).detach fun _ => guarantees_done _
  | raise raised => exact Task.Discreet.bind (hreceive 0 raised) fun _ => guarantees_done _
  | release gate permits => exact discreet_remember _
  | counts provider => exact discreet_look _
  | setProviderHooks provider hooks => exact discreet_remember _
  | providerHookCount provider => exact discreet_look _
  | inspect subject => exact discreet_look _
  | call call => exact guarantees_done _
  | start name call => exact guarantees_done _
  | poll name => exact guarantees_done _
  | finish name => exact guarantees_done _

end Steps

/-! ### Applications -/

/-- **Every scripted application is discreet**, however deep its callbacks nest. -/
theorem application_discreet (depth : Nat) : (application depth).Discreet := by
  induction depth with
  | zero => exact host_discreet fun _ => guarantees_done _
  | succ depth ih =>
    apply host_discreet
    intro step
    refine discreet_answer ih ?_ step
    intro number raised
    cases depth with
    | zero => exact discreet_trace _
    | succ depth => exact discreet_trace _

end Scripted

end FeatureFlags
