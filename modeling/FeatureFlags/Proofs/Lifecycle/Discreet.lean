import FeatureFlags.Provider.Blocking
import FeatureFlags.Provider.Multi
import FeatureFlags.Proofs.Lifecycle.Keeping
import Mathlib.Logic.Relation

/-!
# Callbacks that leave the bindings alone

The providers and handlers of an application may do what they like, except that they do not
touch the registry but by announcing events.  A callback that itself binds a provider is no
exception: what it starts is a call of its own, and it waits for that call as for anything
else.

## Main definitions

* `Task.Discreet` — a task that changes the registry by announcing events alone.
* `Host.Discreet` — an application whose callbacks are discreet.

## Main results

* `discreet_deliver` — an event that is sent through an emitter is no more than announced.
* `InMemory.discreet`, `BlockingProvider.toProvider_discreet`,
  `MultiProvider.toProvider_discreet` — **the providers of the library are discreet**, if
  those of the application are from which they are made.
-/

namespace FeatureFlags

open Api (State)
open FeatureFlags.Task (Guarantees guarantees_all guarantees_done guarantees_each
  guarantees_get_bind guarantees_modify)

variable {W α β : Type}

/-- A change of the registry by any number of events. -/
def Registry.Announced : Registry → Registry → Prop :=
  Relation.ReflTransGen fun r r' => ∃ id event code, r' = (r.announce id event code).getD r

/-- A task that changes the registry by announcing events alone. -/
def Task.Discreet (t : Task (State W) α) : Prop :=
  t.Guarantees fun s s' => Registry.Announced s.registry s'.registry

/-- A provider whose lifecycle is discreet. -/
structure Provider.Discreet (p : Provider (State W)) : Prop where
  attach : ∀ emitter, (p.attach emitter).Discreet
  startUp : ∀ ctx, (p.startUp ctx).Discreet
  detach : p.detach.Discreet
  shutDown : p.shutDown.Discreet

/-- An application whose providers and handlers are discreet. -/
structure Host.Discreet (host : Host W) : Prop where
  provider : ∀ s number, (host.provider s number).Discreet
  handle : ∀ handler details, (host.handle handler details).Discreet

/-! ### Tasks that are discreet -/

/-- A change of the state that leaves the registry as it is. -/
theorem discreet_modify {f : State W → State W} (h : ∀ s, (f s).registry = s.registry) :
    (Task.modify f).Discreet :=
  guarantees_modify fun s => (h s).symm ▸ .refl

/-- A report is no event of a provider. -/
theorem announced_log (host : Host W) (entry : LogEntry) (s : State W) :
    Registry.Announced s.registry (host.log entry s).registry := .refl

theorem discreet_log (host : Host W) (entry : LogEntry) : (Task.log host.log entry).Discreet :=
  guarantees_modify (announced_log host entry)

/-- One discreet task after the other. -/
theorem Task.Discreet.bind {t : Task (State W) α} {f : α → Task (State W) β} (ht : t.Discreet)
    (hf : ∀ a, (f a).Discreet) : (t >>= f).Discreet :=
  Guarantees.bind ht hf

/-! ### Events -/

section Events

variable {host : Host W}

/-- An event is no more than announced. -/
theorem announced_of_announce (s : State W) (id : ProviderId) (event : ProviderEvent)
    (code : Option ErrorCode) (registry : Registry)
    (h : s.registry.announce id event code = some registry) :
    Registry.Announced s.registry registry := by
  refine .single ⟨id, event, code, ?_⟩
  rw [h]
  rfl

theorem discreet_runHandler (hhost : host.Discreet) (event : ProviderEvent)
    (details : EventDetails) (handler : HandlerId) :
    (Api.runHandler host event details handler).Discreet :=
  Api.runHandler_guarantees (announced_log host) event (hhost.handle handler details)

theorem discreet_tellRecipients (hhost : host.Discreet) (event : ProviderEvent)
    (details : EventDetails) (serves : Option String → Bool) :
    ((Api.lookUpRecipients event serves).bind fun recipients =>
      Task.each (Api.runHandler host event details) recipients).Discreet :=
  Api.tellRecipients_guarantees (announced_log host) hhost.handle event details serves

/-- **An event that is sent through an emitter** is no more than announced, by however many
relays it is passed on. -/
theorem discreet_deliver (hhost : host.Discreet)
    (hreceive : ∀ number raised, (host.receive number raised).Discreet) (emitter : Emitter)
    (raised : RaisedEvent) : (Api.deliver host emitter raised).Discreet :=
  Api.deliver_guarantees (announced_log host) hhost.handle announced_of_announce
    (fun _ _ _ => .refl) hreceive emitter raised

end Events

/-! ### The providers of the library -/

theorem NoOp.discreet : (NoOp.provider (State W)).Discreet where
  attach _ := guarantees_done ()
  startUp _ := guarantees_done _
  detach := guarantees_done ()
  shutDown := guarantees_done _

/-- The default that the registry makes for itself is as discreet as the providers of the
application. -/
theorem Host.Discreet.providerOf {host : Host W} (hhost : host.Discreet) (s : State W)
    (id : ProviderId) : (host.providerOf s id).Discreet := by
  cases id with
  | application number => exact hhost.provider s number
  | builtin generation => exact NoOp.discreet

theorem InMemory.discreet (id : ProviderId) :
    (InMemory.provider (Api.memoryCell id : Cell (State W) InMemory)).Discreet where
  attach _ := discreet_modify fun _ => rfl
  startUp _ := guarantees_done _
  detach := discreet_modify fun _ => rfl
  shutDown := guarantees_done _

/-- What becomes of a blocking call that has ended announces nothing. -/
theorem BlockingProvider.discreet_conclude {host : Host W} (name operation : String)
    (outcome : Outcome α) :
    (BlockingProvider.conclude host.log name operation outcome).Discreet := by
  cases outcome with
  | returned a => exact guarantees_done _
  | failed e => exact guarantees_done _
  | panicked p => exact (discreet_log host _).bind fun _ => guarantees_done _

/-- A blocking call changes the registry as its thread does. -/
theorem BlockingProvider.discreet_call {host : Host W} (name operation : String)
    {f : State W → Outcome α × State W}
    (hf : ∀ s, Registry.Announced s.registry (f s).2.registry) :
    (BlockingProvider.call host.log name operation f).Discreet :=
  (Task.guarantees_onThread hf).bind (discreet_conclude name operation)

/-- **A provider written against blocking calls** is discreet if its calls are. -/
theorem BlockingProvider.toProvider_discreet {host : Host W} {p : BlockingProvider (State W)}
    (hattach : ∀ emitter s, Registry.Announced s.registry (p.attach emitter s).registry)
    (hstartUp : ∀ ctx s, Registry.Announced s.registry (p.startUp ctx s).2.registry)
    (hdetach : ∀ s, Registry.Announced s.registry (p.detach s).registry)
    (hshutDown : ∀ s, Registry.Announced s.registry (p.shutDown s).2.registry) :
    (p.toProvider host.log).Discreet where
  attach emitter := guarantees_modify (hattach emitter)
  startUp ctx := discreet_call _ _ (hstartUp ctx)
  detach := guarantees_modify hdetach
  shutDown := discreet_call _ _ hshutDown

/-- **A multi-provider** is discreet if its sub-providers are. -/
theorem MultiProvider.toProvider_discreet {host : Host W} {id : ProviderId}
    {m : MultiProvider (State W)} (hsubs : ∀ sub ∈ m.subs, sub.provider.Discreet) :
    (m.toProvider host.log (Api.relayCell id)).Discreet where
  attach emitter := by
    refine (discreet_modify fun _ => rfl).bind fun _ => ?_
    exact guarantees_each fun sub hsub => (hsubs sub hsub).attach _
  startUp ctx := by
    refine Guarantees.bind (guarantees_all fun t ht => ?_) fun outcomes => ?_
    · obtain ⟨sub, hsub, rfl⟩ := List.mem_map.mp ht
      exact (hsubs sub hsub).startUp ctx
    · refine Guarantees.bind (guarantees_each fun e _ => discreet_modify fun _ => rfl) fun _ => ?_
      split
      · exact guarantees_done _
      · exact guarantees_done _
  detach := by
    refine Guarantees.bind (guarantees_each fun sub hsub => (hsubs sub hsub).detach) fun _ => ?_
    exact discreet_modify fun _ => rfl
  shutDown := by
    refine Guarantees.bind (guarantees_all fun t ht => ?_) fun outcomes => ?_
    · obtain ⟨sub, hsub, rfl⟩ := List.mem_map.mp ht
      exact (hsubs sub hsub).shutDown
    · refine Guarantees.bind (guarantees_each ?_) fun _ => guarantees_done _
      rintro ⟨sub, result⟩ -
      cases result with
      | ok => exact discreet_modify fun _ => rfl
      | error e => exact (discreet_log host _).bind fun _ => discreet_modify fun _ => rfl

end FeatureFlags
