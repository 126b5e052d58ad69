import FeatureFlags.Proofs.Events.FanOut
import FeatureFlags.Proofs.Lifecycle.Keeping
import Mathlib.Data.List.Induction

/-!
# Handlers that are added late and removed again

A handler that is added runs at once for the instances whose status stands for its event already:
of those that are bound each one counts once, however many domains it is bound to, and for a client
there is the one that its domain resolves to.  From then on it runs for every event that concerns
it, once for each time it was added, until it is removed.

Global handlers and those of clients are kept apart.  What both have in common is told through
registrations, each of which says whom it is for, and by the changes that are made to them.

## Main definitions

* `Registration`, `EventHandlers.registrations` — the registrations there are.
* `EventHandlers.Change`, `EventHandlers.after` — registrations that are added and removed.
* `EventHandlers.standing` — the registrations that have been added and not been removed since.
* `Api.Enrolled` — an instance on which registrations have come and gone.
* `Registry.Late` — the instances that a new global handler runs for.
* `Api.addHandlerNoted` — a handler that is added, with its runs noted.

## Main results

* `EventHandlers.after_perm_standing` — the registrations there are are those that stand.
* `Api.Enrolled.handlers` — however an instance is used, its registrations are those that have been
  made on it.
* `Api.dispatchNoted_tells_standing` — an event runs a handler once for each registration that
  stands and is concerned.
* `Api.sparing` — no other call on an instance touches the registrations.
* `Api.late_handlers` — **what adding and removing a handler does.**
-/

namespace FeatureFlags

/-- The instances that a registration is for. -/
inductive Audience where
  | everyone
  /-- The instance that the domain of a client resolves to. -/
  | domain (domain : Option String)
deriving DecidableEq

/-- A handler with the event that it is registered for. -/
structure Registration where
  audience : Audience
  event : ProviderEvent
  handler : HandlerId
deriving DecidableEq

/-- What a caller registers: for all instances, or for the one of a client. -/
def Registration.by (client : Option Client) (event : ProviderEvent) (handler : HandlerId) :
    Registration :=
  ⟨match client with
    | none => .everyone
    | some c => .domain c.domain, event, handler⟩

namespace EventHandlers

/-! ### Registrations that come and go -/

/-- The registrations there are. -/
def registrations (h : EventHandlers) : List Registration :=
  h.global.map (fun g => ⟨.everyone, g.1, g.2⟩) ++
    h.clients.map fun c => ⟨.domain c.domain, c.event, c.handler⟩

/-- A change of the registrations. -/
inductive Change where
  | add (r : Registration)
  | remove (r : Registration)
deriving DecidableEq

/-- The registrations after a change. -/
def change (h : EventHandlers) : Change → EventHandlers
  | .add ⟨.everyone, event, handler⟩ => h.addGlobal event handler
  | .add ⟨.domain domain, event, handler⟩ => h.addClient domain event handler
  | .remove ⟨.everyone, event, handler⟩ => h.removeGlobal event handler
  | .remove ⟨.domain domain, event, handler⟩ => h.removeClient domain event handler

/-- The registrations after a number of changes, from none on. -/
def after (changes : List Change) : EventHandlers := changes.foldl change empty

/-- The registrations that have been added and not been removed since, in order. -/
def standing : List Change → List Registration
  | [] => []
  | .add r :: later => if .remove r ∈ later then standing later else r :: standing later
  | .remove _ :: later => standing later

theorem registrations_add (h : EventHandlers) (r : Registration) :
    (h.change (.add r)).registrations.Perm (h.registrations ++ [r]) := by
  obtain ⟨audience, event, handler⟩ := r
  cases audience with
  | domain domain => simp [change, addClient, registrations]
  | everyone =>
    simp only [change, addGlobal, registrations, List.map_append, List.map_singleton,
      List.append_assoc]
    exact List.perm_append_comm.append_left _

/-- **Whatever is equal to a registration is removed with it, and nothing else.** -/
theorem registrations_remove (h : EventHandlers) (r : Registration) :
    (h.change (.remove r)).registrations = h.registrations.filter (· ≠ r) := by
  obtain ⟨audience, event, handler⟩ := r
  have hglobal : ∀ g : ProviderEvent × HandlerId,
      (⟨.everyone, g.1, g.2⟩ : Registration) = ⟨.everyone, event, handler⟩ ↔
        g = (event, handler) := by
    simp [Prod.ext_iff]
  cases audience with
  | domain domain =>
    have hclient : ∀ c : ClientRegistration,
        (⟨.domain c.domain, c.event, c.handler⟩ : Registration) =
            ⟨.domain domain, event, handler⟩ ↔ c = ⟨domain, event, handler⟩ := by
      rintro ⟨domain', event', handler'⟩
      simp
    simp [change, removeClient, registrations, List.filter_map, Function.comp_def, hclient]
  | everyone =>
    simp [change, removeGlobal, registrations, List.filter_map, Function.comp_def, hglobal]

theorem after_concat (changes : List Change) (c : Change) :
    after (changes ++ [c]) = (after changes).change c := by
  rw [after, List.foldl_append]
  rfl

/-- What comes later removes registrations and adds its own. -/
theorem standing_append (earlier later : List Change) :
    standing (earlier ++ later) =
      (standing earlier).filter (fun r => .remove r ∉ later) ++ standing later := by
  induction earlier with
  | nil => rfl
  | cons c rest ih =>
    cases c with
    | remove => exact ih
    | add r =>
      rw [List.cons_append, standing, standing, ih]
      by_cases hrest : Change.remove r ∈ rest
      · simp [hrest]
      · by_cases hlater : Change.remove r ∈ later <;> simp [hrest, hlater]

theorem standing_concat_add (changes : List Change) (r : Registration) :
    standing (changes ++ [.add r]) = standing changes ++ [r] := by
  simp [standing_append, standing]

theorem standing_concat_remove (changes : List Change) (r : Registration) :
    standing (changes ++ [.remove r]) = (standing changes).filter (· ≠ r) := by
  simp [standing_append, standing]

/-- A registration stands once more until it is removed. -/
theorem standing_add_perm (earlier : List Change) {later : List Change} {r : Registration}
    (h : .remove r ∉ later) :
    (standing (earlier ++ .add r :: later)).Perm (r :: standing (earlier ++ later)) := by
  simp only [standing_append, standing, if_neg h, List.mem_cons, reduceCtorEq, false_or]
  exact List.perm_middle

/-- A registration that has been removed is as if it had never been added. -/
theorem standing_add_removed (earlier : List Change) {later : List Change} {r : Registration}
    (h : .remove r ∈ later) :
    standing (earlier ++ .add r :: later) = standing (earlier ++ later) := by
  simp [standing_append, standing, h]

/-- **The registrations there are are those that stand.** -/
theorem after_perm_standing (changes : List Change) :
    (after changes).registrations.Perm (standing changes) := by
  induction changes using List.reverseRecOn with
  | nil => exact .nil
  | append_singleton changes c ih =>
    rw [after_concat]
    cases c with
    | add r =>
      rw [standing_concat_add]
      exact (registrations_add _ r).trans (ih.append_right [r])
    | remove r =>
      rw [standing_concat_remove, registrations_remove]
      exact ih.filter _

end EventHandlers

/-! ### Instances that a new handler runs for -/

namespace Registry

variable {r : Registry} {event : ProviderEvent}

/-- The instances that a new global handler runs for: every bound one whose status stands for the
event, once, and the default before all others. -/
structure Late (r : Registry) (event : ProviderEvent) (late : List ProviderRef) : Prop where
  bound : ∀ p ∈ late, p ∈ r.bindings
  once : (late.map (·.id)).Nodup
  matching : ∀ id, id ∈ late.map (·.id) ↔
    r.isBound id = true ∧ (r.statusOf id).matchingEvent? = some event
  defaultFirst : (r.statusOf r.defaultProvider.id).matchingEvent? = some event →
    late.head? = some r.defaultProvider

theorem mem_of_mem_distinct {seen : List ProviderId} {refs : List ProviderRef} {p : ProviderRef}
    (h : p ∈ distinct seen refs) : p ∈ refs := by
  induction refs generalizing seen with
  | nil => exact h
  | cons q rest ih =>
    rw [distinct] at h
    split at h
    · exact List.mem_cons_of_mem _ (ih h)
    · rcases List.mem_cons.mp h with rfl | hrest
      · exact List.mem_cons_self
      · exact List.mem_cons_of_mem _ (ih hrest)

theorem boundProviders_perm (r : Registry) : r.boundProviders.Perm (distinct [] r.bindings) :=
  (List.mergeSort_perm _ _).cons r.defaultProvider

/-- The bound instances whose status stands for an event are those that count. -/
theorem late_boundProviders (r : Registry) (event : ProviderEvent) :
    r.Late event (r.boundProviders.filter fun p =>
      (r.statusOf p.id).matchingEvent? == some event) where
  bound p hp := mem_of_mem_distinct (r.boundProviders_perm.mem_iff.mp (List.mem_of_mem_filter hp))
  once := by
    have hall : (r.boundProviders.map (·.id)).Nodup :=
      (r.boundProviders_perm.map _).nodup_iff.mpr r.nodup_boundIds
    exact hall.sublist (List.filter_sublist.map _)
  matching id := by
    have hbound : id ∈ r.boundProviders.map (·.id) ↔ r.isBound id = true :=
      (r.boundProviders_perm.map _).mem_iff.trans mem_boundIds
    rw [← hbound]
    simp only [List.mem_map, List.mem_filter, beq_iff_eq]
    constructor
    · rintro ⟨p, ⟨hp, hmatch⟩, rfl⟩
      exact ⟨⟨p, hp, rfl⟩, hmatch⟩
    · rintro ⟨⟨p, hp, rfl⟩, hmatch⟩
      exact ⟨p, ⟨hp, hmatch⟩, rfl⟩
  defaultFirst hmatch := by
    obtain ⟨rest, hrest⟩ : ∃ rest, r.boundProviders = r.defaultProvider :: rest := ⟨_, rfl⟩
    rw [hrest, List.filter_cons, if_pos (beq_iff_eq.mpr hmatch)]
    rfl

end Registry

/-! ### Instances on which registrations come and go -/

namespace Api

variable {W : Type}

/-- The state after a change of the registrations. -/
def reregister (c : EventHandlers.Change) (s : State W) : State W :=
  { s with handlers := s.handlers.change c }

/-- A state of an instance on which registrations have been changed so, one after the other.
Whatever else has happened to it has left the registrations alone. -/
inductive Enrolled : List EventHandlers.Change → State W → Prop where
  | fresh (world : W) : Enrolled [] (.fresh world)
  | change {changes : List EventHandlers.Change} {s : State W} (h : Enrolled changes s)
      (c : EventHandlers.Change) : Enrolled (changes ++ [c]) (reregister c s)
  | elsewhere {changes : List EventHandlers.Change} {s s' : State W} (h : Enrolled changes s)
      (hsame : s'.handlers = s.handlers) : Enrolled changes s'

/-- **The registrations of an instance are those that have been made on it.** -/
theorem Enrolled.handlers {changes : List EventHandlers.Change} {s : State W}
    (h : Enrolled changes s) : s.handlers = .after changes := by
  induction h with
  | fresh world => rfl
  | change h c ih =>
    rw [EventHandlers.after_concat, ← ih]
    rfl
  | elsewhere h hsame ih => exact hsame.trans ih

/-- Registrations may be changed any number of times in a row. -/
theorem Enrolled.later {changes : List EventHandlers.Change} {s : State W}
    (h : Enrolled changes s) (later : List EventHandlers.Change) :
    Enrolled (changes ++ later) (later.foldl (fun s c => reregister c s) s) := by
  induction later generalizing changes s with
  | nil => exact (List.append_nil changes).symm ▸ h
  | cons c rest ih =>
    have hrest := ih (h.change c)
    rw [List.append_assoc] at hrest
    exact hrest

/-- A change that leaves the registrations alone, or is of some kind that callbacks keep to. -/
def Spares (step : State W → State W → Prop) (s s' : State W) : Prop :=
  s'.handlers = s.handlers ∨ step s s'

/-- The calls on an instance that are not about handlers make changes that spare the registrations,
apart from those of some kind. -/
structure Sparing (host : Host W) (step : State W → State W → Prop) : Prop where
  setProvider : ∀ domain p, (setProvider host domain p).Guarantees (Spares step)
  clearProviders : (clearProviders host).Guarantees (Spares step)
  deliver : ∀ emitter raised, (deliver host emitter raised).Guarantees (Spares step)
  evaluate : ∀ (client : Client) (flagType : FlagType) flagKey defaultValue ctx options,
    (client.evaluate host flagType flagKey defaultValue ctx options).Guarantees (Spares step)

/-- **No other call touches the registrations**, apart from what the callbacks do that it runs. -/
theorem sparing {host : Host W} {step : State W → State W → Prop} (hhost : host.Keeps step) :
    Sparing host step := by
  have hspares : host.Keeps (Spares step) := hhost.mono fun _ _ => .inr
  have hlog : ∀ entry s, Spares step s (host.log entry s) := fun _ _ => .inl rfl
  have hregistry : ∀ (s : State W) registry, Spares step s { s with registry } :=
    fun _ _ => .inl rfl
  refine ⟨setProvider_guarantees hlog hregistry hspares,
    clearProviders_guarantees hlog hregistry hspares, ?_,
    Client.evaluate_guarantees hlog hspares⟩
  exact deliver_guarantees hlog hspares.handle (fun s _ _ _ registry _ => hregistry s registry)
    (fun _ _ _ => .inl rfl) hspares.receive

/-! ### Events -/

/-- Whether an event of an instance concerns a registration. -/
def concerns (registry : Registry) (id : ProviderId) (event : ProviderEvent) (r : Registration) :
    Bool :=
  r.event == event &&
    match r.audience with
    | .everyone => true
    | .domain domain => (registry.resolve domain).id == id

/-- The recipients of an event are the handlers of the registrations that are concerned. -/
theorem recipients_perm (s : State W) (id : ProviderId) (event : ProviderEvent) :
    (s.handlers.recipients event (serves s.registry id)).Perm
      ((s.handlers.registrations.filter (concerns s.registry id event)).map (·.handler)) := by
  obtain ⟨told, hperm, -, hrecipients⟩ := recipients_eq s id event
  have hconcerned :
      (s.handlers.registrations.filter (concerns s.registry id event)).map (·.handler) =
        (s.handlers.global.filter (·.1 == event)).map (·.2) ++
          (concerned s id event).map (·.handler) := by
    simp [EventHandlers.registrations, concerned, concerns, List.filter_map, Function.comp_def]
  rw [hrecipients, hconcerned]
  exact (hperm.map _).append_left _

/-- **An event of a bound instance runs a handler once for each registration of it** that stands
and that the event concerns. -/
theorem dispatchNoted_tells_standing (host : Host W) {s : State W}
    {changes : List EventHandlers.Change} (henrolled : Enrolled changes s)
    {id : ProviderId} (hbound : s.registry.isBound id = true) (raised : RaisedEvent) :
    (dispatchNoted host id raised).Ensures (Cell.first _ _).Confined
      (fun _ q => (q.2.map Telling.told).Perm
        (((EventHandlers.standing changes).filter (concerns s.registry id raised.event)).map
          fun r => (r.handler, nameProvider s.registry id raised.details))) (s, []) := by
  have hstanding := EventHandlers.after_perm_standing changes
  rw [← henrolled.handlers] at hstanding
  refine (dispatchNoted_tells hbound).mono fun _ q hq => ?_
  have hrecipients := (recipients_perm s id raised.event).trans
    ((hstanding.filter (concerns s.registry id raised.event)).map _)
  rw [hq]
  simpa [Function.comp_def] using
    hrecipients.map fun handler => (handler, nameProvider s.registry id raised.details)

/-! ### Adding and removing -/

/-- The providers that a new handler may run for at once, with their statuses. -/
def candidates (registry : Registry) : Option Client → List (ProviderRef × ProviderStatus)
  | none => registry.boundProviders.map fun p => (p, registry.statusOf p.id)
  | some c => [registry.resolveWithStatus c.domain]

/-- A handler is added in one step, and then it runs for some of the candidates. -/
theorem addHandler_eq (host : Host W) (client : Option Client) (event : ProviderEvent)
    (handler : HandlerId) :
    addHandler host client event handler =
      (Task.modify (reregister (.add (.by client event handler)))).bind fun _ =>
        Task.get.bind fun s => runLate host event handler (candidates s.registry client) := by
  cases client with
  | none => rfl
  | some c => rfl

/-- A handler is removed in one step. -/
theorem removeHandler_eq (client : Option Client) (event : ProviderEvent) (handler : HandlerId) :
    (removeHandler client event handler : Task (State W) Unit) =
      Task.modify (reregister (.remove (.by client event handler))) := by
  cases client with
  | none => rfl
  | some c => rfl

/-- Adds a handler, each run of which is noted. -/
def addHandlerNoted (host : Host W) (client : Option Client) (event : ProviderEvent)
    (handler : HandlerId) : Task (State W × List Telling) Unit := do
  Task.modify fun p => (reregister (.add (.by client event handler)) p.1, p.2)
  let p ← Task.get
  Task.each
    (fun (p, _) => runHandlerNoted host event (EventDetails.empty.withProviderName p.name) handler)
    ((candidates p.1.registry client).filter fun (_, status) =>
      status.matchingEvent? == some event)

/-- **A handler is added in the same way whether its runs are noted or not.** -/
theorem addHandlerNoted_mimics (host : Host W) (client : Option Client) (event : ProviderEvent)
    (handler : HandlerId) :
    Task.Mimics True Eq (addHandlerNoted host client event handler)
      (addHandler host client event handler) := by
  rw [addHandler_eq]
  refine (Task.mimics_modify (reregister _) fun p => p.2).bind fun _ _ _ => ?_
  refine Task.mimics_get fun p => ?_
  exact Task.mimics_each (fun i => runHandlerNoted_mimics host event _ handler) _

/-- The instances that a handler that is added runs for at once: a global one for the bound
instances whose status stands for the event, and one of a client for the instance that its domain
resolves to if its status does. -/
def RunsFor (registry : Registry) (event : ProviderEvent) :
    Option Client → List ProviderRef → Prop
  | none, late => registry.Late event late
  | some c, late => late =
      if (registry.statusOf (registry.resolve c.domain).id).matchingEvent? = some event then
        [registry.resolve c.domain]
      else []

theorem runsFor_candidates (registry : Registry) (event : ProviderEvent)
    (client : Option Client) :
    RunsFor registry event client (((candidates registry client).filter fun (_, status) =>
      status.matchingEvent? == some event).map (·.1)) := by
  cases client with
  | none =>
    have hlate : ((candidates registry none).filter fun (_, status) =>
        status.matchingEvent? == some event).map (·.1) = registry.boundProviders.filter fun p =>
          (registry.statusOf p.id).matchingEvent? == some event := by
      simp [candidates, List.filter_map, Function.comp_def]
    rw [hlate]
    exact registry.late_boundProviders event
  | some c =>
    rw [RunsFor, candidates, Registry.resolveWithStatus, List.filter_cons, List.filter_nil]
    by_cases hmatch :
      (registry.statusOf (registry.resolve c.domain).id).matchingEvent? = some event
    · simp [hmatch]
    · simp [hmatch]

/-- A handler that is added runs once for each of the instances that it runs for, which it is given
the name of. -/
theorem addHandlerNoted_tells (host : Host W) (client : Option Client) (event : ProviderEvent)
    (handler : HandlerId) (s : State W) :
    ∃ late, RunsFor s.registry event client late ∧
      (addHandlerNoted host client event handler).Ensures (Cell.first _ _).Confined
        (fun _ q => q.2.map Telling.told = late.map fun p =>
          (handler, EventDetails.empty.withProviderName p.name)) (s, []) := by
  refine ⟨_, runsFor_candidates s.registry event client, ?_⟩
  rw [addHandlerNoted]
  refine (Task.ensures_bind _ _ _ _).mpr ((Task.ensures_modify _ _ _).mpr ?_)
  refine (Task.ensures_get_bind _ _ _).mpr ?_
  refine (each_tells host event _ (fun _ => handler) _ _).mono ?_
  rintro _ q ⟨tellings, hq, htold⟩
  rw [hq, List.nil_append, htold, List.map_map]
  rfl

/-- A change that registers a handler or keeps a report, and leaves the registry as it is. -/
def Registers (host : Host W) (r : Registration) (s s' : State W) : Prop :=
  s'.registry = s.registry ∧ (s' = reregister (.add r) s ∨ ∃ entry, s' = host.log entry s)

/-- What adding a handler changes is that it is registered; the rest is what the handler does when
it runs. -/
theorem addHandler_guarantees (host : Host W) (client : Option Client) (event : ProviderEvent)
    (handler : HandlerId) {step : State W → State W → Prop}
    (hhandle : ∀ details, (host.handle handler details).Guarantees step) :
    (addHandler host client event handler).Guarantees fun s s' =>
      Registers host (.by client event handler) s s' ∨ step s s' := by
  have hrun : ∀ details, (runHandler host event details handler).Guarantees fun s s' =>
      Registers host (.by client event handler) s s' ∨ step s s' :=
    fun details => runHandler_guarantees (fun entry s => .inl ⟨rfl, .inr ⟨entry, rfl⟩⟩) event
      ((hhandle details).mono fun _ _ => .inr)
  rw [addHandler_eq]
  refine Task.Guarantees.bind (Task.guarantees_modify fun s => .inl ⟨rfl, .inl rfl⟩) fun _ => ?_
  exact Task.guarantees_get_bind fun s => Task.guarantees_each fun _ _ => hrun _

/-- Whatever meddles here, the bindings stay as they are. -/
theorem meddling_keeps : meddling.Keeps fun s s' => s'.registry = s.registry where
  provider _ _ := NoOp.keeps _
  hook _ _ :=
    { before := fun _ _ _ => Task.guarantees_done _
      after := fun _ _ _ _ => Task.guarantees_done _
      error := fun _ _ _ _ => Task.guarantees_done _
      finish := fun _ _ _ => Task.guarantees_done _ }
  handle handler details := by
    change (if handler.number = 1 then _ else _ : Task (State Unit) _).Guarantees _
    split
    · exact Task.guarantees_done _
    · split
      · exact Task.Guarantees.bind (Task.guarantees_modify fun _ => rfl) fun _ =>
          Task.guarantees_done none
      · exact Task.guarantees_done none
  receive _ _ := Task.guarantees_done ()

/-- Handlers come and go: one that is added twice for all providers is removed again, and others
stay. -/
def comingAndGoing (host : Host W) : Task (State W) Unit := do
  addHandler host none .ready ⟨3⟩
  addHandler host (some ⟨0, some "a"⟩) .ready ⟨3⟩
  addHandler host none .ready ⟨3⟩
  removeHandler none .ready ⟨3⟩
  addHandler host none .ready ⟨4⟩
  addHandler host (some ⟨1, some "b"⟩) .ready ⟨5⟩

open EventHandlers (standing) in
/-- **What adding and removing a handler does.**  When it is added, a handler runs at once, exactly
once for each bound instance whose status stands for the event and first for the default, or for a
client once if its instance does, and is given the name of the instance; the registration itself
changes nothing else, in the registry or elsewhere.  From then on every event that concerns it runs
it once more for each time it was added, whatever other calls there are, until it is removed, which
removes all its registrations for that event and that audience and no others. -/
theorem late_handlers (host : Host W) (client : Option Client) (event : ProviderEvent)
    (handler : HandlerId) :
    let r := Registration.by client event handler
    Task.Mimics True Eq (addHandlerNoted host client event handler)
      (addHandler host client event handler) ∧
    (∀ s : State W, ∃ late, RunsFor s.registry event client late ∧
      (addHandlerNoted host client event handler).Ensures (Cell.first _ _).Confined
        (fun _ q => q.2.map Telling.told = late.map fun p =>
          (handler, EventDetails.empty.withProviderName p.name)) (s, [])) ∧
    (∀ s : State W, ((addHandler host client event handler).advance s).2 = reregister (.add r) s) ∧
    (∀ step : State W → State W → Prop,
      (∀ details, (host.handle handler details).Guarantees step) →
      (addHandler host client event handler).Guarantees fun s s' =>
        Registers host r s s' ∨ step s s') ∧
    (removeHandler client event handler : Task (State W) Unit) =
      Task.modify (reregister (.remove r)) ∧
    (∀ step, host.Keeps step → Sparing host step) ∧
    (∀ earlier later,
      (.remove r ∉ later →
        (standing (earlier ++ .add r :: later)).Perm (r :: standing (earlier ++ later))) ∧
      (.remove r ∈ later → standing (earlier ++ .add r :: later) = standing (earlier ++ later)) ∧
      standing (earlier ++ [.remove r]) = (standing earlier).filter (· ≠ r)) ∧
    ∀ (changes : List EventHandlers.Change) (s : State W) (id : ProviderId) (raised : RaisedEvent),
      Enrolled changes s → s.registry.isBound id = true →
      Task.Mimics True Eq (dispatchNoted host id raised) (dispatch host id raised) ∧
      (dispatchNoted host id raised).Ensures (Cell.first _ _).Confined
        (fun _ q => (q.2.map Telling.told).Perm
          (((standing changes).filter (concerns s.registry id raised.event)).map
            fun r => (r.handler, nameProvider s.registry id raised.details))) (s, []) := by
  intro r
  refine ⟨addHandlerNoted_mimics host client event handler,
    addHandlerNoted_tells host client event handler, ?_,
    fun step => addHandler_guarantees host client event handler,
    removeHandler_eq client event handler, fun _ => sparing,
    fun earlier later => ⟨EventHandlers.standing_add_perm earlier,
      EventHandlers.standing_add_removed earlier, EventHandlers.standing_concat_remove earlier r⟩,
    fun changes s id raised henrolled hbound => ⟨dispatchNoted_mimics host id raised,
      dispatchNoted_tells_standing host henrolled hbound raised⟩⟩
  intro s
  rw [addHandler_eq]
  rfl

open EventHandlers (standing) in
/-- A provider is bound to the domain `a`.  When it gets ready, the handler that has been removed
runs for the client of that domain still, and the one that was added later for all. -/
theorem told_after_removal :
    let changes : List EventHandlers.Change :=
      [.add ⟨.everyone, .ready, ⟨3⟩⟩, .add ⟨.domain (some "a"), .ready, ⟨3⟩⟩,
        .add ⟨.everyone, .ready, ⟨3⟩⟩, .remove ⟨.everyone, .ready, ⟨3⟩⟩,
        .add ⟨.everyone, .ready, ⟨4⟩⟩, .add ⟨.domain (some "b"), .ready, ⟨5⟩⟩]
    let registry := (Registry.bind (.fresh 0) (.domain "a") ⟨.application 1, "first"⟩).1
    let s := ((comingAndGoing meddling).run { State.fresh () with registry }).2
    Enrolled changes s ∧ s.registry.isBound (.application 1) = true ∧
      (((dispatchNoted meddling (.application 1) .ready).run (s, [])).2.2.map Telling.told).Perm
        [(⟨3⟩, EventDetails.empty.withProviderName "first"),
          (⟨4⟩, EventDetails.empty.withProviderName "first")] ∧
      Sparing meddling (fun s s' => s'.registry = s.registry) ∧
      (addHandler meddling none .ready ⟨3⟩).Guarantees (fun s s' =>
        Registers meddling ⟨.everyone, .ready, ⟨3⟩⟩ s s' ∨ s'.registry = s.registry) := by
  intro changes registry s
  have hrefl : ∀ p : State Unit × List Telling, (Cell.first _ _).Confined p p := fun p => ⟨p.1, rfl⟩
  have hbound : s.registry.isBound (.application 1) = true := by decide +kernel
  have hfresh : Enrolled [] ({ State.fresh () with registry } : State Unit) :=
    .elsewhere (.fresh ()) rfl
  have henrolled : Enrolled changes s := (hfresh.later changes).elsewhere (by decide +kernel)
  have hconcerned : ((standing changes).filter (concerns s.registry (.application 1) .ready)).map
      (fun r => (r.handler, nameProvider s.registry (.application 1) EventDetails.empty)) =
      [(⟨3⟩, EventDetails.empty.withProviderName "first"),
        (⟨4⟩, EventDetails.empty.withProviderName "first")] := by decide +kernel
  obtain ⟨-, -, -, hregisters, -, hsparing, -, htells⟩ := late_handlers meddling none .ready ⟨3⟩
  have htold := Task.run_of_ensures hrefl (htells changes s _ .ready henrolled hbound).2
  rw [← hconcerned]
  exact ⟨henrolled, hbound, htold, hsparing _ meddling_keeps,
    hregisters _ (meddling_keeps.handle _)⟩

/-- A provider that is bound as the default and to two domains counts once. -/
example :
    let p : ProviderRef := ⟨.application 1, "first"⟩
    let bound := (((Registry.fresh 0).bind .default p).1.bind (.domain "a") p).1
    let ready := (bound.announce p.id .ready none).getD bound
    let s : State Unit := { State.fresh () with registry := (ready.bind (.domain "b") p).1 }
    ((addHandlerNoted meddling none .ready ⟨3⟩).run (s, [])).2.2.map Telling.told =
      [(⟨3⟩, EventDetails.empty.withProviderName "first")] := by
  decide +kernel

end Api

end FeatureFlags
