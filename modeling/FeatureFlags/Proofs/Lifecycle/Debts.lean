import FeatureFlags.Proofs.Lifecycle.Discreet
import FeatureFlags.Proofs.Lifecycle.Order
import FeatureFlags.Proofs.Lifecycle.Recorded
import FeatureFlags.Proofs.Task.Advance

/-!
# What a call still has to do

A call that is under way owes duties.  Whatever the others do between any two of its changes
to the state, it does these duties, one after the other and nothing else, and then it ends.

## Main definitions

* `Lifecycle.Pays` — one change of the state, and the duties owed before and after it.
* `Lifecycle.Owes` — a task that does some duties, however the others go on.

## Main results

* `Lifecycle.owes_perform` — **a job does the duties that it asks for.**
* `Lifecycle.advance_bind`, `Lifecycle.advance_clear` — a call changes the bindings in its
  first step, and then owes what its jobs ask for.
* `Lifecycle.OwesFrom.advance` — an advance does at most one duty.
* `Lifecycle.OwesFrom.run` — a call that is run to its end does all that it owes.
-/

namespace FeatureFlags

open Api (State)

namespace Lifecycle

variable {W α β : Type}

/-! ### Owing duties -/

/-- What is seen of a duty that is done: the calls of providers, but not the steps of the
registry. -/
def Duty.seen (duty : Duty) : History := if duty.stage.isCall then [.did duty] else []

/-- What is seen of some duties tells only of them. -/
theorem exists_of_mem_seen {duties : List Duty} {note : Note}
    (h : note ∈ duties.flatMap Duty.seen) : ∃ duty ∈ duties, note = .did duty := by
  obtain ⟨duty, hduty, hnote⟩ := List.mem_flatMap.mp h
  unfold Duty.seen at hnote
  split at hnote
  · exact ⟨duty, hduty, List.mem_singleton.mp hnote⟩
  · exact absurd hnote List.not_mem_nil

theorem mem_of_did_mem_seen {duties : List Duty} {duty : Duty}
    (h : .did duty ∈ duties.flatMap Duty.seen) : duty ∈ duties := by
  obtain ⟨other, hother, heq⟩ := exists_of_mem_seen h
  exact Note.did.inj heq ▸ hother

theorem count_seen {note : Note} (hnote : ∀ duty, note ≠ .did duty) (duties : List Duty) :
    (duties.flatMap Duty.seen).count note = 0 := by
  apply List.count_eq_zero_of_not_mem
  intro hmem
  obtain ⟨duty, -, heq⟩ := exists_of_mem_seen hmem
  exact hnote duty heq

/-- One change of the state, and the duties that are owed before and after it. -/
inductive Pays (s s' : Recorded W) : List Duty → List Duty → Prop
  /-- No duty is done; there may be events. -/
  | nothing {duties : List Duty} (hregistry : s.1.registry.Announced s'.1.registry)
      (hhistory : s'.2 = s.2) : Pays s s' duties duties
  | duty {duty : Duty} {rest : List Duty} (outcome : Except EvaluationError Unit)
      (hregistry : s'.1.registry = duty.apply outcome s.1.registry)
      (hhistory : s'.2 = s.2 ++ duty.seen) : Pays s s' (duty :: rest) rest

/-- From a state on, a task does some duties in order, whatever the others do meanwhile, and
then ends. -/
def OwesFrom : Task (Recorded W) α → List Duty → Recorded W → Prop
  | .done _, duties, _ => duties = []
  | .read next, duties, s => OwesFrom (next s) duties s
  | .write s' next, duties, s => ∃ rest, Pays s s' duties rest ∧ ∀ s'', OwesFrom next rest s''
  | .suspend next, duties, _ => ∀ s', OwesFrom next duties s'

/-- A task that does some duties in order, whatever the others do meanwhile, and then ends. -/
def Owes (t : Task (Recorded W) α) (duties : List Duty) : Prop := ∀ s, OwesFrom t duties s

theorem Pays.append {s s' : Recorded W} {duties rest : List Duty} (h : Pays s s' duties rest)
    (more : List Duty) : Pays s s' (duties ++ more) (rest ++ more) := by
  cases h with
  | nothing hregistry hhistory => exact .nothing hregistry hhistory
  | duty outcome hregistry hhistory => exact .duty outcome hregistry hhistory

theorem Pays.refl (s : Recorded W) (duties : List Duty) : Pays s s duties duties :=
  .nothing .refl rfl

/-- **The rule of sequencing**: what is owed by one task after the other. -/
theorem OwesFrom.bind {t : Task (Recorded W) α} {f : α → Task (Recorded W) β}
    {duties more : List Duty} {s : Recorded W} (ht : OwesFrom t duties s)
    (hf : ∀ a, Owes (f a) more) : OwesFrom (t.bind f) (duties ++ more) s := by
  induction t generalizing duties s with
  | done a =>
    rw [show duties = [] from ht]
    exact hf a s
  | read next ih => exact ih s ht
  | write s' next ih =>
    obtain ⟨rest, hpays, hnext⟩ := ht
    exact ⟨rest ++ more, hpays.append more, fun s'' => ih (hnext s'')⟩
  | suspend next ih => exact fun s' => ih (ht s')

theorem owes_done (a : α) : Owes (.done a : Task (Recorded W) α) [] := fun _ => rfl

theorem Owes.bind {t : Task (Recorded W) α} {f : α → Task (Recorded W) β}
    {duties more : List Duty} (ht : Owes t duties) (hf : ∀ a, Owes (f a) more) :
    Owes (t.bind f) (duties ++ more) :=
  fun s => (ht s).bind hf

theorem owes_each {f : α → Task (Recorded W) Unit} {asks : α → List Duty}
    (hf : ∀ a, Owes (f a) (asks a)) (items : List α) :
    Owes (Task.each f items) (items.flatMap asks) := by
  induction items with
  | nil => exact owes_done ()
  | cons a rest ih => exact (hf a).bind fun _ => ih

/-- A call on a provider is a duty done when it is written down. -/
theorem owes_record {duty : Duty} (hduty : duty.stage.isCall = true) :
    Owes (record duty : Task (Recorded W) Unit) [duty] := by
  intro s
  refine ⟨[], .duty (.ok ()) ?_ ?_, owes_done ()⟩
  · -- only the steps of the registry change it
    unfold Duty.apply
    split
    · rename_i hstage
      rw [hstage] at hduty
      exact absurd hduty (by decide)
    · rename_i hstage
      rw [hstage] at hduty
      exact absurd hduty (by decide)
    · rfl
  · rw [Duty.seen, if_pos hduty]

/-- A discreet task owes nothing. -/
theorem owes_within {t : Task (State W) α} (ht : t.Discreet) :
    Owes (t.within (Cell.first (State W) History)) [] := by
  suffices h : ∀ s : State W, t.GuaranteesFrom _ s → ∀ history,
      OwesFrom (t.within (Cell.first (State W) History)) [] (s, history) from
    fun s => h s.1 (ht s.1) s.2
  clear ht
  induction t with
  | done a => exact fun _ _ _ => rfl
  | read next ih => exact fun s ht history => ih s s ht history
  | write s' next ih =>
    intro s ht history
    exact ⟨[], .nothing ht.1 rfl, fun s'' => ih s''.1 (ht.2 s''.1) s''.2⟩
  | suspend next ih => exact fun _ ht _ s' => ih s'.1 (ht s'.1) s'.2

/-! ### What calls owe -/

section Calls

variable {host : Host W}

/-- The end of a start is announced with the event and the code of its outcome. -/
theorem startUpEvent_eq (name : String) (result : Except EvaluationError Unit) :
    ((Api.startUpEvent name result).event, (Api.startUpEvent name result).details.errorCode) =
      startEvent result := by
  cases result <;> rfl

/-- An event is announced in one step; what follows is discreet. -/
theorem owes_dispatch (hhost : host.Discreet) {id : ProviderId} {raised : RaisedEvent}
    {result : Except EvaluationError Unit}
    (hraised : (raised.event, raised.details.errorCode) = startEvent result) (lifetime : Nat) :
    Owes ((Api.dispatch host id raised).within (Cell.first (State W) History))
      [⟨.report, id, lifetime⟩] := by
  intro s
  have happly : Duty.apply ⟨.report, id, lifetime⟩ result s.1.registry =
      (s.1.registry.announce id raised.event raised.details.errorCode).getD s.1.registry := by
    rw [show raised.event = _ from congrArg Prod.fst hraised,
      show raised.details.errorCode = _ from congrArg Prod.snd hraised]
    rfl
  unfold Api.dispatch
  simp only [Task.get, Task.bind_def, Task.bind_read, Task.bind_done, Task.within, Cell.first,
    OwesFrom]
  cases hannounce : s.1.registry.announce id raised.event raised.details.errorCode with
  | none =>
    rw [hannounce] at happly
    exact ⟨[], .duty result happly.symm (List.append_nil _).symm, owes_done ()⟩
  | some registry =>
    rw [hannounce] at happly
    -- the duty is done in this step, and the handlers that are called next are discreet
    refine ⟨[], .duty result happly.symm (List.append_nil _).symm, ?_⟩
    exact owes_within
      (Api.report_guarantees (announced_log host) _ (discreet_tellRecipients hhost _ _ _))

theorem owes_concludeShutDown (p : ProviderRef) (outcome : Outcome Unit) (lifetime : Nat) :
    Owes ((Api.concludeShutDown host p outcome).within (Cell.first (State W) History))
      [⟨.release, p.id, lifetime⟩] := by
  intro s
  refine ⟨_, .nothing .refl rfl, fun s' => ?_⟩
  exact ⟨[], .duty (.ok ()) rfl (List.append_nil _).symm, owes_done ()⟩

theorem owes_concludeStartUp (hhost : host.Discreet) (p : ProviderRef) (outcome : Outcome Unit)
    (lifetime : Nat) :
    Owes ((Api.concludeStartUp host p outcome).within (Cell.first (State W) History))
      [⟨.report, p.id, lifetime⟩] := by
  intro s
  refine ⟨_, .nothing .refl rfl, fun s' => ?_⟩
  exact owes_dispatch hhost (startUpEvent_eq _ _) lifetime s'

/-- A callback between two duties that are written down. -/
theorem owes_callback {t : Task (State W) α} {f : α → Task (Recorded W) β} {duty : Duty}
    {more : List Duty} (hduty : duty.stage.isCall = true) (ht : t.Discreet)
    (hf : ∀ a, Owes (f a) more) :
    Owes ((record duty).bind fun _ => (t.within (.first _ _)).bind f) (duty :: more) :=
  (owes_record hduty).bind fun _ => (owes_within ht).bind hf

theorem owes_shutDown (hhost : host.Discreet) (p : ProviderRef) (lifetime : Nat) :
    Owes (shutDownRecorded host p lifetime)
      (stopStages.map fun stage => ⟨stage, p.id, lifetime⟩) := by
  intro s
  have hprovider := hhost.providerOf s.1 p.id
  refine owes_callback rfl hprovider.detach (fun _ => ?_) s
  refine owes_callback rfl hprovider.shutDown fun outcome => ?_
  exact (owes_record rfl).bind fun _ => owes_concludeShutDown p outcome lifetime

theorem owes_startUp (hhost : host.Discreet) (ctx : EvaluationContext) (p : ProviderRef)
    (lifetime : Nat) :
    Owes (startUpRecorded host ctx p lifetime)
      (startStages.map fun stage => ⟨stage, p.id, lifetime⟩) := by
  intro s
  have hprovider := hhost.providerOf s.1 p.id
  refine owes_callback rfl (hprovider.attach _) (fun _ => ?_) s
  refine owes_callback rfl (hprovider.startUp ctx) fun outcome => ?_
  exact (owes_record rfl).bind fun _ => owes_concludeStartUp hhost p outcome lifetime

/-- **A job does the duties that it asks for.** -/
theorem owes_perform (hhost : host.Discreet) (ctx : EvaluationContext) (history : History)
    (job : LifecycleJob) : Owes (performRecorded host ctx history job) (duties history job) :=
  match job with
  | .shutDown p => owes_shutDown hhost p _
  | .startUp p => owes_startUp hhost ctx p _

/-- **A call that binds a provider changes the bindings in its first step**, and then owes
what its jobs ask for. -/
theorem advance_bind (hhost : host.Discreet) (slot : Slot) (p : ProviderRef) (s : Recorded W) :
    let changed := s.1.registry.bind slot p
    let history := s.2 ++ System.changes s.1.registry changed.1
    ∃ rest, (bindRecorded host slot p).advance s =
        (rest, { s.1 with registry := changed.1 }, history) ∧
      Owes rest (changed.2.flatMap (duties history)) := by
  obtain ⟨s, before⟩ := s
  intro changed history
  -- what is left after the first change: the report and then the jobs
  refine ⟨(Task.within _ _).bind fun _ => Task.each (performRecorded host _ history) changed.2,
    rfl, ?_⟩
  exact (owes_within (discreet_log host _)).bind fun _ => owes_each (owes_perform hhost _ history) _

/-- **A reset changes the bindings in its first step**, and then owes what its jobs ask
for. -/
theorem advance_clear (hhost : host.Discreet)
    (arrange : List LifecycleJob → List LifecycleJob) (s : Recorded W) :
    let changed := s.1.registry.clear
    let history := s.2 ++ System.changes s.1.registry changed.1
    ∃ rest, (clearRecorded host arrange).advance s =
        (rest, { s.1 with registry := changed.1 },
          history ++ creation changed.1.defaultProvider.id) ∧
      Owes rest ((arrange changed.2).flatMap (duties history)) := by
  obtain ⟨s, before⟩ := s
  intro changed history
  -- here the jobs come first and the report last
  refine ⟨(Task.each (performRecorded host _ history) (arrange changed.2)).bind fun _ => _,
    rfl, ?_⟩
  have hlog : ∀ _ : Unit, Owes (Task.within (Cell.first (State W) History)
      (Task.log host.log (Api.clearedEntry changed.2.length))) [] :=
    fun _ => owes_within (discreet_log host _)
  have howes := (owes_each (owes_perform hhost .empty history) (arrange changed.2)).bind hlog
  rw [List.append_nil] at howes
  exact howes

end Calls

/-! ### Going on -/

section Advance

variable {t : Task (Recorded W) α} {duties : List Duty} {s : Recorded W}

/-- **An advance does at most one duty**, and the others stay owed. -/
theorem OwesFrom.advance (h : OwesFrom t duties s) :
    ∃ rest, Pays s (t.advance s).2 duties rest ∧ Owes (t.advance s).1 rest := by
  induction t generalizing s with
  | done a => exact ⟨duties, .refl s duties, fun _ => h⟩
  | read next ih => exact ih s h
  | write s' next => exact h
  | suspend next => exact ⟨duties, .refl s duties, h⟩

/-- A task that has ended owes nothing. -/
theorem OwesFrom.eq_nil (h : OwesFrom t duties s) (hended : t.isEnded = true) : duties = [] := by
  cases t with
  | done a => exact h
  | read next => exact absurd hended Bool.noConfusion
  | write s' next => exact absurd hended Bool.noConfusion
  | suspend next => exact absurd hended Bool.noConfusion

/-- A call that is run to its end does all that it owes. -/
theorem OwesFrom.run (h : OwesFrom t duties s) :
    (t.run s).2.2 = s.2 ++ duties.flatMap Duty.seen := by
  induction t generalizing duties s with
  | done a =>
    rw [show duties = [] from h]
    exact (List.append_nil _).symm
  | read next ih => exact ih s h
  | write s' next ih =>
    obtain ⟨rest, hpays, hnext⟩ := h
    rw [Task.run_write, ih (hnext s')]
    cases hpays with
    | nothing _ hhistory => rw [hhistory]
    | duty _ _ hhistory => rw [hhistory, List.flatMap_cons, List.append_assoc]
  | suspend next ih => exact ih (h s)

end Advance

end Lifecycle

end FeatureFlags
