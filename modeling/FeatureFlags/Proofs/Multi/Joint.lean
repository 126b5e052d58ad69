import FeatureFlags.Proofs.Multi.Evaluated
import FeatureFlags.Proofs.Multi.Fatal
import FeatureFlags.Proofs.Multi.Names

/-!
# Sub-providers are started and shut down together

A multi-provider starts its sub-providers side by side and shuts them down side by side.  Every one
of them is called once and goes on to its end, whatever becomes of the others and in whatever order
they end: how one ended is looked at only when all of them have.

The calls are noted when they begin and when they end.  What a joint start reports and what it
leaves in the relay is then told by the outcomes in the notes, in the order of the sub-providers.

## Main definitions

* `MultiProvider.Performed` — a step of the lifecycle of a sub-provider, as it is noted.
* `MultiProvider.noted` — a multi-provider whose sub-providers' lifecycle is noted.
* `MultiProvider.EachOnce` — every sub-provider is called once and ends.
* `MultiProvider.failureClauses` — what a joint start says about the starts that failed.

## Main results

* `MultiProvider.all_eachOnce` — calls side by side are each made once, to the end.
* `MultiProvider.startUp_ensures`, `MultiProvider.shutDown_ensures` — the two joint calls.
* `MultiProvider.lifecycle_isolated` — **no sub-provider has a part in how another is started or
  shut down.**
-/

namespace FeatureFlags

namespace Multi

/-! ### Failed starts -/

/-- The status that a start leads to. -/
theorem statusAfter_eq (o : Outcome Unit) :
    statusAfter o = if o.isFatal then .fatal else if o.isFailure then .error else .ready := by
  by_cases hfatal : o.isFatal = true
  · rw [if_pos hfatal]
    exact statusAfter_eq_fatal_iff.mpr hfatal
  rw [if_neg hfatal]
  by_cases hfailure : o.isFailure = true
  · rw [if_pos hfailure]
    rcases statusAfter_cases o with hready | herror | hbad
    · rw [statusAfter_eq_ready_iff, hfailure] at hready
      exact Bool.noConfusion hready
    · exact herror
    · exact absurd (statusAfter_eq_fatal_iff.mp hbad) hfatal
  · rw [if_neg hfailure]
    exact statusAfter_eq_ready_iff.mpr (Bool.eq_false_iff.mpr hfailure)

/-- The error that a call failed with; a panic is an error of no special kind. -/
def errorOf? : Outcome Unit → Option EvaluationError
  | .returned () => none
  | .failed e => some e
  | .panicked p => some (.general ("panicked: " ++ p.message))

theorem errorOf?_eq_none_iff {o : Outcome Unit} : errorOf? o = none ↔ o = .returned () := by
  cases o with
  | returned => simp [errorOf?]
  | failed e => simp [errorOf?]
  | panicked p => simp [errorOf?]

end Multi

namespace MultiProvider

open FeatureFlags.Task (Contributes Mimics contributes_all contributes_note contributes_within
  mimics_all mimics_each mimics_modify_beside mimics_note)
open Multi (Entry Relay Strategy SubProvider errorOf?)

variable {σ : Type}

/-- What a joint start says about the starts that failed, in the order of the sub-providers: one
clause for each of them, with the name of the sub-provider and the error. -/
def failureClauses (names : List String) (outcomes : List (Outcome Unit)) : List String :=
  (names.zip outcomes).filterMap fun (name, o) =>
    (errorOf? o).map fun e => "Provider '" ++ name ++ "' initialization failed: " ++ e.render

theorem failureClauses_eq (names : List String) (outcomes : List (Outcome Unit)) :
    ((names.zip (outcomes.map guarded)).filterMap fun (sub, result) => startFailure? sub result) =
      failureClauses names outcomes := by
  rw [List.zip_map_right, List.filterMap_map, failureClauses]
  congr 1
  funext ⟨name, o⟩
  cases o with
  | returned => rfl
  | failed e => rfl
  | panicked p => rfl

/-- Nothing is said exactly if no start failed. -/
theorem failureClauses_eq_nil_iff {names : List String} {outcomes : List (Outcome Unit)}
    (hlength : outcomes.length = names.length) :
    failureClauses names outcomes = [] ↔ ∀ o ∈ outcomes, o = .returned () := by
  have hsnd : (names.zip outcomes).map (·.2) = outcomes :=
    List.map_snd_zip (Nat.le_of_eq hlength)
  rw [failureClauses, List.filterMap_eq_nil_iff]
  constructor
  · intro hnone o ho
    rw [← hsnd] at ho
    obtain ⟨⟨name, o⟩, he, rfl⟩ := List.mem_map.mp ho
    exact Multi.errorOf?_eq_none_iff.mp (Option.map_eq_none_iff.mp (hnone _ he))
  · rintro hall ⟨name, o⟩ he
    have ho : o ∈ outcomes := hsnd ▸ List.mem_map_of_mem he
    exact Option.map_eq_none_iff.mpr (Multi.errorOf?_eq_none_iff.mpr (hall o ho))

/-! ### Calls that are noted -/

/-- A call of a multi-provider to all its sub-providers. -/
inductive JointCall where
  | startUp (ctx : EvaluationContext)
  | shutDown

/-- What is noted of a sub-provider, told by its position: that it is called, and how its call
ended. -/
inductive Performed where
  | called (position : Nat) (call : JointCall)
  | ended (position : Nat) (outcome : Outcome Unit)

/-- A state together with the steps noted so far. -/
abbrev Noted (σ : Type) := σ × List Performed

/-- A call of a sub-provider that is noted when it begins and when it ends. -/
def notedCall (position : Nat) (call : JointCall) (t : Task σ (Outcome Unit)) :
    Task (Noted σ) (Outcome Unit) := do
  Task.modify fun p => (p.1, p.2 ++ [.called position call])
  let outcome ← t.within (.first _ _)
  Task.modify fun p => (p.1, p.2 ++ [.ended position outcome])
  return outcome

/-- A sub-provider whose lifecycle is noted, at a position. -/
def notedSub (sub : SubProvider σ) (position : Nat) : SubProvider (Noted σ) where
  name := sub.name
  provider :=
    { sub.provider.within (.first _ _) with
      startUp := fun ctx => notedCall position (.startUp ctx) (sub.provider.startUp ctx)
      shutDown := notedCall position .shutDown sub.provider.shutDown }

/-- A multi-provider whose sub-providers' lifecycle is noted. -/
def noted (m : MultiProvider σ) : MultiProvider (Noted σ) where
  id := m.id
  subs := m.subs.zipIdx.map fun (sub, position) => notedSub sub position
  strategy :=
    { mode := m.strategy.mode
      accepts := fun flagKey sub r => (m.strategy.accepts flagKey sub r).within (.first _ _) }
  hooks := m.hooks.map (Hook.within (.first _ _))

theorem map_name_noted (m : MultiProvider σ) :
    m.noted.subs.map (·.name) = m.subs.map (·.name) := by
  rw [noted, List.map_map]
  change m.subs.zipIdx.map ((·.name) ∘ Prod.fst) = _
  rw [← List.map_map, List.zipIdx_map_fst]

theorem notedCall_mimics (position : Nat) (call : JointCall) (t : Task σ (Outcome Unit)) :
    Mimics True Eq (notedCall position call t) t :=
  .aside trivial (mimics_note t _)

theorem notedCall_contributes (position : Nat) (call : JointCall) (t : Task σ (Outcome Unit)) :
    Contributes (fun o l => l = [.called position call, .ended position o])
      (notedCall position call t) := by
  refine (contributes_note _).bind ?_
  rintro _ _ rfl
  refine (contributes_within t).bind ?_
  rintro o _ rfl
  refine (contributes_note _).bind ?_
  rintro _ _ rfl
  exact Task.contributes_done rfl

theorem finishShutDown_mimics (journal : Journal σ) (relay : Cell σ Relay) (sub : String)
    (result : Except EvaluationError Unit) :
    Mimics True Eq (finishShutDown (journal.beside (List Performed)) (relay.beside _) sub result)
      (finishShutDown journal relay sub result) := by
  have hrecorded : Mimics True Eq
      ((relay.beside (List Performed)).modify fun r => r.setStatus sub .notReady)
      (relay.modify fun r => r.setStatus sub .notReady) := mimics_modify_beside relay _
  cases result with
  | ok => exact hrecorded
  | error e => exact (Evaluation.mimics_log journal _).bind fun _ _ _ => hrecorded

/-- Noted sub-providers, each one at some position. -/
theorem forall₂_noted (subs : List (SubProvider σ)) (start : Nat) :
    List.Forall₂ (fun w sub => ∃ position, w = notedSub sub position)
      ((subs.zipIdx start).map fun (sub, position) => notedSub sub position) subs := by
  induction subs generalizing start with
  | nil => exact .nil
  | cons sub rest ih => exact .cons ⟨start, rfl⟩ (ih (start + 1))

section Noted

variable (journal : Journal σ) (relay : Cell σ Relay) (m : MultiProvider σ)

/-- **A joint start makes the same moves when it is noted.** -/
theorem startUp_mimics (ctx : EvaluationContext) :
    Mimics True Eq (m.noted.startUp (relay.beside _) ctx) (m.startUp relay ctx) := by
  have hsubs := forall₂_noted m.subs 0
  refine (mimics_all (hsubs.imp fun w sub h => ?_)).bind ?_
  · obtain ⟨position, rfl⟩ := h
    exact notedCall_mimics position _ _
  rintro outcomes _ rfl
  rw [map_name_noted]
  refine Mimics.bind (mimics_each ?_ _) fun _ _ _ => ?_
  · rintro ⟨sub, result⟩
    exact mimics_modify_beside relay _
  · split <;> exact .done rfl

/-- **A joint end makes the same moves when it is noted.** -/
theorem shutDown_mimics :
    Mimics True Eq (m.noted.shutDown (journal.beside _) (relay.beside _))
      (m.shutDown journal relay) := by
  have hsubs := forall₂_noted m.subs 0
  refine (mimics_all (hsubs.imp fun w sub h => ?_)).bind ?_
  · obtain ⟨position, rfl⟩ := h
    exact notedCall_mimics position _ _
  rintro outcomes _ rfl
  rw [map_name_noted]
  refine Mimics.bind (mimics_each ?_ _) fun _ _ _ => .done rfl
  rintro ⟨sub, result⟩
  exact finishShutDown_mimics journal relay sub result

end Noted

/-! ### Each one once -/

/-- Every sub-provider is called once, and its call ends with its outcome. -/
def EachOnce (call : JointCall) (outcomes : List (Outcome Unit)) (steps : List Performed) : Prop :=
  steps.Perm (outcomes.zipIdx.flatMap fun (o, position) =>
    [.called position call, .ended position o])

/-- What calls contribute, each at its own position. -/
theorem flatMap_shares {call : JointCall} {subs : List (SubProvider σ)} {start : Nat}
    {shares : List (Outcome Unit × List Performed)}
    (h : List.Forall₂ (fun (i : SubProvider σ × Nat) share =>
      share.2 = [.called i.2 call, .ended i.2 share.1]) (subs.zipIdx start) shares) :
    shares.length = subs.length ∧ shares.flatMap (·.2) =
      ((shares.map (·.1)).zipIdx start).flatMap fun (o, position) =>
        [.called position call, .ended position o] := by
  induction subs generalizing start shares with
  | nil =>
    cases h
    exact ⟨rfl, rfl⟩
  | cons sub rest ih =>
    cases h with
    | cons hshare hrest =>
      obtain ⟨hlength, hsteps⟩ := ih hrest
      refine ⟨by rw [List.length_cons, hlength, List.length_cons], ?_⟩
      rw [List.flatMap_cons, hsteps, hshare]
      rfl

/-- **Calls side by side are each made once**, to the end. -/
theorem all_eachOnce (call : JointCall) (subs : List (SubProvider σ))
    (run : SubProvider σ → Task σ (Outcome Unit)) :
    Contributes (fun outcomes l => outcomes.length = subs.length ∧ EachOnce call outcomes l)
      (Task.all (subs.zipIdx.map fun (sub, position) => notedCall position call (run sub))) := by
  refine (contributes_all fun i _ => notedCall_contributes i.2 call (run i.1)).mono ?_
  rintro _ l ⟨shares, rfl, hshares, hl⟩
  obtain ⟨hlength, hsteps⟩ := flatMap_shares hshares
  rw [hsteps] at hl
  exact ⟨by rw [List.length_map, hlength], hl⟩

section Calls

variable {relay : Cell σ Relay} {m : MultiProvider σ}
  (hrelay : ∀ r s, relay.get (relay.set r s) = r)

include hrelay in
/-- **A joint start**, of sub-providers with names of their own. -/
theorem startUp_ensures (hnames : (m.subs.map (·.name)).Nodup) (ctx : EvaluationContext) (s : σ) :
    (m.noted.startUp (relay.beside _) ctx).Ensures (Cell.first _ _).Confined
      (fun result p => ∃ outcomes, outcomes.length = m.subs.length ∧
        EachOnce (.startUp ctx) outcomes p.2 ∧
        (result = .returned () ↔ ∀ o ∈ outcomes, o = .returned ()) ∧
        (result ≠ .returned () → result = .failed (.general
          (String.intercalate "; " (failureClauses (m.subs.map (·.name)) outcomes)))) ∧
        ∀ sub o, (sub, o) ∈ m.subs.zip outcomes → (relay.get p.1).statusOf sub.name =
          if o.isFatal then .fatal else if o.isFailure then .error else .ready) (s, []) := by
  have hstarts := (all_eachOnce (.startUp ctx) m.subs fun sub => sub.provider.startUp ctx).ensures s
  have hcalls : m.noted.subs.map (fun sub => sub.provider.startUp ctx) =
      m.subs.zipIdx.map fun (sub, position) =>
        notedCall position (.startUp ctx) (sub.provider.startUp ctx) := by
    rw [noted, List.map_map]
    rfl
  rw [startUp, hcalls, map_name_noted, Task.bind_def, Task.ensures_bind]
  refine hstarts.mono ?_
  rintro outcomes p ⟨hlength, honce⟩
  have hclauses : failureClauses (m.subs.map (·.name)) outcomes = [] ↔
      ∀ o ∈ outcomes, o = .returned () :=
    failureClauses_eq_nil_iff (by rw [hlength, List.length_map])
  dsimp only
  rw [failureClauses_eq, Task.bind_def, Task.ensures_bind]
  -- to record the outcomes is no call
  have hset : ∀ r r' (q : Noted σ), relay.get q.1 = r ∧ q.2 = p.2 →
      relay.get ((relay.beside (List Performed)).set r' q).1 = r' ∧
        ((relay.beside (List Performed)).set r' q).2 = p.2 :=
    fun _ r' q h => ⟨hrelay r' q.1, h.2⟩
  refine (recordStarts_ensures (P := fun r q => relay.get q.1 = r ∧ q.2 = p.2)
    (fun _ _ h => h.1) hset _ _ ⟨rfl, rfl⟩).mono ?_
  rintro _ q ⟨hrecorded, hsteps⟩
  rw [← hsteps] at honce
  have hstatus : ∀ sub o, (sub, o) ∈ m.subs.zip outcomes → (relay.get q.1).statusOf sub.name =
      if o.isFatal then .fatal else if o.isFailure then .error else .ready := by
    intro sub o hmem
    rw [hrecorded, Relay.statusOf_started hnames hlength hmem, Multi.statusAfter_eq]
  split
  next hnone =>
    exact ⟨outcomes, hlength, honce, ⟨fun _ => hclauses.mp hnone, fun _ => rfl⟩,
      fun hne => absurd rfl hne, hstatus⟩
  next hsome =>
    refine ⟨outcomes, hlength, honce, ⟨fun hreturned => ?_, fun hall => ?_⟩, fun _ => rfl, hstatus⟩
    · cases hreturned
    · exact absurd (hclauses.mpr hall) hsome

variable {journal : Journal σ} (hjournal : ∀ entry s, relay.get (journal entry s) = relay.get s)

include hrelay hjournal in
/-- That a sub-provider has been shut down is recorded whether it failed or not. -/
theorem finishShutDown_ensures (sub : String) (result : Except EvaluationError Unit) (p : Noted σ) :
    (finishShutDown (journal.beside _) (relay.beside _) sub result).Ensures
      (Cell.first _ _).Confined (fun _ q => q.2 = p.2 ∧
        relay.get q.1 = (relay.get p.1).setStatus sub .notReady) p := by
  cases result with
  | ok => exact ⟨rfl, hrelay _ _⟩
  | error e =>
    refine ⟨rfl, (hrelay _ _).trans ?_⟩
    exact congrArg (fun r => Relay.setStatus r sub .notReady) (hjournal _ _)

include hrelay hjournal in
/-- Once that is recorded of some sub-providers, none of them is ready. -/
theorem each_finishShutDown_ensures (ended : List (String × Except EvaluationError Unit))
    (p : Noted σ) :
    (Task.each (fun (sub, result) =>
      finishShutDown (journal.beside _) (relay.beside _) sub result) ended).Ensures
        (Cell.first _ _).Confined (fun _ q => q.2 = p.2 ∧ ∀ name,
          name ∈ ended.map (·.1) ∨ (relay.get p.1).statusOf name = .notReady →
            (relay.get q.1).statusOf name = .notReady) p := by
  induction ended generalizing p with
  | nil => exact ⟨rfl, fun name h => h.resolve_left List.not_mem_nil⟩
  | cons e rest ih =>
    obtain ⟨sub, result⟩ := e
    rw [Task.each_cons, Task.ensures_bind]
    refine (finishShutDown_ensures hrelay hjournal sub result p).mono ?_
    rintro _ p' ⟨hsteps, hset⟩
    refine (ih p').mono ?_
    rintro _ q ⟨hsteps', hrest⟩
    refine ⟨hsteps'.trans hsteps, fun name h => hrest name ?_⟩
    rw [List.map_cons, List.mem_cons, or_assoc] at h
    rw [hset]
    -- the status of this sub-provider is the one just recorded, and any other is as before
    by_cases hsub : name = sub
    · exact .inr (hsub ▸ Relay.statusOf_setStatus_self _ _ _)
    · rw [Relay.statusOf_setStatus_of_ne hsub]
      exact h.resolve_left hsub

include hrelay hjournal in
/-- **A joint end.** -/
theorem shutDown_ensures (s : σ) :
    (m.noted.shutDown (journal.beside _) (relay.beside _)).Ensures (Cell.first _ _).Confined
      (fun result p => ∃ outcomes, outcomes.length = m.subs.length ∧
        EachOnce .shutDown outcomes p.2 ∧ result = .returned () ∧
        ∀ sub ∈ m.subs, (relay.get p.1).statusOf sub.name = .notReady) (s, []) := by
  have hends := (all_eachOnce .shutDown m.subs fun sub => sub.provider.shutDown).ensures s
  have hcalls : m.noted.subs.map (fun sub => sub.provider.shutDown) =
      m.subs.zipIdx.map fun (sub, position) =>
        notedCall position .shutDown sub.provider.shutDown := by
    rw [noted, List.map_map]
    rfl
  rw [shutDown, hcalls, map_name_noted, Task.bind_def, Task.ensures_bind]
  refine hends.mono ?_
  rintro outcomes p ⟨hlength, honce⟩
  dsimp only
  rw [Task.bind_def, Task.ensures_bind]
  refine (each_finishShutDown_ensures hrelay hjournal _ p).mono ?_
  rintro _ q ⟨hsteps, hstatuses⟩
  refine ⟨outcomes, hlength, hsteps ▸ honce, rfl, fun sub hsub => hstatuses sub.name (.inl ?_)⟩
  rw [List.map_fst_zip (by simp [hlength])]
  exact List.mem_map_of_mem hsub

end Calls

/-! ### Of an application -/

section Isolated

variable {W : Type}

/-- **No sub-provider has a part in how another is started or shut down.**  Of any multi-provider
that is put together, whatever its sub-providers do when they are called, and whatever else goes on
while they wait:
* it does the same whether its calls are noted or not;
* a joint start calls every sub-provider once and sees it to its end; it fails unless all of them
  succeed, with one clause for each that failed, in the order of the sub-providers; and it leaves
  each of them with the status its own outcome stands for;
* a joint end calls every sub-provider once and sees it to its end; it succeeds whatever becomes of
  them, and leaves all of them not ready. -/
theorem lifecycle_isolated (host : Host W) {id : ProviderId} {entries : List (Entry (Api.State W))}
    {strategy : Strategy (Api.State W)} {m : MultiProvider (Api.State W)}
    (hbuild : build id entries strategy = .ok m) (ctx : EvaluationContext) (s : Api.State W) :
    let relay := Api.relayCell m.id
    let plain := m.toProvider host.log relay
    let noted := m.noted.toProvider (host.log.beside _) (relay.beside _)
    (Mimics True Eq (noted.startUp ctx) (plain.startUp ctx) ∧
      (noted.startUp ctx).Ensures (Cell.first _ _).Confined
        (fun result p => ∃ outcomes, outcomes.length = m.subs.length ∧
          EachOnce (.startUp ctx) outcomes p.2 ∧
          (result = .returned () ↔ ∀ o ∈ outcomes, o = .returned ()) ∧
          (result ≠ .returned () → result = .failed (.general
            (String.intercalate "; " (failureClauses (m.subs.map (·.name)) outcomes)))) ∧
          ∀ sub o, (sub, o) ∈ m.subs.zip outcomes → (relay.get p.1).statusOf sub.name =
            if o.isFatal then .fatal else if o.isFailure then .error else .ready) (s, [])) ∧
    (Mimics True Eq noted.shutDown plain.shutDown ∧
      noted.shutDown.Ensures (Cell.first _ _).Confined
        (fun result p => ∃ outcomes, outcomes.length = m.subs.length ∧
          EachOnce .shutDown outcomes p.2 ∧ result = .returned () ∧
          ∀ sub ∈ m.subs, (relay.get p.1).statusOf sub.name = .notReady) (s, [])) := by
  intro relay plain noted
  have hrelay : ∀ r (s : Api.State W), relay.get (relay.set r s) = r :=
    fun r s => Api.relayCell_get_set m.id r s
  have hjournal : ∀ entry s, relay.get (host.log entry s) = relay.get s := fun _ _ => rfl
  exact ⟨⟨startUp_mimics relay m ctx, startUp_ensures hrelay (nodup_of_build hbuild) ctx s⟩,
    ⟨shutDown_mimics host.log relay m, shutDown_ensures hrelay hjournal s⟩⟩

/-- Entries of which one panics when it is started, one waits and then fails for good, and one does
nothing. -/
def unluckyEntries : List (Entry (Api.State Unit)) :=
  [⟨some "hasty", { NoOp.provider _ with startUp := fun _ => .done (.panicked .textless) }⟩,
    ⟨none, { NoOp.provider _ with
      startUp := fun _ => .suspend (.done (.failed ⟨.providerFatal, some "gone"⟩)) }⟩,
    ⟨none, NoOp.provider _⟩]

/-- A multi-provider of them, with the names they get. -/
def unlucky : MultiProvider (Api.State Unit) where
  id := .application 0
  subs := List.zipWith SubProvider.mk ["hasty", "No-op Provider_1", "No-op Provider_2"]
    (unluckyEntries.map (·.provider))
  strategy := .firstMatch _
  hooks := []

/-- An application without reports. -/
def quietHost : Host Unit where
  provider _ _ := NoOp.provider _
  hook _ _ := .silent
  handle _ _ := .done none
  receive _ _ := .done ()
  journal _ world := world

/-- Its joint start, noted. -/
def unluckyStart : Outcome Unit × Noted (Api.State Unit) :=
  ((unlucky.noted.startUp ((Api.relayCell unlucky.id).beside _)) {}).run (.fresh (), [])

/-- Both failures are told, in the order of the entries, although the third sub-provider was done
before the second; and each sub-provider has its own status. -/
theorem both_failures_told :
    build (.application 0) unluckyEntries (.firstMatch _) = .ok unlucky ∧
      unluckyStart.1 = .failed (.general ("Provider 'hasty' initialization failed: " ++
        "GENERAL: panicked: unknown panic; Provider 'No-op Provider_1' initialization failed: " ++
        "PROVIDER_FATAL: gone")) ∧
      let relay := (Api.relayCell unlucky.id).get unluckyStart.2.1
      relay.statusOf "hasty" = .error ∧ relay.statusOf "No-op Provider_1" = .fatal ∧
        relay.statusOf "No-op Provider_2" = .ready := by
  have hbuild : build (.application 0) unluckyEntries (.firstMatch _) = .ok unlucky := rfl
  obtain ⟨⟨-, hstart⟩, -⟩ := lifecycle_isolated quietHost hbuild {} (.fresh ())
  obtain ⟨outcomes, hlength, honce, -, hresult, hstatus⟩ :=
    Task.run_of_ensures (fun p => ⟨p.1, rfl⟩) hstart
  have hsteps : unluckyStart.2.2 =
      [.called 0 (.startUp {}), .ended 0 (.panicked .textless), .called 1 (.startUp {}),
        .called 2 (.startUp {}), .ended 2 (.returned ()),
        .ended 1 (.failed ⟨.providerFatal, some "gone"⟩)] := rfl
  have hended : ∀ o position, (o, position) ∈ outcomes.zipIdx →
      .ended position o ∈ unluckyStart.2.2 := by
    intro o position hmem
    refine honce.mem_iff.mpr (List.mem_flatMap.mpr ⟨(o, position), hmem, ?_⟩)
    simp
  obtain ⟨hasty, slow, calm, rfl⟩ := List.length_eq_three.mp hlength
  have hhasty : hasty = .panicked .textless := by
    simpa [hsteps] using hended hasty 0 (by simp)
  have hslow : slow = .failed ⟨.providerFatal, some "gone"⟩ := by
    simpa [hsteps] using hended slow 1 (by simp)
  have hcalm : calm = .returned () := by
    simpa [hsteps] using hended calm 2 (by simp)
  subst hhasty hslow hcalm
  refine ⟨hbuild, hresult nofun, ?_, ?_, ?_⟩
  · exact hstatus _ _ List.mem_cons_self
  · exact hstatus _ _ (List.mem_cons_of_mem _ List.mem_cons_self)
  · exact hstatus _ _ (List.mem_cons_of_mem _ (List.mem_cons_of_mem _ List.mem_cons_self))

end Isolated

end MultiProvider

end FeatureFlags
