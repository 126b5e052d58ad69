import FeatureFlags.Api.Events
import FeatureFlags.Proofs.Evaluation.Judged
import FeatureFlags.Proofs.SortedMap.Lookup

/-!
# What a replacement of flags announces

An in-memory provider whose flags are replaced announces it once, when the new flags are already
served, and lists the keys of the new flags.  Whoever relies on the list to learn which flags have
changed misses some: a flag that has been removed was there before and is not found any more, but
its key is none of the new ones.  Of all flags that are resolved differently after the replacement,
these are the only ones that are missed.

What is announced is noted together with the flags that are served at that moment.

## Main definitions

* `InMemory.Differs` — a flag is resolved differently by two provider states.
* `InMemory.Announcement` — an event, and the flags that are served when it is announced.
* `InMemory.announce`, `InMemory.updateNoted` — an announcement, and a replacement of flags, noted.

## Main results

* `InMemory.missed_iff_removed` — of the flags that are resolved differently, the removed ones are
  not among the new ones.
* `InMemory.replacement_announced` — **what a replacement announces, and what it does not list.**
* `InMemory.removal_not_listed` — a removed flag that no event lists.
-/

namespace FeatureFlags

/-! ### Keys -/

namespace SortedMap

variable {α : Type} {map : SortedMap α} {key : String}

/-- The keys are strictly ascending. -/
theorem pairwise_keys (map : SortedMap α) : map.keys.Pairwise (· < ·) :=
  List.pairwise_map.mpr map.sorted

theorem nodup_keys (map : SortedMap α) : map.keys.Nodup := by
  refine map.pairwise_keys.imp ?_
  rintro a _ hlt rfl
  exact String.lt_irrefl a hlt

/-- Nothing is found under a key that is none of the map's. -/
theorem find?_eq_none_iff : map.find? key = none ↔ key ∉ map.keys := by
  rw [Option.eq_none_iff_forall_ne_some]
  constructor
  · intro h hmem
    obtain ⟨⟨_, value⟩, hentry, rfl⟩ := List.mem_map.mp hmem
    exact h value ((Entries.find?_eq_some_iff map.sorted).mpr hentry)
  · intro h value hvalue
    have hentry : (key, value) ∈ map.entries := (Entries.find?_eq_some_iff map.sorted).mp hvalue
    exact h (List.mem_map_of_mem hentry)

end SortedMap

namespace InMemory

open FeatureFlags.Task (Mimics mimics_get mimics_within)

variable {σ W : Type}

/-! ### Flags that are resolved differently -/

/-- For some flag type and some context a flag is resolved differently. -/
def Differs (before after : InMemory) (flagKey : String) : Prop :=
  ∃ t ctx, before.resolve t flagKey ctx ≠ after.resolve t flagKey ctx

/-- What a flag in memory answers, taken into the carrier of a flag type, may be refused there. -/
theorem code_of_refused {t : FlagType} {r : Resolution FlagValue} {err : EvaluationError}
    (h : Outcome.ofExcept (r.toCarrier t) = .failed err) : err.code = .typeMismatch := by
  rw [Resolution.toCarrier] at h
  by_cases hvalid : r.value.isValidFor t
  · obtain ⟨value, hvalue, -⟩ := FlagValue.toCarrier_of_valid hvalid
    rw [hvalue] at h
    cases h
  · rw [FlagValue.toCarrier_of_not_valid hvalid] at h
    injection h with herr
    rw [← herr]
    rfl

/-- A flag in memory fails by itself only if its default variant does not exist. -/
theorem code_of_failed {flag : MemoryFlag} {ctx : EvaluationContext} {err : EvaluationError}
    (h : flag.resolve ctx = .failed err) : err.code = .general := by
  rw [MemoryFlag.resolve] at h
  cases hevaluator : flag.evaluator with
  | none =>
    rw [hevaluator] at h
    dsimp only at h
    rw [FlagDefinition.staticResolution] at h
    cases hvariant : flag.variants.find? flag.defaultVariant with
    | none =>
      rw [hvariant] at h
      injection h with herr
      rw [← herr]
      rfl
    | some value =>
      rw [hvariant] at h
      cases h
  | some evaluator =>
    rw [hevaluator] at h
    dsimp only at h
    cases hanswer : evaluator flag.toFlagDefinition ctx with
    | ok r =>
      rw [hanswer] at h
      cases h
    | error p =>
      rw [hanswer] at h
      cases h

/-- A flag in memory never answers that there is no such flag. -/
theorem resolve_ne_notFound {memory : InMemory} {flagKey : String} {flag : MemoryFlag}
    (hflag : memory.flags.find? flagKey = some flag) (t : FlagType) (ctx : EvaluationContext) :
    memory.resolve t flagKey ctx ≠ .failed (notFoundError flagKey) := by
  intro h
  rw [resolve, hflag] at h
  dsimp only at h
  cases hresolve : flag.resolve ctx with
  | returned r =>
    rw [hresolve] at h
    have hcode : ErrorCode.flagNotFound = .typeMismatch := code_of_refused h
    exact absurd hcode (by decide)
  | failed err =>
    rw [hresolve] at h
    injection h with herr
    rw [herr] at hresolve
    have hcode : ErrorCode.flagNotFound = .general := code_of_failed hresolve
    exact absurd hcode (by decide)
  | panicked p =>
    rw [hresolve] at h
    cases h

/-- Whatever is not served is not found. -/
theorem resolve_of_not_mem {memory : InMemory} {flagKey : String} (h : flagKey ∉ memory.flags.keys)
    (t : FlagType) (ctx : EvaluationContext) :
    memory.resolve t flagKey ctx = .failed (notFoundError flagKey) := by
  rw [resolve, SortedMap.find?_eq_none_iff.mpr h]

/-- **Of the flags that are resolved differently, those that are not among the new ones are those
that have been removed.** -/
theorem missed_iff_removed (before after : InMemory) (flagKey : String) :
    Differs before after flagKey ∧ flagKey ∉ after.flags.keys ↔
      flagKey ∈ before.flags.keys ∧ flagKey ∉ after.flags.keys := by
  refine and_congr_left fun hafter => ?_
  constructor
  · rintro ⟨t, ctx, hne⟩
    by_contra hbefore
    exact hne ((resolve_of_not_mem hbefore t ctx).trans (resolve_of_not_mem hafter t ctx).symm)
  · intro hbefore
    refine ⟨.boolean, .empty, ?_⟩
    rw [resolve_of_not_mem hafter]
    cases hflag : before.flags.find? flagKey with
    | none => exact absurd hbefore (SortedMap.find?_eq_none_iff.mp hflag)
    | some flag => exact resolve_ne_notFound hflag _ _

/-! ### What is announced -/

/-- An event, where it goes, and the flags that are served when it is announced. -/
structure Announcement where
  emitter : Emitter
  raised : RaisedEvent
  served : SortedMap MemoryFlag

/-- An announcement, noted when it is made. -/
def announce (cell : Cell σ InMemory) (deliver : Emitter → RaisedEvent → Task σ Unit)
    (emitter : Emitter) (raised : RaisedEvent) : Task (σ × List Announcement) Unit := do
  Task.modify fun p => (p.1, p.2 ++ [⟨emitter, raised, (cell.get p.1).flags⟩])
  (deliver emitter raised).within (.first _ _)

/-- A replacement of flags, with what it announces noted. -/
def updateNoted (journal : Journal σ) (cell : Cell σ InMemory)
    (deliver : Emitter → RaisedEvent → Task σ Unit) (flags : SortedMap MemoryFlag) :
    Task (σ × List Announcement) Unit :=
  updateFlags (journal.beside _) (cell.beside _) (announce cell deliver) flags

variable (journal : Journal σ) (cell : Cell σ InMemory)
  (deliver : Emitter → RaisedEvent → Task σ Unit) (flags : SortedMap MemoryFlag)

/-- Noting what is announced changes nothing. -/
theorem updateNoted_mimics :
    Mimics True Eq (updateNoted journal cell deliver flags)
      (updateFlags journal cell deliver flags) := by
  rw [updateNoted, updateFlags, updateFlags]
  refine (Task.mimics_modify_beside cell _).bind fun _ _ _ => ?_
  refine (Evaluation.mimics_log journal (replacedEntry flags.keys)).bind fun _ _ _ => ?_
  refine mimics_get fun p => ?_
  have hcell : ((cell.beside (List Announcement)).get p).emitter = (cell.get p.1).emitter := rfl
  rw [hcell]
  cases (cell.get p.1).emitter with
  | none => exact .done rfl
  | some emitter => exact .aside trivial (mimics_within _)

/-- An announcement is noted once, with the flags that are served. -/
theorem announce_ensures (emitter : Emitter) (raised : RaisedEvent) (p : σ × List Announcement) :
    (announce cell deliver emitter raised).Ensures (Cell.first _ _).Confined
      (fun _ q => q.2 = p.2 ++ [⟨emitter, raised, (cell.get p.1).flags⟩]) p := by
  rw [announce, Task.bind_def, Task.ensures_bind, Task.ensures_modify,
    Task.ensures_within (Cell.lawful_first _ _)]
  exact Task.ensures_of_forall (fun _ _ => rfl) _ _

variable {journal cell}

/-- With an emitter attached, the event goes there when the new flags are already served, and
nothing else is announced. -/
theorem updateNoted_ensures (hjournal : ∀ entry s, cell.get (journal entry s) = cell.get s)
    (hcell : ∀ memory s, cell.get (cell.set memory s) = memory) {s : σ} {emitter : Emitter}
    (hattached : (cell.get s).emitter = some emitter) (notes : List Announcement) :
    (updateNoted journal cell deliver flags).Ensures (Cell.first _ _).Confined
      (fun _ q => q.2 = notes ++ [⟨emitter, .configurationChanged flags.keys, flags⟩])
      (s, notes) := by
  rw [updateNoted, updateFlags]
  -- the state in which the provider looks for its emitter
  let replaced : σ × List Announcement :=
    (journal (replacedEntry flags.keys) (cell.set { cell.get s with flags } s), notes)
  have hserved : cell.get replaced.1 = { cell.get s with flags } := by rw [hjournal, hcell]
  have hemitter : ((cell.beside _).get replaced).emitter = some emitter :=
    (congrArg InMemory.emitter hserved).trans hattached
  refine (Task.ensures_bind _ _ _ _).mpr ((Task.ensures_modify _ _ _).mpr ?_)
  refine (Task.ensures_bind _ _ _ _).mpr ((Task.ensures_modify _ _ _).mpr ?_)
  refine (Task.ensures_get_bind _ _ _).mpr ?_
  split
  next hnone => exact absurd (hemitter.symm.trans hnone) (Option.some_ne_none emitter)
  next attached hattached =>
    obtain rfl : emitter = attached := Option.some.inj (hemitter.symm.trans hattached)
    have hannounce :=
      announce_ensures cell deliver emitter (.configurationChanged flags.keys) replaced
    rwa [hserved] at hannounce

/-- **What a replacement of flags announces**, whatever others do to the state meanwhile: one change
of configuration, when the new flags are already served, that lists their keys in ascending order
and none of them twice.  Of the flags that are resolved differently before and after, it lists all
but those that have been removed. -/
theorem replacement_announced (host : Host W) (id : ProviderId) (flags : SortedMap MemoryFlag)
    (s : Api.State W) {emitter : Emitter} (notes : List Announcement)
    (hattached : ((Api.memoryCell id).get s).emitter = some emitter) :
    let cell := Api.memoryCell id
    let before := cell.get s
    let after := { before with flags }
    let replacement := updateNoted host.log cell (Api.deliver host) flags
    let event := RaisedEvent.configurationChanged flags.keys
    Mimics True Eq replacement (updateFlags host.log cell (Api.deliver host) flags) ∧
      replacement.Ensures (Cell.first _ _).Confined
        (fun _ q => q.2 = notes ++ [⟨emitter, event, after.flags⟩]) (s, notes) ∧
      event.event = .configurationChanged ∧
      event.details.flagsChanged.Pairwise (· < ·) ∧ event.details.flagsChanged.Nodup ∧
      (∀ flagKey, Differs before after flagKey ∧ flagKey ∉ event.details.flagsChanged ↔
        flagKey ∈ before.flags.keys ∧ flagKey ∉ flags.keys) := by
  intro cell before after replacement event
  refine ⟨updateNoted_mimics _ _ _ _, ?_, rfl, flags.pairwise_keys, flags.nodup_keys,
    missed_iff_removed before after⟩
  have hcell : ∀ memory (s : Api.State W), cell.get (cell.set memory s) = memory := by
    intro memory s
    change (Table.find? id (Table.put id memory s.memories)).getD _ = memory
    rw [Table.find?_put_self, Option.getD_some]
  have hjournal : ∀ entry s, cell.get (host.log entry s) = cell.get s := fun _ _ => rfl
  exact updateNoted_ensures (Api.deliver host) flags hjournal hcell hattached notes

/-! ### A flag that is removed -/

section Removal

/-- A flag that is on. -/
def flagOn : MemoryFlag where
  defaultVariant := "on"
  variants := SortedMap.empty.insert "on" (.bool true)
  metadata := .empty
  evaluator := none

/-- An instance whose application listens to its provider with a single flag in memory. -/
def servingOld : Api.State Unit :=
  (Api.memoryCell (.application 0)).set
    { flags := SortedMap.empty.insert "old" flagOn, emitter := some (.application 0) }
    (.fresh ())

/-- What is announced when the flags of that provider are replaced. -/
def announcedBy (flags : SortedMap MemoryFlag) : List Announcement :=
  let host := Client.memoryHost
  ((updateNoted host.log (Api.memoryCell (.application 0)) (Api.deliver host) flags).run
    (servingOld, [])).2.2

/-- A flag that is put in the place of another one is listed. -/
theorem addition_listed :
    let flags := SortedMap.empty.insert "new" flagOn
    announcedBy flags = [⟨.application 0, .configurationChanged ["new"], flags⟩] := by
  have hattached : ((Api.memoryCell (.application 0)).get servingOld).emitter =
      some (.application 0) := rfl
  obtain ⟨-, hensures, -⟩ := replacement_announced Client.memoryHost (.application 0)
    (SortedMap.empty.insert "new" flagOn) servingOld [] hattached
  exact Task.run_of_ensures (fun p => ⟨p.1, rfl⟩) hensures

/-- When the only flag is removed, no flag is listed, although it is not found any more. -/
theorem removal_not_listed :
    let before := (Api.memoryCell (.application 0)).get servingOld
    announcedBy .empty = [⟨.application 0, .configurationChanged [], .empty⟩] ∧
      Differs before { before with flags := .empty } "old" ∧ "old" ∉ ([] : List String) := by
  intro before
  have hflag : before.flags.find? "old" = some flagOn := rfl
  exact ⟨rfl, ⟨.boolean, .empty, resolve_ne_notFound hflag _ _⟩, List.not_mem_nil⟩

end Removal

end InMemory

end FeatureFlags
