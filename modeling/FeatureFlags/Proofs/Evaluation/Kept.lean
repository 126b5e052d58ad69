import FeatureFlags.Proofs.Evaluation.Course
import Mathlib.Data.List.Chain

/-!
# What a hook keeps from stage to stage

A chain pairs every hook with a scratch space, and the same hook may stand at several positions.
The scratch space belongs to the position: whichever stage is called there finds what the stage
called there last has left, however that one ended, and what is called at other positions in
between makes no difference.

Each stage goes through the chain in its own order and may stop early.  What carries the argument
is that the chain holds, for every position, what was left there by the calls made so far, and that
a stage calls nothing but the hooks of its own part of the chain.

## Main definitions

* `Evaluation.visitsAt` — the stages called at a position, in the order of the calls.
* `Evaluation.HandsOn` — stages that hand a scratch space on from one to the next.
* `Evaluation.Keeps` — at every position the scratch space is handed on.
* `Evaluation.Went` — what a stage that goes through a part of the chain leaves.

## Main results

* `Evaluation.run_keeps` — **at every position the scratch space is handed on from stage to
  stage.**
-/

namespace FeatureFlags

namespace Evaluation

variable {σ : Type}

/-! ### Stages called at a position -/

/-- The visit of a hook that a call is; a lookup is none. -/
def Call.visit? : Call → Option Visit
  | before visit _ => some visit
  | lookup _ _ _ _ => none
  | after visit _ _ => some visit
  | error visit _ _ => some visit
  | finish visit _ => some visit

/-- The stages called at a position, in the order of the calls. -/
def visitsAt (position : Nat) (calls : List Call) : List Visit :=
  (calls.filterMap Call.visit?).filter (·.position = position)

/-- What is kept after some stages: what the last one left, and nothing if there was none. -/
def keptBy (visits : List Visit) : HookData := (visits.getLast?.map Visit.left).getD .empty

/-- Stages that hand a scratch space on: the first one finds it empty, and each later one finds it
as the one before left it. -/
structure HandsOn (visits : List Visit) : Prop where
  first : ∀ visit ∈ visits.head?, visit.found = .empty
  later : visits.IsChain fun earlier visit => visit.found = earlier.left

/-- At every position the scratch space is handed on. -/
def Keeps (calls : List Call) : Prop := ∀ position, HandsOn (visitsAt position calls)

variable {calls more : List Call} {call : Call} {visit : Visit} {visits : List Visit}
  {position : Nat}

theorem visitsAt_append (position : Nat) (calls more : List Call) :
    visitsAt position (calls ++ more) = visitsAt position calls ++ visitsAt position more := by
  rw [visitsAt, List.filterMap_append, List.filter_append]
  rfl

theorem visitsAt_concat_self (h : call.visit? = some visit) (calls : List Call) :
    visitsAt visit.position (calls ++ [call]) = visitsAt visit.position calls ++ [visit] := by
  rw [visitsAt_append]
  simp [visitsAt, h]

/-- A call at one position is none at the others. -/
theorem visitsAt_concat_of_ne (h : ∀ visit ∈ call.visit?, visit.position ≠ position)
    (calls : List Call) : visitsAt position (calls ++ [call]) = visitsAt position calls := by
  rw [visitsAt_append]
  cases hvisit : call.visit? with
  | none => simp [visitsAt, hvisit]
  | some visit => simp [visitsAt, hvisit, h visit hvisit]

@[simp] theorem keptBy_concat (visits : List Visit) (visit : Visit) :
    keptBy (visits ++ [visit]) = visit.left := by
  simp [keptBy]

theorem handsOn_nil : HandsOn [] := ⟨by simp, .nil⟩

/-- One more stage, which finds what is kept. -/
theorem HandsOn.concat (h : HandsOn visits) (hfound : visit.found = keptBy visits) :
    HandsOn (visits ++ [visit]) := by
  rcases List.eq_nil_or_concat visits with rfl | ⟨before, last, rfl⟩
  · refine ⟨?_, .singleton visit⟩
    intro first hfirst
    rw [← Option.mem_some.mp hfirst]
    exact hfound
  · rw [List.concat_eq_append] at h hfound ⊢
    rw [keptBy_concat] at hfound
    refine ⟨?_, List.isChain_append.mpr ⟨h.later, .singleton visit, ?_⟩⟩
    · simpa using h.first
    · simpa using hfound

theorem HandsOn.of_append {later : List Visit} (h : HandsOn (visits ++ later)) :
    HandsOn visits := by
  refine ⟨?_, (List.isChain_append.mp h.later).1⟩
  cases visits with
  | nil => simp
  | cons first rest => simpa using h.first

theorem keeps_nil : Keeps [] := fun _ => handsOn_nil

/-- What is so of all calls is so of those made up to any point. -/
theorem Keeps.of_append (h : Keeps (calls ++ more)) : Keeps calls := by
  intro position
  have hposition := h position
  rw [visitsAt_append] at hposition
  exact hposition.of_append

/-- A call that finds what is kept at its position. -/
theorem Keeps.concat (h : Keeps calls)
    (hfound : ∀ visit ∈ call.visit?, visit.found = keptBy (visitsAt visit.position calls)) :
    Keeps (calls ++ [call]) := by
  intro position
  by_cases hhere : ∃ visit ∈ call.visit?, visit.position = position
  · obtain ⟨visit, hvisit, rfl⟩ := hhere
    rw [visitsAt_concat_self hvisit]
    exact (h visit.position).concat (hfound visit hvisit)
  · push Not at hhere
    rw [visitsAt_concat_of_ne hhere]
    exact h position

/-! ### Chains that hold what is kept -/

/-- A call of a stage at a position, which finds the scratch space in one state and leaves it in
another. -/
def Call.Visits (call : Call) (position : Nat) (found left : HookData) : Prop :=
  ∃ visit, call.visit? = some visit ∧ visit.position = position ∧ visit.found = found ∧
    visit.left = left

/-- An entry of a chain stands at a position and holds what is kept there. -/
structure Holds (calls : List Call) (entry : HookChain.Entry (Watched σ)) (position : Nat) :
    Prop where
  hook : ∃ hook : Hook σ, entry.hook = hook.watched position
  data : entry.data = keptBy (visitsAt position calls)

/-- A chain that holds what is kept at each of its positions. -/
def Stores (calls : List Call) (chain : HookChain (Watched σ)) (positions : List Nat) : Prop :=
  List.Forall₂ (Holds calls) chain positions

/-- What a stage that goes through the hooks at some positions leaves: a chain that holds what is
kept, and nothing changed at other positions. -/
structure Went (calls : List Call) (positions : List Nat) (after : List Call)
    (chain : HookChain (Watched σ)) : Prop where
  keeps : Keeps after
  stores : Stores after chain positions
  frame : ∀ position ∉ positions, visitsAt position after = visitsAt position calls

variable {chain rest : HookChain (Watched σ)} {positions : List Nat} {after : List Call}
  {entry : HookChain.Entry (Watched σ)} {left : HookData}

/-- What a chain holds does not depend on what is called at other positions. -/
theorem Stores.frame (h : Stores calls chain positions)
    (hsame : ∀ position ∈ positions, visitsAt position more = visitsAt position calls) :
    Stores more chain positions := by
  induction h with
  | nil => exact .nil
  | @cons entry position rest positions hentry _ ih =>
    obtain ⟨hhere, hrest⟩ := List.forall_mem_cons.mp hsame
    exact .cons ⟨hentry.hook, by rw [hentry.data, hhere]⟩ (ih hrest)

/-- A call that finds what an entry holds keeps the scratch spaces apart: what is kept at its own
position is what it left, and nothing changes at the others. -/
theorem Holds.visited (h : Holds calls entry position) (hkeeps : Keeps calls)
    (hcall : call.Visits position entry.data left) :
    Keeps (calls ++ [call]) ∧ Holds (calls ++ [call]) { entry with data := left } position ∧
      ∀ other ≠ position, visitsAt other (calls ++ [call]) = visitsAt other calls := by
  obtain ⟨visit, hvisit, rfl, hfound, rfl⟩ := hcall
  have hone : ∀ visit' ∈ call.visit?, visit' = visit := by
    intro visit' hvisit'
    exact Option.some.inj (hvisit'.symm.trans hvisit)
  refine ⟨hkeeps.concat ?_, ⟨h.hook, ?_⟩, ?_⟩
  · intro visit' hvisit'
    rw [hone visit' hvisit', hfound, h.data]
  · rw [visitsAt_concat_self hvisit, keptBy_concat]
  · intro other hother
    refine visitsAt_concat_of_ne ?_ calls
    intro visit' hvisit'
    rw [hone visit' hvisit']
    exact hother.symm

/-- A stage that calls nobody. -/
theorem Went.refl (hkeeps : Keeps calls) (hstores : Stores calls chain positions) :
    Went calls positions calls chain :=
  ⟨hkeeps, hstores, fun _ _ => rfl⟩

/-- A stage goes through the rest of a chain and calls nobody at the position before it. -/
theorem Went.pass (h : Went calls positions after rest) (hentry : Holds calls entry position)
    (hposition : position ∉ positions) :
    Went calls (position :: positions) after (entry :: rest) where
  keeps := h.keeps
  stores := .cons ⟨hentry.hook, by rw [hentry.data, h.frame position hposition]⟩ h.stores
  frame other hother := h.frame other (List.not_mem_of_not_mem_cons hother)

/-- A stage goes through the rest of a chain, and then calls the hook at the position before it. -/
theorem Went.andThen (h : Went calls positions after rest) (hentry : Holds calls entry position)
    (hposition : position ∉ positions) (hcall : call.Visits position entry.data left) :
    Went calls (position :: positions) (after ++ [call]) ({ entry with data := left } :: rest) := by
  obtain ⟨hhere, hrest⟩ := List.forall₂_cons.mp (h.pass hentry hposition).stores
  obtain ⟨hkeeps, hholds, hframe⟩ := hhere.visited h.keeps hcall
  refine ⟨hkeeps, .cons hholds (Stores.frame hrest ?_), ?_⟩
  · intro other hother
    exact hframe other (ne_of_mem_of_not_mem hother hposition)
  · intro other hother
    rw [hframe other (List.ne_of_not_mem_cons hother),
      h.frame other (List.not_mem_of_not_mem_cons hother)]

/-- A stage calls the hook at a position, and then goes through the rest of the chain. -/
theorem Went.next (hkeeps : Keeps calls) (hentry : Holds calls entry position)
    (hposition : position ∉ positions) (hcall : call.Visits position entry.data left)
    (h : Went (calls ++ [call]) positions after rest) :
    Went calls (position :: positions) after ({ entry with data := left } :: rest) := by
  obtain ⟨-, hholds, hframe⟩ := hentry.visited hkeeps hcall
  have hpass := h.pass hholds hposition
  refine ⟨hpass.keeps, hpass.stores, fun other hother => ?_⟩
  rw [hpass.frame other hother, hframe other (List.ne_of_not_mem_cons hother)]

/-- Stages one after the other. -/
theorem Went.trans {later : List Call} (h : Went calls positions after chain)
    (h' : Went after positions later rest) : Went calls positions later rest :=
  ⟨h'.keeps, h'.stores, fun other hother => (h'.frame other hother).trans (h.frame other hother)⟩

/-! ### The stages -/

/-- The before stage hands the scratch spaces on. -/
theorem runBefore_went (journal : Journal σ) (hints : HookHints)
    (hstores : Stores calls chain positions) (hpositions : positions.Nodup) (hkeeps : Keeps calls)
    (index : Nat) (ctx : HookContext) (given : EvaluationContext) (s : σ) :
    Watched.Ensures (chain.runBefore journal.watched hints index ctx given)
      (fun run q => Went calls positions q.2 run.chain) (s, calls) := by
  induction chain generalizing positions index ctx given s calls with
  | nil => exact Went.refl hkeeps hstores
  | cons entry rest ih =>
    obtain _ | @⟨_, position, _, positions, hentry, hrest⟩ := hstores
    obtain ⟨hposition, hpositions⟩ := List.nodup_cons.mp hpositions
    obtain ⟨_, data⟩ := entry
    obtain ⟨hook, rfl⟩ := hentry.hook
    rw [HookChain.runBefore, Task.bind_def, Watched.ensures_bind]
    refine makes_before hook position ctx hints data _ _ ?_
    rintro call ⟨left, outcome⟩ s hcall
    have hvisits : call.Visits position data left := by
      rw [hcall]
      exact ⟨_, rfl, rfl, rfl, rfl⟩
    obtain ⟨hkeeps', -, hframe⟩ := hentry.visited hkeeps hvisits
    have hrest' : Stores (calls ++ [call]) rest positions :=
      Stores.frame hrest fun other hother =>
        hframe other (ne_of_mem_of_not_mem hother hposition)
    -- whether context was given or not, the rest of the stage runs from this call on
    have hnext : ∀ (next : HookContext) (given : EvaluationContext) (s : σ),
        Watched.Ensures (HookChain.runBefore journal.watched hints (index + 1) next given rest)
          (fun run q => Went calls (position :: positions) q.2
            (⟨hook.watched position, left⟩ :: run.chain)) (s, calls ++ [call]) := by
      intro next given s
      refine (ih hrest' hpositions hkeeps' (index + 1) next given s).mono ?_
      rintro run q hrun
      exact .next hkeeps hentry hposition hvisits hrun
    dsimp only
    cases outcome.toExcept with
    | error err => exact .next hkeeps hentry hposition hvisits (.refl hkeeps' hrest')
    | ok more =>
      cases more with
      | none =>
        dsimp only
        rw [Task.bind_def, Watched.ensures_bind]
        exact hnext ctx given s
      | some more =>
        dsimp only
        rw [Task.bind_def, Watched.ensures_bind, Watched.ensures_log, Task.bind_def,
          Watched.ensures_bind]
        exact hnext (ctx.extend more) (given.merge more) _

/-- The after stage hands the scratch spaces on. -/
theorem runAfter_went (hints : HookHints) (ctx : HookContext)
    (details : EvaluationDetails FlagValue) (hstores : Stores calls chain positions)
    (hpositions : positions.Nodup) (hkeeps : Keeps calls) (s : σ) :
    Watched.Ensures (chain.runAfter hints ctx details)
      (fun after q => Went calls positions q.2 after.1) (s, calls) := by
  induction hstores with
  | nil => exact Went.refl hkeeps .nil
  | @cons entry position rest positions hentry _ ih =>
    obtain ⟨hposition, hpositions⟩ := List.nodup_cons.mp hpositions
    obtain ⟨_, data⟩ := entry
    obtain ⟨hook, rfl⟩ := hentry.hook
    rw [HookChain.runAfter, Task.bind_def, Watched.ensures_bind]
    refine (ih hpositions).mono ?_
    rintro ⟨after, result⟩ q hwent
    cases result with
    | error err => exact hwent.pass hentry hposition
    | ok =>
      dsimp only
      rw [Task.bind_def, Watched.ensures_bind]
      refine makes_after hook position ctx details hints data _ q ?_
      rintro call ⟨left, outcome⟩ s hcall
      refine hwent.andThen hentry hposition ?_
      rw [hcall]
      exact ⟨_, rfl, rfl, rfl, rfl⟩

/-- A stage in which every hook runs hands the scratch spaces on. -/
theorem runAll_went (journal : Journal σ) (stage : String) (ctx : HookContext)
    (call : Hook (Watched σ) → HookData → Task (Watched σ) (HookData × Outcome Unit))
    (hcall : ∀ (hook : Hook σ) position data, Makes (call (hook.watched position) data)
      fun c ended => c.Visits position data ended.1)
    (hstores : Stores calls chain positions) (hpositions : positions.Nodup) (hkeeps : Keeps calls)
    (index : Nat) (s : σ) :
    Watched.Ensures (chain.runAll journal.watched stage ctx call index)
      (fun after q => Went calls positions q.2 after) (s, calls) := by
  induction hstores generalizing index with
  | nil => exact Went.refl hkeeps .nil
  | @cons entry position rest positions hentry _ ih =>
    obtain ⟨hposition, hpositions⟩ := List.nodup_cons.mp hpositions
    obtain ⟨_, data⟩ := entry
    obtain ⟨hook, rfl⟩ := hentry.hook
    rw [HookChain.runAll, Task.bind_def, Watched.ensures_bind]
    refine (ih hpositions (index + 1)).mono ?_
    rintro after q hwent
    rw [Task.bind_def, Watched.ensures_bind]
    refine hcall hook position data _ q ?_
    rintro c ⟨left, outcome⟩ s hvisits
    have hend := hwent.andThen hentry hposition hvisits
    dsimp only
    rw [Task.bind_def, Watched.ensures_bind]
    cases HookChain.passedOver? stage index ctx outcome with
    | none => exact hend
    | some entry => exact hend

theorem runError_went (journal : Journal σ) (hints : HookHints) (ctx : HookContext)
    (err : EvaluationError) (hstores : Stores calls chain positions)
    (hpositions : positions.Nodup) (hkeeps : Keeps calls) (s : σ) :
    Watched.Ensures (chain.runError journal.watched hints ctx err)
      (fun after q => Went calls positions q.2 after) (s, calls) := by
  refine runAll_went journal "error" ctx _ ?_ hstores hpositions hkeeps 0 s
  intro hook position data Q q hQ
  refine makes_error hook position ctx err hints data Q q ?_
  rintro call ⟨left, outcome⟩ s rfl
  exact hQ _ _ s ⟨_, rfl, rfl, rfl, rfl⟩

theorem runFinish_went (journal : Journal σ) (hints : HookHints) (ctx : HookContext)
    (hstores : Stores calls chain positions) (hpositions : positions.Nodup) (hkeeps : Keeps calls)
    (s : σ) :
    Watched.Ensures (chain.runFinish journal.watched hints ctx)
      (fun after q => Went calls positions q.2 after) (s, calls) := by
  refine runAll_went journal "finally_after" ctx _ ?_ hstores hpositions hkeeps 0 s
  intro hook position data Q q hQ
  refine makes_finish hook position ctx hints data Q q ?_
  rintro call ⟨left, outcome⟩ s rfl
  exact hQ _ _ s ⟨_, rfl, rfl, rfl, rfl⟩

/-! ### The whole evaluation -/

/-- The steps that may fail hand the scratch spaces on. -/
theorem attempt_went (journal : Journal σ) (e : Evaluation σ)
    (hstores : Stores calls chain positions) (hpositions : positions.Nodup) (hkeeps : Keeps calls)
    (s : σ) :
    Watched.Ensures (e.watched.attempt journal.watched chain)
      (fun tried q => Went calls positions q.2 tried.chain) (s, calls) := by
  rw [attempt]
  by_cases hkind : e.watched.defaultValue.type ≠ e.watched.flagType
  · rw [if_pos hkind]
    exact Went.refl hkeeps hstores
  rw [if_neg hkind, Task.bind_def, Watched.ensures_bind]
  refine (runBefore_went journal _ hstores hpositions hkeeps 0 _ _ s).mono ?_
  rintro ⟨after, ctx, given⟩ q hbefore
  cases given with
  | error err => exact hbefore
  | ok given =>
    dsimp only at hbefore ⊢
    rw [Task.bind_def, Watched.ensures_bind]
    refine makes_lookup e.provider _ _ _ _ q ?_
    rintro call outcome s hcall
    -- a lookup is called at no position
    have hlookup : Went calls positions (q.2 ++ [call]) after := by
      have hnone : call.visit? = none := by rw [hcall]; rfl
      refine hbefore.trans ⟨hbefore.keeps.concat ?_, hbefore.stores.frame ?_, ?_⟩
      · simp [hnone]
      · exact fun position _ => visitsAt_concat_of_ne (by simp [hnone]) q.2
      · exact fun position _ => visitsAt_concat_of_ne (by simp [hnone]) q.2
    cases outcome.toExcept.bind e.watched.accept with
    | error err => exact hlookup
    | ok details =>
      dsimp only
      rw [Task.bind_def, Watched.ensures_bind]
      refine (runAfter_went _ ctx details hlookup.stores hpositions hlookup.keeps s).mono ?_
      rintro ⟨final, result⟩ q' hafter
      exact hlookup.trans hafter

theorem runWith_keeps (journal : Journal σ) (e : Evaluation σ)
    (hstores : Stores calls chain positions) (hpositions : positions.Nodup) (hkeeps : Keeps calls)
    (s : σ) :
    Watched.Ensures (e.watched.runWith journal.watched chain) (fun _ q => Keeps q.2)
      (s, calls) := by
  rw [runWith, Task.bind_def, Watched.ensures_bind, Watched.ensures_log]
  -- the evaluation ends with the finish stage, in any case
  have hfinish : ∀ {after : HookChain (Watched σ)} (ctx : HookContext) {before : List Call}
      (q : Watched σ), Went before positions q.2 after →
        Watched.Ensures (after.runFinish journal.watched e.watched.hints ctx)
          (fun _ q => Keeps q.2) q := by
    intro after ctx before q hwent
    exact (runFinish_went journal _ ctx hwent.stores hpositions hwent.keeps q.1).mono
      fun _ _ h => h.keeps
  cases e.watched.status.shortCircuitCode? with
  | some code =>
    dsimp only
    rw [Task.bind_def, Watched.ensures_bind]
    refine (runError_went journal _ _ _ hstores hpositions hkeeps _).mono ?_
    rintro after q hwent
    rw [Task.bind_def, Watched.ensures_bind]
    exact hfinish _ q hwent
  | none =>
    dsimp only
    rw [Task.bind_def, Watched.ensures_bind]
    refine (attempt_went journal e hstores hpositions hkeeps _).mono ?_
    rintro ⟨after, ctx, result⟩ q hwent
    cases result with
    | ok details =>
      dsimp only
      rw [Task.bind_def, Watched.ensures_bind]
      exact hfinish ctx q hwent
    | error err =>
      dsimp only
      rw [Task.bind_def, Watched.ensures_bind, Watched.ensures_log, Task.bind_def,
        Watched.ensures_bind]
      refine (runError_went journal _ ctx err hwent.stores hpositions hwent.keeps _).mono ?_
      rintro final q' hwent'
      rw [Task.bind_def, Watched.ensures_bind]
      exact hfinish ctx q' hwent'

/-- The hooks that take part begin with an empty scratch space each. -/
theorem data_of_select {t : FlagType} {hooks : List (Hook σ)} {chain : HookChain σ}
    (h : HookChain.select t hooks = .ok chain) : ∀ entry ∈ chain, entry.data = .empty := by
  induction hooks generalizing chain with
  | nil =>
    rw [← Except.ok.inj h]
    simp
  | cons hook rest ih =>
    rw [HookChain.select] at h
    split at h
    · exact absurd h (by simp)
    · split at h
      · exact absurd h (by simp)
      · rename_i supported _ _ chain' hselect
        rw [← Except.ok.inj h]
        cases supported with
        | false => exact ih hselect
        | true => exact List.forall_mem_cons.mpr ⟨rfl, ih hselect⟩

/-- A chain of empty scratch spaces, before the first call. -/
theorem Watches.stores (h : Watches chain positions)
    (hdata : ∀ entry ∈ chain, entry.data = .empty) : Stores [] chain positions := by
  induction h with
  | nil => exact .nil
  | cons hentry _ ih =>
    obtain ⟨hhere, hrest⟩ := List.forall_mem_cons.mp hdata
    exact .cons ⟨hentry, hhere⟩ (ih hrest)

/-- No two hooks stand at the same position. -/
theorem nodup_positions (e : Evaluation σ) : e.positions.Nodup := by
  have hall : (e.hooks.zipIdx.map (·.2)).Nodup := by
    rw [List.zipIdx_map_snd]
    exact List.nodup_range'
  exact hall.sublist (List.filter_sublist.map _)

/-- **At every position the scratch space is handed on from stage to stage**, from an empty one
on. -/
theorem run_keeps (journal : Journal σ) (e : Evaluation σ) (s : σ) :
    Watched.Ensures (e.watched.run journal.watched) (fun _ q => Keeps q.2) (s, []) := by
  have hselect := select_watched e.flagType e.hooks 0
  rw [run]
  cases hchain : HookChain.select e.flagType e.hooks with
  | error panic =>
    rw [hchain] at hselect
    have hwatched : HookChain.select e.watched.flagType e.watched.hooks = .error panic := hselect
    rw [hwatched]
    exact keeps_nil
  | ok chain =>
    rw [hchain] at hselect
    obtain ⟨watched, heq, hwatches⟩ := hselect
    have hwatched : HookChain.select e.watched.flagType e.watched.hooks = .ok watched := heq
    rw [hwatched]
    have hstores : Stores [] watched e.positions := Watches.stores hwatches (data_of_select heq)
    exact (Task.ensures_map _ _ _ _).mpr
      (runWith_keeps journal e hstores e.nodup_positions keeps_nil s)

end Evaluation

end FeatureFlags
