import FeatureFlags.Proofs.Evaluation.Noting
import FeatureFlags.Proofs.Multi.Answers

/-!
# Answers gathered from segments of sub-providers

A strategy that takes the first answer that is no error prefers an answer to all that come after it
unless it is an error.  This is associative, so it does not matter how the sub-providers are put
into groups: what a group of them makes of its answers is one more answer, and the first that is no
error among these is the first that is no error among all.

A group is a *segment* of positions.  What is asked of a segment is noted under its positions, and
what it answers is told by the outcomes at these positions, whether they are asked in turn or all at
once, and whoever is left out.

## Main definitions

* `MultiProvider.prefer` — the one of two answers that is taken.
* `MultiProvider.Gathers` — an answer gathered from the outcomes at a segment of positions.
* `MultiProvider.Spans` — a sub-provider that answers with what it gathers from a segment.
* `MultiProvider.Covers` — sub-providers that span one segment after the other.

## Main results

* `MultiProvider.Gathers.append` — two segments in a row.
* `MultiProvider.resolveValue_gathers` — **a lookup gathers from all segments of its
  sub-providers.**
* `MultiProvider.Covers.spans` — a multi-provider spans what its own sub-providers cover.
-/

namespace FeatureFlags

namespace MultiProvider

open FeatureFlags.Task (Contributes contributes_done contributes_map contributes_modify)
open Multi (Relay Strategy SubProvider)

variable {σ : Type}

/-! ### Preferring answers -/

section Prefer

variable {α : Type} {last last' r : Resolution α} {answers : List (Resolution α)}

/-- The one of two answers that is taken: the first, unless it is an error. -/
def prefer (r r' : Resolution α) : Resolution α := if r.isError then r' else r

theorem prefer_of_error (h : last.isError = true) (r : Resolution α) : prefer last r = r :=
  if_pos h

theorem prefer_of_sound (h : last.isError = false) (r : Resolution α) : prefer last r = last :=
  if_neg (Bool.eq_false_iff.mp h)

theorem foldl_prefer_of_sound (h : last.isError = false) (answers : List (Resolution α)) :
    answers.foldl prefer last = last := by
  induction answers with
  | nil => rfl
  | cons r rest ih => rw [List.foldl_cons, prefer_of_sound h, ih]

theorem foldl_prefer_cons (h : last.isError = true) (r : Resolution α)
    (answers : List (Resolution α)) :
    (r :: answers).foldl prefer last = answers.foldl prefer r := by
  rw [List.foldl_cons, prefer_of_error h]

/-- An error before some answers is of no account. -/
theorem foldl_prefer_congr (h : last.isError = true) (h' : last'.isError = true)
    (hsome : answers ≠ []) : answers.foldl prefer last = answers.foldl prefer last' := by
  obtain ⟨r, rest, rfl⟩ := List.exists_cons_of_ne_nil hsome
  rw [foldl_prefer_cons h, foldl_prefer_cons h']

theorem foldl_prefer_mem (answers : List (Resolution α)) (last : Resolution α) :
    answers.foldl prefer last = last ∨ answers.foldl prefer last ∈ answers := by
  induction answers generalizing last with
  | nil => exact .inl rfl
  | cons r rest ih =>
    rw [List.foldl_cons]
    rcases ih (prefer last r) with heq | hmem
    · rw [heq, prefer]
      split
      · exact .inr List.mem_cons_self
      · exact .inl rfl
    · exact .inr (List.mem_cons_of_mem _ hmem)

/-- Values have no part in it. -/
theorem map_foldl_prefer {β : Type} (f : α → β) (answers : List (Resolution α))
    (last : Resolution α) :
    (answers.foldl prefer last).map f =
      (answers.map (Resolution.map f)).foldl prefer (last.map f) := by
  induction answers generalizing last with
  | nil => rfl
  | cons r rest ih =>
    have hprefer : (prefer last r).map f = prefer (last.map f) (r.map f) := by
      have herror : (last.map f).isError = last.isError := rfl
      rw [prefer, prefer, herror]
      split <;> rfl
    rw [List.foldl_cons, ih, hprefer, List.map_cons, List.foldl_cons]

/-- The first answer that is no error is selected. -/
theorem select_eq_foldl {last : Resolution FlagValue} (h : last.isError = true)
    (answers : List (String × Resolution FlagValue)) :
    select (fun a => !a.2.isError) last answers = (answers.map (·.2)).foldl prefer last := by
  induction answers generalizing last with
  | nil => rfl
  | cons a rest ih =>
    rw [List.map_cons, foldl_prefer_cons h]
    cases herror : a.2.isError with
    | false =>
      rw [select_cons_of_accepted (by rw [herror]; rfl), foldl_prefer_of_sound herror]
    | true =>
      rw [select_cons_of_not (by rw [herror]; rfl), ih herror]

end Prefer

/-! ### Segments -/

/-- An outcome whose answer, if there is one, is valid for a flag type. -/
def Fit (t : FlagType) (o : Outcome (Resolution FlagValue)) : Prop :=
  ∀ r, o = .returned r → r.value.isValidFor t

section Segments

variable (flagKey : String) (defaultValue : FlagValue) (ctx : EvaluationContext)

/-- Lookups with the outcomes at their positions. -/
def AgreeAt (outcomeAt : Nat → Outcome (Resolution FlagValue)) (asked : List Asked) : Prop :=
  ∀ a ∈ asked, a = ⟨a.position, flagKey, defaultValue, ctx, outcomeAt a.position⟩

/-- An answer gathered from a segment of positions, after an answer `last`: only these positions
are asked; the lookups have outcomes of the flag type that is asked for; and the answer is the one
preferred among those that the outcomes at all these positions count as, whichever agree with the
lookups.  This takes for granted that what was answered is valid. -/
structure Gathers (start count : Nat) (last r : Resolution FlagValue) (asked : List Asked) :
    Prop where
  inside : ∀ a ∈ asked, start ≤ a.position ∧ a.position < start + count
  possible : ∃ outcomeAt : Nat → Outcome (Resolution defaultValue.type.Carrier),
    AgreeAt flagKey defaultValue ctx (fun i => asValue _ (outcomeAt i)) asked ∧
      ((∀ a ∈ asked, Fit defaultValue.type a.outcome) →
        ∀ i, Fit defaultValue.type (asValue _ (outcomeAt i)))
  result : (∀ a ∈ asked, Fit defaultValue.type a.outcome) →
    ∀ outcomeAt, AgreeAt flagKey defaultValue ctx outcomeAt asked →
      r = ((List.range' start count).map fun i => answer defaultValue (outcomeAt i)).foldl prefer
        last

variable {flagKey defaultValue ctx} {start count count' : Nat}
  {last last' r r' : Resolution FlagValue} {asked asked' : List Asked}

theorem Gathers.perm (h : Gathers flagKey defaultValue ctx start count last r asked)
    (hperm : asked.Perm asked') : Gathers flagKey defaultValue ctx start count last r asked' where
  inside a ha := h.inside a (hperm.mem_iff.mpr ha)
  possible := by
    obtain ⟨outcomeAt, hagree, hfit⟩ := h.possible
    exact ⟨outcomeAt, fun a ha => hagree a (hperm.mem_iff.mpr ha),
      fun hasked => hfit fun a ha => hasked a (hperm.mem_iff.mp ha)⟩
  result hasked outcomeAt hagree :=
    h.result (fun a ha => hasked a (hperm.mem_iff.mp ha)) outcomeAt
      fun a ha => hagree a (hperm.mem_iff.mp ha)

/-- Nobody is asked, if the outcomes are of no account. -/
theorem gathers_nil
    (h : ∀ outcomeAt : Nat → Outcome (Resolution FlagValue),
      r = ((List.range' start count).map fun i =>
        answer defaultValue (outcomeAt i)).foldl prefer last) :
    Gathers flagKey defaultValue ctx start count last r [] where
  inside _ ha := absurd ha List.not_mem_nil
  possible := by
    refine ⟨fun _ => .failed (.general ""), fun _ ha => absurd ha List.not_mem_nil, ?_⟩
    rintro - i r ⟨⟩
  result _ outcomeAt _ := h outcomeAt

/-- Whoever is asked after an answer that is no error, the answer stays. -/
theorem Gathers.stays (h : Gathers flagKey defaultValue ctx start count last r' asked)
    (hsound : r.isError = false) : Gathers flagKey defaultValue ctx start count r r asked where
  inside := h.inside
  possible := h.possible
  result _ _ _ := (foldl_prefer_of_sound hsound _).symm

/-- It is of no account which error comes before a segment. -/
theorem Gathers.congr_last (h : Gathers flagKey defaultValue ctx start count last r asked)
    (hcount : 0 < count) (hlast : last.isError = true) (hlast' : last'.isError = true) :
    Gathers flagKey defaultValue ctx start count last' r asked where
  inside := h.inside
  possible := h.possible
  result hasked outcomeAt hagree := by
    rw [h.result hasked outcomeAt hagree]
    refine foldl_prefer_congr hlast hlast' fun hnil => ?_
    have hlength := congrArg List.length hnil
    rw [List.length_map, List.length_range', List.length_nil] at hlength
    omega

/-- **Two segments in a row** make one. -/
theorem Gathers.append (h : Gathers flagKey defaultValue ctx start count last r asked)
    (h' : Gathers flagKey defaultValue ctx (start + count) count' r r' asked') :
    Gathers flagKey defaultValue ctx start (count + count') last r' (asked ++ asked') where
  inside a ha := by
    rcases List.mem_append.mp ha with ha | ha
    · have hinside := h.inside a ha
      omega
    · have hinside := h'.inside a ha
      omega
  possible := by
    obtain ⟨outcomeAt, hagree, hfit⟩ := h.possible
    obtain ⟨outcomeAt', hagree', hfit'⟩ := h'.possible
    refine ⟨fun i => if i < start + count then outcomeAt i else outcomeAt' i, fun a ha => ?_, ?_⟩
    · dsimp only
      rcases List.mem_append.mp ha with ha | ha
      · rw [if_pos (h.inside a ha).2]
        exact hagree a ha
      · rw [if_neg (Nat.not_lt.mpr (h'.inside a ha).1)]
        exact hagree' a ha
    · intro hasked i
      dsimp only
      split
      · exact hfit (fun a ha => hasked a (List.mem_append_left _ ha)) i
      · exact hfit' (fun a ha => hasked a (List.mem_append_right _ ha)) i
  result hasked outcomeAt hagree := by
    have hfirst := h.result (fun a ha => hasked a (List.mem_append_left _ ha)) outcomeAt
      fun a ha => hagree a (List.mem_append_left _ ha)
    have hsecond := h'.result (fun a ha => hasked a (List.mem_append_right _ ha)) outcomeAt
      fun a ha => hagree a (List.mem_append_right _ ha)
    rw [List.range'_append_1.symm, List.map_append, List.foldl_append, ← hfirst, ← hsecond]

/-- A single sub-provider. -/
theorem gathers_one (o : Outcome (Resolution defaultValue.type.Carrier)) (start : Nat)
    (hlast : last.isError = true) :
    Gathers flagKey defaultValue ctx start 1 last (answer defaultValue (asValue _ o))
      (asks flagKey defaultValue ctx start [asValue _ o]) where
  inside a ha := by
    rw [List.mem_singleton.mp ha]
    exact ⟨Nat.le_refl _, Nat.lt_succ_self _⟩
  possible := by
    refine ⟨fun _ => o, fun a ha => ?_, fun hasked _ => hasked _ List.mem_cons_self⟩
    rw [List.mem_singleton.mp ha]
  result _ outcomeAt hagree := by
    have hone := congrArg Asked.outcome (hagree _ List.mem_cons_self)
    change asValue _ o = outcomeAt start at hone
    rw [hone]
    exact (prefer_of_error hlast _).symm

/-- An answer gathered after a valid one is valid. -/
theorem Gathers.valid (h : Gathers flagKey defaultValue ctx start count last r asked)
    (hdefault : defaultValue.isValidFor defaultValue.type)
    (hlast : last.value.isValidFor defaultValue.type)
    (hasked : ∀ a ∈ asked, Fit defaultValue.type a.outcome) :
    r.value.isValidFor defaultValue.type := by
  obtain ⟨outcomeAt, hagree, hfit⟩ := h.possible
  rw [h.result hasked _ hagree]
  rcases foldl_prefer_mem ((List.range' start count).map fun i =>
    answer defaultValue (asValue _ (outcomeAt i))) last with heq | hmem
  · rw [heq]
    exact hlast
  · obtain ⟨i, -, hi⟩ := List.mem_map.mp hmem
    rw [← hi, answer]
    cases hend : (asValue _ (outcomeAt i)).toExcept with
    | ok answered => exact hfit hasked i answered (Outcome.toExcept_eq_ok_iff.mp hend)
    | error e => exact hdefault

/-- An answer that is not valid does not come about. -/
theorem Gathers.of_not_valid (h : Gathers flagKey defaultValue ctx start count last r asked)
    (hdefault : defaultValue.isValidFor defaultValue.type)
    (hlast : last.value.isValidFor defaultValue.type)
    (hvalid : ¬r.value.isValidFor defaultValue.type) :
    Gathers flagKey defaultValue ctx start count last' r' asked where
  inside := h.inside
  possible := h.possible
  result hasked _ _ := absurd (h.valid hdefault hlast hasked) hvalid

end Segments

/-! ### Sub-providers that stand for segments -/

section Spans

variable (journal : Journal σ) (flagKey : String) (defaultValue : FlagValue)
  (ctx : EvaluationContext)

/-- A sub-provider that counts as an answer gathered from a segment, whichever error came before
it. -/
def Spans (start count : Nat) (w : SubProvider (Overheard σ)) : Prop :=
  Contributes (fun r asked => ∀ last : Resolution FlagValue, last.isError = true →
      Gathers flagKey defaultValue ctx start count last r asked)
    (consult (overhearJournal journal) flagKey defaultValue ctx w)

/-- Sub-providers that span segments, one after the other and none of them empty. -/
inductive Covers : Nat → Nat → List (SubProvider (Overheard σ)) → Prop where
  | nil {start : Nat} : Covers start 0 []
  | cons {start count more : Nat} {w : SubProvider (Overheard σ)}
      {rest : List (SubProvider (Overheard σ))}
      (hw : Spans journal flagKey defaultValue ctx start count w) (hcount : 0 < count)
      (hrest : Covers (start + count) more rest) : Covers start (count + more) (w :: rest)

/-- A sub-provider that is overheard spans its position. -/
theorem spans_overhearSub (sub : SubProvider σ) (position : Nat) :
    Spans journal flagKey defaultValue ctx position 1 (overhearSub sub position) := by
  refine (consult_contributes_typed journal flagKey defaultValue ctx sub position).mono ?_
  rintro _ _ ⟨o, rfl, rfl⟩ last hlast
  exact gathers_one o position hlast

/-- Sub-providers that are overheard cover their positions. -/
theorem covers_overhear (subs : List (SubProvider σ)) (start : Nat) :
    Covers journal flagKey defaultValue ctx start subs.length
      ((subs.zipIdx start).map fun (sub, position) => overhearSub sub position) := by
  induction subs generalizing start with
  | nil => exact .nil
  | cons sub rest ih =>
    rw [List.length_cons, Nat.add_comm]
    exact .cons (spans_overhearSub journal flagKey defaultValue ctx sub start) Nat.one_pos
      (ih (start + 1))

variable {journal flagKey defaultValue ctx} {start count : Nat}
  {subs : List (SubProvider (Overheard σ))} {strategy : Strategy (Overheard σ)}

/-- Asking in turn gathers from all segments. -/
theorem resolveInTurn_gathers (h : TakesSound strategy)
    (hcovers : Covers journal flagKey defaultValue ctx start count subs)
    {last : Resolution FlagValue} (hlast : last.isError = true) :
    Contributes (Gathers flagKey defaultValue ctx start count last)
      (resolveInTurn strategy flagKey (consult (overhearJournal journal) flagKey defaultValue ctx)
        last subs) := by
  induction hcovers generalizing last with
  | nil => exact contributes_done (gathers_nil fun _ => rfl)
  | cons hw hcount hrest ih =>
    refine hw.bind fun r asked hr => ?_
    change Contributes _ ((strategy.accepts flagKey _ r).bind _)
    rw [h, Task.bind_done]
    beta_reduce
    cases herror : r.isError with
    | false =>
      -- nobody of the rest is asked
      exact contributes_done
        ((hr last hlast).append (gathers_nil fun _ => (foldl_prefer_of_sound herror _).symm))
    | true => exact (ih herror).mono fun r' asked' hr' => (hr last hlast).append hr'

/-- Asking all at once leaves the answers of all segments. -/
theorem askAll_gathers (hcovers : Covers journal flagKey defaultValue ctx start count subs) :
    Contributes (fun answers asked => answers.length = subs.length ∧
        ∀ last : Resolution FlagValue, last.isError = true →
          Gathers flagKey defaultValue ctx start count last (answers.foldl prefer last) asked)
      (Task.all (subs.map (consult (overhearJournal journal) flagKey defaultValue ctx))) := by
  induction hcovers with
  | nil => exact contributes_done ⟨rfl, fun last _ => gathers_nil fun _ => rfl⟩
  | cons hw hcount hrest ih =>
    intro p
    refine ((hw p).both ih (List.Perm.refl _)).bind ?_
    rintro ⟨r, answers⟩ asked ⟨first, second, hr, ⟨hlength, hanswers⟩, hasked⟩ _
    refine ⟨congrArg (· + 1) hlength, fun last hlast => ?_⟩
    rw [foldl_prefer_cons hlast]
    refine ((hr last hlast).append ?_).perm hasked.symm
    cases herror : r.isError with
    | false =>
      rw [foldl_prefer_of_sound herror]
      exact (hanswers last hlast).stays herror
    | true => exact hanswers r herror

/-- **A lookup gathers from all segments of its sub-providers**, in either mode. -/
theorem resolveValue_gathers {m : MultiProvider (Overheard σ)} (h : TakesSound m.strategy)
    (hcovers : Covers journal flagKey defaultValue ctx start count m.subs) :
    Contributes (Gathers flagKey defaultValue ctx start count (noAnswer defaultValue))
      (m.resolveValue (overhearJournal journal) flagKey defaultValue ctx) := by
  unfold resolveValue
  cases m.strategy.mode with
  | sequential => exact resolveInTurn_gathers h hcovers rfl
  | parallel =>
    refine (askAll_gathers hcovers).bind ?_
    rintro answers asked ⟨hlength, hanswers⟩
    have hzip : ((m.subs.zip answers).map fun a => (a.1.name, a.2)).map (·.2) = answers := by
      rw [List.map_map]
      exact List.map_snd_zip (Nat.le_of_eq hlength)
    rw [choose_eq_select h, select_eq_foldl rfl, hzip]
    refine contributes_done ?_
    rw [List.append_nil]
    exact hanswers _ rfl

/-- **A multi-provider spans what its own sub-providers cover**: what it makes of their answers is
one more answer, whether it has found one or not. -/
theorem Covers.spans {m : MultiProvider (Overheard σ)}
    (hcovers : Covers journal flagKey defaultValue ctx start count m.subs)
    (h : TakesSound m.strategy) (hcount : 0 < count)
    (hdefault : defaultValue.isValidFor defaultValue.type) (name : String)
    (relay : Cell (Overheard σ) Relay) :
    Spans journal flagKey defaultValue ctx start count
      ⟨name, m.toProvider (overhearJournal journal) relay⟩ := by
  have hlookup : Contributes
      (fun outcome asked => ∃ r, outcome = Evaluation.givenBack defaultValue.type r ∧
        Gathers flagKey defaultValue ctx start count (noAnswer defaultValue) r asked)
      ((m.toProvider (overhearJournal journal) relay).resolveValue flagKey defaultValue ctx) := by
    refine contributes_map _ (contributes_map _ ?_)
    rw [FlagValue.ofCarrier_payload]
    refine (resolveValue_gathers h hcovers).mono fun r asked hr => ?_
    exact ⟨r, Evaluation.ofExcept_toCarrier defaultValue.type r, hr⟩
  refine hlookup.bind ?_
  rintro _ asked ⟨r, rfl, hr⟩
  rw [Evaluation.givenBack]
  by_cases hvalid : r.value.isValidFor defaultValue.type
  · rw [if_pos hvalid]
    refine contributes_done fun last hlast => ?_
    rw [List.append_nil]
    exact hr.congr_last hcount rfl hlast
  · rw [if_neg hvalid]
    refine (contributes_modify _).bind ?_
    rintro - _ rfl
    refine contributes_done fun last hlast => ?_
    rw [List.append_nil, List.append_nil]
    exact hr.of_not_valid hdefault hdefault hvalid

end Spans

end MultiProvider

end FeatureFlags
