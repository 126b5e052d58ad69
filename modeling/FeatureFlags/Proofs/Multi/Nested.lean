import FeatureFlags.Proofs.Multi.Gathered
import FeatureFlags.Proofs.Multi.Names
import FeatureFlags.Proofs.Task.Amid

/-!
# A multi-provider inside a multi-provider

A multi-provider is a provider, so it may stand among the sub-providers of another one.  With
strategies that take the first answer that is no error this makes no difference: the inner
multi-provider may as well be left out and its sub-providers put in its place.  If it finds no
answer it answers with its last error, and this is what the outer one would have come to by asking
the same sub-providers itself.

The sub-providers of both are overheard, those of the inner multi-provider at positions from where
it stands.

## Main definitions

* `MultiProvider.overheardNested` — a multi-provider that is overheard together with one inside it.
* `MultiProvider.firstSound` — the first answer that is no error.
* `MultiProvider.GivesFirstSound` — a lookup that gives it.

## Main results

* `MultiProvider.GivesFirstSound.eq` — two such lookups give the same.
* `MultiProvider.nested_flattens` — **nested multi-providers give what a flat one gives.**
-/

namespace FeatureFlags

namespace MultiProvider

open FeatureFlags.Task (Contributes Mimics contributes_map)
open Multi (Entry Relay Strategy SubProvider)

variable {σ α : Type}

/-! ### Typed answers -/

/-- What the outcome of a lookup of a flag type counts as. -/
def typedAnswer (fallback : α) (o : Outcome (Resolution α)) : Resolution α :=
  match o.toExcept with
  | .ok r => r
  | .error e => .ofError fallback e

/-- The first answer that is no error, or else the last one, or an error if there is none. -/
def firstSound (fallback : α) (outcomes : List (Outcome (Resolution α))) : Resolution α :=
  (outcomes.map (typedAnswer fallback)).foldl prefer
    (.ofError fallback (.general "No provider returned a result"))

/-- A lookup through sub-providers that gives the first answer that is no error: some outcomes of
all of them agree with the lookups that they were asked for, and for all that do it is the first
such answer among them, whatever the outcomes of those who were not asked.  This takes for granted
that JSON data that were answered are arrays or objects. -/
def GivesFirstSound (t : FlagType) (flagKey : String) (fallback : t.Carrier)
    (ctx : EvaluationContext) (count : Nat) (outcome : Outcome (Resolution t.Carrier))
    (asked : List Asked) : Prop :=
  (∃ outcomes : List (Outcome (Resolution t.Carrier)), outcomes.length = count ∧
    Agree flagKey (.ofCarrier t fallback) ctx (outcomes.map (asValue t)) asked) ∧
  ((t = .object → ∀ a ∈ asked, Fit .object a.outcome) →
    ∀ outcomes : List (Outcome (Resolution t.Carrier)), outcomes.length = count →
      Agree flagKey (.ofCarrier t fallback) ctx (outcomes.map (asValue t)) asked →
        outcome = .returned (firstSound fallback outcomes))

section Typed

variable {t : FlagType} {flagKey : String} {fallback : t.Carrier} {defaultValue : FlagValue}
  {ctx : EvaluationContext} {count : Nat} {last r : Resolution FlagValue} {asked : List Asked}

theorem answer_asValue (fallback : t.Carrier) (o : Outcome (Resolution t.Carrier)) :
    answer (.ofCarrier t fallback) (asValue t o) =
      (typedAnswer fallback o).map (FlagValue.ofCarrier t) := by
  cases o <;> rfl

/-- The answer preferred among those of a flag type is of that type. -/
theorem foldl_answer_asValue (fallback : t.Carrier)
    (outcomes : List (Outcome (Resolution t.Carrier))) :
    ((outcomes.map (asValue t)).map (answer (.ofCarrier t fallback))).foldl prefer
        (noAnswer (.ofCarrier t fallback)) =
      (firstSound fallback outcomes).map (FlagValue.ofCarrier t) := by
  have hanswers : (outcomes.map (asValue t)).map (answer (.ofCarrier t fallback)) =
      (outcomes.map (typedAnswer fallback)).map (Resolution.map (FlagValue.ofCarrier t)) := by
    rw [List.map_map, List.map_map]
    exact List.map_congr_left fun o _ => answer_asValue fallback o
  rw [hanswers, firstSound, map_foldl_prefer]
  rfl

/-- Answers of other types than JSON data are always valid. -/
theorem fit_asValue (o : Outcome (Resolution t.Carrier))
    (h : t = .object → Fit t (asValue t o)) : Fit t (asValue t o) := by
  intro r hr
  cases o with
  | returned r' =>
    obtain rfl := Outcome.returned.inj hr
    exact FlagValue.isValidFor_ofCarrier fun ht => h ht _ rfl
  | failed e => cases hr
  | panicked p => cases hr

/-- **Two lookups through the same sub-providers give the same**, however they ask them, if some
outcomes go with both. -/
theorem GivesFirstSound.eq {outcome outcome' : Outcome (Resolution t.Carrier)}
    {asked' : List Asked} (h : GivesFirstSound t flagKey fallback ctx count outcome asked)
    (h' : GivesFirstSound t flagKey fallback ctx count outcome' asked')
    (hcontainers : t = .object → ∀ a ∈ asked ++ asked', Fit .object a.outcome)
    {outcomes : List (Outcome (Resolution t.Carrier))} (hlength : outcomes.length = count)
    (hagree : Agree flagKey (.ofCarrier t fallback) ctx (outcomes.map (asValue t))
      (asked ++ asked')) :
    outcome = outcome' := by
  have hfirst := h.2 (fun ht a ha => hcontainers ht a (List.mem_append_left _ ha)) outcomes hlength
    fun a ha => hagree a (List.mem_append_left _ ha)
  have hsecond := h'.2 (fun ht a ha => hcontainers ht a (List.mem_append_right _ ha)) outcomes
    hlength fun a ha => hagree a (List.mem_append_right _ ha)
  rw [hfirst, hsecond]

/-- What was answered is valid if JSON data are, since the outcomes are of the flag type. -/
theorem Agree.fit {outcomes : List (Outcome (Resolution t.Carrier))}
    (h : Agree flagKey defaultValue ctx (outcomes.map (asValue t)) asked)
    (hcontainers : t = .object → ∀ a ∈ asked, Fit .object a.outcome) :
    ∀ a ∈ asked, Fit t a.outcome := by
  intro a ha
  obtain ⟨_, hget, heq⟩ := h a ha
  rw [List.getElem?_map, Option.map_eq_some_iff] at hget
  obtain ⟨o, -, rfl⟩ := hget
  have houtcome : a.outcome = asValue t o := by rw [heq]
  rw [houtcome]
  refine fit_asValue o fun ht => ?_
  subst ht
  exact houtcome ▸ hcontainers rfl a ha

theorem Agree.agreeAt {outcomes : List (Outcome (Resolution FlagValue))}
    (h : Agree flagKey defaultValue ctx outcomes asked) (other : Outcome (Resolution FlagValue)) :
    AgreeAt flagKey defaultValue ctx (fun i => outcomes.getD i other) asked := by
  intro a ha
  obtain ⟨outcome, hget, heq⟩ := h a ha
  dsimp only
  rw [List.getD_eq_getElem?_getD, hget]
  exact heq

theorem AgreeAt.agree {outcomeAt : Nat → Outcome (Resolution FlagValue)}
    (h : AgreeAt flagKey defaultValue ctx outcomeAt asked)
    (hinside : ∀ a ∈ asked, a.position < count) :
    Agree flagKey defaultValue ctx ((List.range count).map outcomeAt) asked := by
  intro a ha
  refine ⟨outcomeAt a.position, ?_, h a ha⟩
  rw [List.getElem?_map, List.getElem?_range (hinside a ha)]
  rfl

/-- The outcomes that go with an answer are of the flag type that is asked for. -/
theorem Gathers.exists_typed (h : Gathers flagKey defaultValue ctx 0 count last r asked)
    (htype : defaultValue.type = t) :
    ∃ outcomes : List (Outcome (Resolution t.Carrier)), outcomes.length = count ∧
      Agree flagKey defaultValue ctx (outcomes.map (asValue t)) asked := by
  subst htype
  obtain ⟨outcomeAt, hagree, -⟩ := h.possible
  have hinside : ∀ a ∈ asked, a.position < count := by
    intro a ha
    have hinside := h.inside a ha
    omega
  refine ⟨(List.range count).map outcomeAt, ?_, ?_⟩
  · rw [List.length_map, List.length_range]
  · rw [List.map_map]
    exact hagree.agree hinside

/-- Entries looked up at all positions are the entries. -/
theorem map_getD_range' {β γ : Type} (f : β → γ) (items : List β) (other : β) :
    (List.range' 0 items.length).map (fun i => f (items.getD i other)) = items.map f := by
  refine List.ext_getElem (by simp) fun i hi hi' => ?_
  rw [List.length_map] at hi'
  rw [List.getElem_map, List.getElem_map, List.getElem_range', Nat.zero_add, Nat.one_mul,
    List.getD_eq_getElem?_getD, List.getElem?_eq_getElem hi', Option.getD_some]

/-- **An answer gathered from all sub-providers is the first that is no error.** -/
theorem Gathers.givesFirstSound
    (h : Gathers flagKey (.ofCarrier t fallback) ctx 0 count (noAnswer (.ofCarrier t fallback)) r
      asked)
    (hdefault : t = .object → (FlagValue.ofCarrier t fallback).isValidFor t) :
    GivesFirstSound t flagKey fallback ctx count (.ofExcept (r.toCarrier t)) asked := by
  have htype := FlagValue.type_ofCarrier t fallback
  have hvalid := FlagValue.isValidFor_type_ofCarrier hdefault
  refine ⟨h.exists_typed htype, fun hcontainers outcomes hlength hagree => ?_⟩
  have hasked := hagree.fit hcontainers
  rw [← htype] at hasked
  have hr := h.result hasked _ (hagree.agreeAt (.failed (.general "")))
  rw [← hlength, ← List.length_map (asValue t), map_getD_range', foldl_answer_asValue] at hr
  -- the answer is valid, so that it survives being taken into the carrier
  have hfound := h.valid hvalid hvalid hasked
  rw [htype, hr] at hfound
  have hcarrier : FlagValue.toCarrier t ((firstSound fallback outcomes).map
      (FlagValue.ofCarrier t)).value = .ok (firstSound fallback outcomes).value :=
    FlagValue.toCarrier_ofCarrier hfound
  rw [hr, Resolution.toCarrier, hcarrier]
  rfl

end Typed

/-! ### Overhearing both -/

/-- A multi-provider whose sub-providers are overheard, at positions from `start` on. -/
def overheardFrom (start : Nat) (m : MultiProvider σ) : MultiProvider (Overheard σ) where
  id := m.id
  subs := (m.subs.zipIdx start).map fun (sub, position) => overhearSub sub position
  strategy := overhearStrategy m.strategy
  hooks := m.hooks.map (Hook.within (.first _ _))

/-- Sub-providers that are overheard from `start` on, with a multi-provider after as many of them
as `before`.  Not this one is overheard but its own sub-providers. -/
def overhearAround (journal : Journal σ) (relay : Cell σ Relay) (inner : MultiProvider σ)
    (start : Nat) : (before : Nat) → List (SubProvider σ) → List (SubProvider (Overheard σ))
  | _, [] => []
  | 0, sub :: rest =>
    ⟨sub.name, (inner.overheardFrom start).toProvider (overhearJournal journal) (relay.beside _)⟩ ::
      (rest.zipIdx (start + inner.subs.length)).map fun (sub, position) => overhearSub sub position
  | before + 1, sub :: rest =>
    overhearSub sub start :: overhearAround journal relay inner (start + 1) before rest

/-- A multi-provider that is overheard together with another one among its sub-providers. -/
def overheardNested (journal : Journal σ) (relay : Cell σ Relay) (m inner : MultiProvider σ)
    (before : Nat) : MultiProvider (Overheard σ) where
  id := m.id
  subs := overhearAround journal relay inner 0 before m.subs
  strategy := overhearStrategy m.strategy
  hooks := m.hooks.map (Hook.within (.first _ _))

section Around

variable (journal : Journal σ) (relay : Cell σ Relay) {inner : MultiProvider σ}
  {before after : List (SubProvider σ)} {sub : SubProvider σ}

/-- Nothing changes for the sub-providers around, and nothing for the one in the middle. -/
theorem overhearAround_echoes (hsub : sub.provider = inner.toProvider journal relay)
    (start : Nat) :
    List.Forall₂ Echoes
      (overhearAround journal relay inner start before.length (before ++ sub :: after))
      (before ++ sub :: after) := by
  induction before generalizing start with
  | nil =>
    refine .cons ⟨rfl, fun flagKey defaultValue ctx => ?_⟩ (echoes_overhear after _)
    rw [hsub]
    refine Mimics.bind (resolve_mimics_of_echoes journal.beside_matches flagKey ctx
      (sameChoice_overhear inner.strategy) (echoes_overhear inner.subs start) _ relay
      defaultValue.type defaultValue.payload) ?_
    rintro outcome _ rfl
    exact .done rfl
  | cons sub' before ih => exact .cons (echoes_overhearSub sub' start) (ih (start + 1))

variable (flagKey : String) (defaultValue : FlagValue) (ctx : EvaluationContext)

/-- Those around a multi-provider cover their positions and those of its sub-providers. -/
theorem covers_overhearAround (h : TakesSound inner.strategy) (hsome : 0 < inner.subs.length)
    (hdefault : defaultValue.isValidFor defaultValue.type) (start : Nat) :
    Covers journal flagKey defaultValue ctx start
      (before.length + (inner.subs.length + after.length))
      (overhearAround journal relay inner start before.length (before ++ sub :: after)) := by
  induction before generalizing start with
  | nil =>
    rw [List.length_nil, Nat.zero_add]
    have hinner : Covers journal flagKey defaultValue ctx start inner.subs.length
        (inner.overheardFrom start).subs :=
      covers_overhear journal flagKey defaultValue ctx inner.subs start
    have hspans := hinner.spans h.overhear hsome hdefault sub.name (relay.beside _)
    exact .cons hspans hsome (covers_overhear journal flagKey defaultValue ctx after _)
  | cons sub' before ih =>
    have hcovers := Covers.cons (spans_overhearSub journal flagKey defaultValue ctx sub' start)
      Nat.one_pos (ih (start + 1))
    rw [← Nat.add_assoc, Nat.add_comm 1] at hcovers
    exact hcovers

end Around

/-! ### Flattening -/

section Flatten

variable {journal : Journal σ} {m : MultiProvider (Overheard σ)} {relay : Cell (Overheard σ) Relay}
  {t : FlagType} {fallback : t.Carrier}

/-- Sub-providers that cover all positions give the first answer that is no error. -/
theorem resolve_givesFirstSound {flagKey : String} {ctx : EvaluationContext} {count : Nat}
    (h : TakesSound m.strategy)
    (hdefault : t = .object → (FlagValue.ofCarrier t fallback).isValidFor t)
    (hcovers : Covers journal flagKey (.ofCarrier t fallback) ctx 0 count m.subs) (s : σ) :
    ((m.toProvider (overhearJournal journal) relay).resolve t flagKey fallback ctx).Ensures
      (Cell.first _ _).Confined
      (fun outcome p => GivesFirstSound t flagKey fallback ctx count outcome p.2) (s, []) := by
  have hresolve : Contributes (GivesFirstSound t flagKey fallback ctx count)
      ((m.toProvider (overhearJournal journal) relay).resolve t flagKey fallback ctx) := by
    refine contributes_map _ ((resolveValue_gathers h hcovers).mono fun r asked hr => ?_)
    exact hr.givesFirstSound hdefault
  exact hresolve.ensures s

end Flatten

section Build

variable {innerId nestedId flatId : ProviderId} {before xs after flat : List (Entry σ)}
  {given : Option String} {innerStrategy nestedStrategy flatStrategy : Strategy σ}
  {inner nested flattened : MultiProvider σ} {journal : Journal σ} {innerRelay : Cell σ Relay}

/-- Where the inner multi-provider stands among the sub-providers. -/
theorem exists_split_of_build {entry : Entry σ}
    (hnested : build nestedId (before ++ entry :: after) nestedStrategy = .ok nested) :
    ∃ before' sub after', nested.subs = before' ++ sub :: after' ∧
      before'.length = before.length ∧ sub.provider = entry.provider ∧
        after'.length = after.length := by
  have hproviders := map_provider_of_build hnested
  rw [List.map_append, List.map_cons, List.map_eq_append_iff] at hproviders
  obtain ⟨before', rest, hsubs, hbefore, hrest⟩ := hproviders
  obtain ⟨sub, after', rfl, hsub, hafter⟩ := List.map_eq_cons_iff.mp hrest
  refine ⟨before', sub, after', hsubs, ?_, hsub, ?_⟩
  · simpa using congrArg List.length hbefore
  · simpa using congrArg List.length hafter

section Nested

variable
  (hnested : build nestedId (before ++ ⟨given, inner.toProvider journal innerRelay⟩ :: after)
    nestedStrategy = .ok nested)

include hnested in
/-- **Nothing changes for nested multi-providers** when they are overheard. -/
theorem resolve_nested_mimics (nestedRelay : Cell σ Relay) (t : FlagType) (flagKey : String)
    (fallback : t.Carrier) (ctx : EvaluationContext) :
    Mimics True Eq
      (((overheardNested journal innerRelay nested inner before.length).toProvider
        (overhearJournal journal) (nestedRelay.beside _)).resolve t flagKey fallback ctx)
      ((nested.toProvider journal nestedRelay).resolve t flagKey fallback ctx) := by
  obtain ⟨before', sub, after', hsubs, hbefore, hsub, -⟩ := exists_split_of_build hnested
  refine resolve_mimics_of_echoes journal.beside_matches flagKey ctx
    (sameChoice_overhear nested.strategy) ?_ _ _ t fallback
  change List.Forall₂ Echoes
    (overhearAround journal innerRelay inner 0 before.length nested.subs) nested.subs
  rw [hsubs, ← hbefore]
  exact overhearAround_echoes journal innerRelay hsub 0

variable (hinner : build innerId xs innerStrategy = .ok inner)

include hinner hnested

/-- Nested multi-providers cover the positions of all sub-providers. -/
theorem covers_of_nested (hsome : xs ≠ [])
    (hinnerStrategy : innerStrategy = .firstMatch σ ∨ innerStrategy = .firstSuccessful σ)
    (flagKey : String) {defaultValue : FlagValue}
    (hdefault : defaultValue.isValidFor defaultValue.type) (ctx : EvaluationContext) :
    Covers journal flagKey defaultValue ctx 0 (before ++ xs ++ after).length
      (overheardNested journal innerRelay nested inner before.length).subs := by
  obtain ⟨before', sub, after', hsubs, hbefore, -, hafter⟩ := exists_split_of_build hnested
  have hxs : inner.subs.length = xs.length := by
    simpa using congrArg List.length (map_provider_of_build hinner)
  have hsound := takesSound_of_strategy ((strategy_of_build hinner).symm ▸ hinnerStrategy)
  have hpos : 0 < inner.subs.length := hxs ▸ List.length_pos_of_ne_nil hsome
  change Covers journal flagKey defaultValue ctx 0 _
    (overhearAround journal innerRelay inner 0 before.length nested.subs)
  rw [hsubs, List.append_assoc, List.length_append, List.length_append, ← hbefore, ← hafter, ← hxs]
  exact covers_overhearAround journal innerRelay flagKey _ ctx hsound hpos hdefault 0

/-- The hooks of nested multi-providers are those of all sub-providers, in their order. -/
theorem hooks_of_nested :
    nested.hooks = ((before ++ xs ++ after).map (·.provider)).flatMap (·.hooks) := by
  have hmiddle : (inner.toProvider journal innerRelay).hooks = xs.flatMap (·.provider.hooks) :=
    hooks_of_build hinner
  rw [hooks_of_build hnested, List.flatMap_append, List.flatMap_cons, hmiddle, List.flatMap_map,
    List.flatMap_append, List.flatMap_append, List.append_assoc]

/-- **A lookup through nested multi-providers gives the first answer that is no error** among the
outcomes of all sub-providers. -/
theorem resolve_nested_givesFirstSound (hsome : xs ≠ [])
    (hinnerStrategy : innerStrategy = .firstMatch σ ∨ innerStrategy = .firstSuccessful σ)
    (hnestedStrategy : nestedStrategy = .firstMatch σ ∨ nestedStrategy = .firstSuccessful σ)
    (nestedRelay : Cell σ Relay) (t : FlagType) (flagKey : String) (fallback : t.Carrier)
    (ctx : EvaluationContext)
    (hdefault : t = .object → (FlagValue.ofCarrier t fallback).isValidFor t) (s : σ) :
    (((overheardNested journal innerRelay nested inner before.length).toProvider
        (overhearJournal journal) (nestedRelay.beside _)).resolve t flagKey fallback ctx).Ensures
      (Cell.first _ _).Confined
      (fun outcome heard => GivesFirstSound t flagKey fallback ctx (before ++ xs ++ after).length
        outcome heard.2) (s, []) := by
  have hsound := takesSound_of_strategy ((strategy_of_build hnested).symm ▸ hnestedStrategy)
  refine resolve_givesFirstSound hsound.overhear hdefault ?_ s
  exact covers_of_nested hnested hinner hsome hinnerStrategy flagKey
    (FlagValue.isValidFor_type_ofCarrier hdefault) ctx

end Nested

variable (journal) in
/-- So does one through a single multi-provider. -/
theorem resolve_flat_givesFirstSound (hflat : build flatId flat flatStrategy = .ok flattened)
    (hflatStrategy : flatStrategy = .firstMatch σ ∨ flatStrategy = .firstSuccessful σ)
    (flatRelay : Cell σ Relay) (t : FlagType) (flagKey : String) (fallback : t.Carrier)
    (ctx : EvaluationContext)
    (hdefault : t = .object → (FlagValue.ofCarrier t fallback).isValidFor t) (s : σ) :
    ((flattened.overheard.toProvider (overhearJournal journal) (flatRelay.beside _)).resolve t
        flagKey fallback ctx).Ensures (Cell.first _ _).Confined
      (fun outcome heard => GivesFirstSound t flagKey fallback ctx flat.length outcome heard.2)
      (s, []) := by
  have hlength : flattened.subs.length = flat.length := by
    simpa using congrArg List.length (map_provider_of_build hflat)
  have hsound := takesSound_of_strategy ((strategy_of_build hflat).symm ▸ hflatStrategy)
  refine resolve_givesFirstSound hsound.overhear hdefault ?_ s
  rw [← hlength]
  exact covers_overhear journal flagKey _ ctx flattened.subs 0

/-- **Nested multi-providers give what a flat one gives.**  They have the same hooks, in the same
order; and a lookup through the nested ones gives the first answer that is no error among the
outcomes of all sub-providers, in their order, as one through the flat one does.  The outcomes are
those that go with the lookups the sub-providers were asked for; to have them, the sub-providers are
overheard, the inner ones included, and this changes no move of either lookup.  So the two lookups
give the same, whatever others do during each of them, if some outcomes go with both. -/
theorem nested_flattens
    (hinner : build innerId xs innerStrategy = .ok inner)
    (hnested : build nestedId (before ++ ⟨given, inner.toProvider journal innerRelay⟩ :: after)
      nestedStrategy = .ok nested)
    (hflat : build flatId flat flatStrategy = .ok flattened)
    (hsame : flat.map (·.provider) = (before ++ xs ++ after).map (·.provider)) (hsome : xs ≠ [])
    (hinnerStrategy : innerStrategy = .firstMatch σ ∨ innerStrategy = .firstSuccessful σ)
    (hnestedStrategy : nestedStrategy = .firstMatch σ ∨ nestedStrategy = .firstSuccessful σ)
    (hflatStrategy : flatStrategy = .firstMatch σ ∨ flatStrategy = .firstSuccessful σ)
    (nestedRelay flatRelay : Cell σ Relay) :
    let p := nested.toProvider journal nestedRelay
    let q := flattened.toProvider journal flatRelay
    let p' := (overheardNested journal innerRelay nested inner before.length).toProvider
      (overhearJournal journal) (nestedRelay.beside _)
    let q' := flattened.overheard.toProvider (overhearJournal journal) (flatRelay.beside _)
    p.hooks = q.hooks ∧
    ∀ (t : FlagType) (flagKey : String) (fallback : t.Carrier) (ctx : EvaluationContext),
      Mimics True Eq (p'.resolve t flagKey fallback ctx) (p.resolve t flagKey fallback ctx) ∧
      Mimics True Eq (q'.resolve t flagKey fallback ctx) (q.resolve t flagKey fallback ctx) ∧
      ((t = .object → (FlagValue.ofCarrier t fallback).isValidFor t) → ∀ s,
        (p'.resolve t flagKey fallback ctx).Ensures (Cell.first _ _).Confined
          (fun outcome heard =>
            GivesFirstSound t flagKey fallback ctx flat.length outcome heard.2) (s, []) ∧
        (q'.resolve t flagKey fallback ctx).Ensures (Cell.first _ _).Confined
          (fun outcome heard =>
            GivesFirstSound t flagKey fallback ctx flat.length outcome heard.2) (s, [])) ∧
      ((t = .object → (FlagValue.ofCarrier t fallback).isValidFor t) →
        ∀ (s s' : σ) (changes changes' : List (σ → σ)),
          let heard :=
            ((p'.resolve t flagKey fallback ctx).runAmid (Task.beside _ changes) (s, [])).2.2
          let heard' :=
            ((q'.resolve t flagKey fallback ctx).runAmid (Task.beside _ changes') (s', [])).2.2
          (t = .object → ∀ a ∈ heard ++ heard', Fit .object a.outcome) →
          (∃ outcomes : List (Outcome (Resolution t.Carrier)), outcomes.length = flat.length ∧
            Agree flagKey (.ofCarrier t fallback) ctx (outcomes.map (asValue t))
              (heard ++ heard')) →
          ((p.resolve t flagKey fallback ctx).runAmid changes s).1 =
            ((q.resolve t flagKey fallback ctx).runAmid changes' s').1) := by
  intro p q p' q'
  have hlength : flat.length = (before ++ xs ++ after).length := by
    simpa using congrArg List.length hsame
  refine ⟨?_, fun t flagKey fallback ctx => ?_⟩
  · change nested.hooks = flattened.hooks
    rw [hooks_of_nested hnested hinner, hooks_of_build hflat, ← hsame, List.flatMap_map]
  have hmoves : Mimics True Eq (p'.resolve t flagKey fallback ctx)
      (p.resolve t flagKey fallback ctx) :=
    resolve_nested_mimics hnested nestedRelay t flagKey fallback ctx
  have hmoves' : Mimics True Eq (q'.resolve t flagKey fallback ctx)
      (q.resolve t flagKey fallback ctx) :=
    resolve_mimics_of_echoes journal.beside_matches flagKey ctx
      (sameChoice_overhear flattened.strategy) (echoes_overhear flattened.subs 0) _ _ t fallback
  have hfirst := resolve_nested_givesFirstSound hnested hinner hsome hinnerStrategy hnestedStrategy
    nestedRelay t flagKey fallback ctx
  have hfirst' := resolve_flat_givesFirstSound journal hflat hflatStrategy flatRelay t flagKey
    fallback ctx
  rw [← hlength] at hfirst
  refine ⟨hmoves, hmoves', fun hdefault s => ⟨hfirst hdefault s, hfirst' hdefault s⟩, ?_⟩
  intro hdefault s s' changes changes' heard heard' hcontainers hshared
  obtain ⟨outcomes, houtcomes, hagree⟩ := hshared
  -- the lookups give what they give when they are overheard, and these give the same
  rw [← (hmoves.runAmid changes (s, [])).1, ← (hmoves'.runAmid changes' (s', [])).1]
  exact ((hfirst hdefault s).runAmid_beside changes).eq
    ((hfirst' hdefault s').runAmid_beside changes') hcontainers houtcomes hagree

end Build

/-- The entries that give a multi-provider its sub-providers, under the names they have. -/
def entries (m : MultiProvider σ) : List (Entry σ) :=
  m.subs.map fun sub => ⟨some sub.name, sub.provider⟩

/-- A sub-provider that waits and then panics. -/
def panicking : SubProvider Unit :=
  answering "panicking" fun _ _ => .suspend (.done (.panicked .textless))

/-- A sub-provider that answers at once. -/
def spare : SubProvider Unit := ⟨"spare", NoOp.provider Unit⟩

/-- A relay that keeps nothing. -/
def relayOfNone : Cell Unit Relay := ⟨fun _ => .ofNames [], fun _ s => s⟩

/-- Three sub-providers inside, asked all at once between two others. -/
def threeInside : MultiProvider Unit where
  id := .application 1
  subs := [panicking, ⟨"inside", threeSubProviders.toProvider .silent relayOfNone⟩, spare]
  strategy := .firstMatch Unit
  hooks := []

/-- The same sub-providers in a row. -/
def fiveInARow : MultiProvider Unit where
  id := .application 2
  subs := [panicking] ++ threeSubProviders.subs ++ [spare]
  strategy := .firstMatch Unit
  hooks := []

/-- How the lookups of the five sub-providers end. -/
def fiveOutcomes : List (Outcome (Resolution FlagType.boolean.Carrier)) :=
  [.panicked .textless, .failed (.general "down"), .returned (.ofValue true),
    .returned (NoOp.answer true), .returned (NoOp.answer true)]

/-- The slow sub-provider is the first to succeed, whoever else is asked. -/
theorem nested_takes_slow :
    let nested := ((overheardNested .silent relayOfNone threeInside threeSubProviders 1).toProvider
      (overhearJournal .silent) (relayOfNone.beside _)).resolve .boolean "flag" true .empty
    let flat := (fiveInARow.overheard.toProvider (overhearJournal .silent)
      (relayOfNone.beside _)).resolve .boolean "flag" true .empty
    (nested.run ((), [])).2.2.map (·.position) = [0, 1, 3, 2] ∧
      (flat.run ((), [])).2.2.map (·.position) = [0, 1, 2] ∧
      ((nested.run ((), [])).1.toExcept.toOption.map (·.value) : Option Bool) = some true ∧
      ((flat.run ((), [])).1.toExcept.toOption.map (·.value) : Option Bool) = some true ∧
      nested.Ensures (Cell.first _ _).Confined
          (fun outcome p => GivesFirstSound .boolean "flag" true .empty 5 outcome p.2) ((), []) ∧
        flat.Ensures (Cell.first _ _).Confined
          (fun outcome p => GivesFirstSound .boolean "flag" true .empty 5 outcome p.2) ((), []) ∧
      (((threeInside.toProvider .silent relayOfNone).resolve .boolean "flag" true .empty).runAmid
          [] ()).1 =
        (((fiveInARow.toProvider .silent relayOfNone).resolve .boolean "flag" true .empty).runAmid
          [] ()).1 := by
  have hinner : build (.application 0) threeSubProviders.entries (.firstSuccessful Unit) =
      .ok threeSubProviders := rfl
  have hnested : build (.application 1) ([⟨some "panicking", panicking.provider⟩] ++
      ⟨some "inside", threeSubProviders.toProvider .silent relayOfNone⟩ ::
        [⟨some "spare", spare.provider⟩]) (.firstMatch Unit) = .ok threeInside := rfl
  have hflat : build (.application 2) fiveInARow.entries (.firstMatch Unit) = .ok fiveInARow := rfl
  obtain ⟨-, -, hgives, hequal⟩ := (nested_flattens hinner hnested hflat rfl (List.cons_ne_nil _ _)
    (.inr rfl) (.inl rfl) (.inl rfl) relayOfNone relayOfNone).2 .boolean "flag" true .empty
  obtain ⟨hnestedFirst, hflatFirst⟩ := hgives (fun h => nomatch h) ()
  refine ⟨by decide +kernel, by decide +kernel, by decide +kernel, by decide +kernel,
    hnestedFirst, hflatFirst, ?_⟩
  refine hequal (fun h => nomatch h) () () [] [] (fun h => nomatch h) ⟨fiveOutcomes, rfl, ?_⟩
  -- both ask for the same lookups, as far as they ask
  have hall : ∀ a ∈ ([⟨0, "flag", .bool true, .empty, .panicked .textless⟩,
      ⟨1, "flag", .bool true, .empty, .failed (.general "down")⟩,
      ⟨3, "flag", .bool true, .empty, .returned ((NoOp.answer true).map .bool)⟩,
      ⟨2, "flag", .bool true, .empty, .returned (.ofValue (.bool true))⟩,
      ⟨0, "flag", .bool true, .empty, .panicked .textless⟩,
      ⟨1, "flag", .bool true, .empty, .failed (.general "down")⟩,
      ⟨2, "flag", .bool true, .empty, .returned (.ofValue (.bool true))⟩] : List Asked),
      ∃ o, (fiveOutcomes.map (asValue .boolean))[a.position]? = some o ∧
        a = ⟨a.position, "flag", .bool true, .empty, o⟩ := by
    simp only [List.forall_mem_cons]
    exact ⟨⟨_, rfl, rfl⟩, ⟨_, rfl, rfl⟩, ⟨_, rfl, rfl⟩, ⟨_, rfl, rfl⟩, ⟨_, rfl, rfl⟩, ⟨_, rfl, rfl⟩,
      ⟨_, rfl, rfl⟩, List.forall_mem_nil _⟩
  exact hall

end MultiProvider

end FeatureFlags
