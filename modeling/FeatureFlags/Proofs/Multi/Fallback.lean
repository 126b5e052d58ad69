import FeatureFlags.Proofs.Multi.Evaluated
import FeatureFlags.Provider.InMemory

/-!
# Falling back from one sub-provider to the next

A strategy of the library takes the first answer that is no error, before anybody asks whether its
value is valid for the flag type; and an error that nobody made up for is given back with the value
that came with it, before anybody asks for more than the error.  The value is checked afterwards.
Of a flag type that is not the object type every value passes.  A JSON scalar does not, and then
the caller is told of a type mismatch in place of what the sub-providers had to say.

## Main definitions

* `MultiProvider.Usable` — an answer that is no error and has a valid value.

## Main results

* `Client.details_of_errors` — **the error of the last sub-provider reaches the caller**, if the
  value that came with it is valid.
* `Client.details_of_usable` — **the first usable answer reaches the caller**, if no answer before
  it is both no error and no use.
-/

namespace FeatureFlags

open Evaluation (Call Course FoundBy Known Watched carried? failure?_of_carried givenBack
  typedDetails)
open MultiProvider (Consistent Overheard answer)

namespace MultiProvider

/-- An answer that is no error and has a value that is valid for a flag type. -/
def Usable (t : FlagType) (outcome : Outcome (Resolution FlagValue)) : Prop :=
  ∃ r, outcome = .returned r ∧ r.isError = false ∧ r.value.check t = .ok ()

/-- An answer that is no error was returned, without an error code. -/
theorem returned_of_not_isError {defaultValue : FlagValue}
    {outcome : Outcome (Resolution FlagValue)} (h : (answer defaultValue outcome).isError = false) :
    outcome = .returned (answer defaultValue outcome) ∧
      (answer defaultValue outcome).errorCode = none := by
  rw [answer] at h ⊢
  cases hend : outcome.toExcept with
  | error e =>
    rw [hend] at h
    exact Bool.noConfusion h
  | ok r =>
    rw [hend] at h
    refine ⟨Outcome.toExcept_eq_ok_iff.mp hend, ?_⟩
    rw [Resolution.isError, Bool.or_eq_false_iff] at h
    exact Option.isSome_eq_false_iff.mp h.1 |> Option.isNone_iff_eq_none.mp

/-- A lookup that ended with an error counts as an answer that carries it. -/
theorem error?_answer {defaultValue : FlagValue} {outcome : Outcome (Resolution FlagValue)}
    {err : EvaluationError} (h : carried? outcome = some err) :
    (answer defaultValue outcome).error? = some err := by
  cases outcome with
  | returned r => exact h
  | failed e => exact h
  | panicked p =>
    have herr : some (EvaluationError.general p.message) = some err := h
    rw [← herr]
    change some (EvaluationError.general ("" ++ p.message)) = _
    rw [String.empty_append]

theorem isError_of_error? {r : Resolution FlagValue} {err : EvaluationError}
    (h : r.error? = some err) : r.isError = true := by
  have hcode : r.errorCode.isSome := by
    rw [Resolution.error?] at h
    obtain ⟨code, hcode, -⟩ := Option.map_eq_some_iff.mp h
    rw [hcode]
    rfl
  rw [Resolution.isError, hcode, Bool.true_or]

/-- Answers that are no error but of no use carry a JSON scalar, if they are of the flag type. -/
theorem of_not_usable {t : FlagType} {defaultValue : FlagValue}
    {outcome : Outcome (Resolution FlagValue)} (h : ¬Usable t outcome)
    (hsound : (answer defaultValue outcome).isError = false) :
    ¬(answer defaultValue outcome).value.isValidFor t := by
  intro hvalid
  refine h ⟨_, (returned_of_not_isError hsound).1, hsound, ?_⟩
  exact FlagValue.check_eq_ok_iff.mpr hvalid

/-- The first answer that is no error, if there is one. -/
theorem exists_first_sound {defaultValue : FlagValue}
    {outcomes : List (Outcome (Resolution FlagValue))}
    (h : ∃ o ∈ outcomes, (answer defaultValue o).isError = false) :
    ∃ earlier outcome later, outcomes = earlier ++ outcome :: later ∧
      (answer defaultValue outcome).isError = false ∧
        ∀ o ∈ earlier, (answer defaultValue o).isError = true := by
  obtain ⟨o, ho, hsound⟩ := h
  have hfind : (outcomes.find? fun o => !(answer defaultValue o).isError).isSome := by
    rw [List.find?_isSome]
    exact ⟨o, ho, by rw [hsound]; rfl⟩
  obtain ⟨outcome, houtcome⟩ := Option.isSome_iff_exists.mp hfind
  obtain ⟨hsound', earlier, later, hsplit, hearlier⟩ :=
    List.find?_eq_some_iff_append.mp houtcome
  refine ⟨earlier, outcome, later, hsplit, ?_, ?_⟩
  · simpa using hsound'
  · intro o ho
    simpa using hearlier o ho

/-! ### From outcomes to details -/

section Details

variable {σ : Type} {m : MultiProvider σ} {e' : Evaluation (Overheard σ)} {positions : List Nat}
  {q : Watched (Overheard σ)} {untyped : EvaluationDetails FlagValue}
  (hcourse : Course e' positions q.2 untyped) (hknown : Known (FoundBy m) q)
  (htype : e'.defaultValue.type = e'.flagType) (fallback : e'.flagType.Carrier)

include hcourse hknown htype in
/-- An answer that is found, but whose value is a JSON scalar, is told as a type mismatch. -/
theorem mismatch_of_scalar {earlier later : List (Outcome (Resolution FlagValue))}
    {outcome : Outcome (Resolution FlagValue)}
    (h : m.Consistent e'.flagKey e'.defaultValue q (earlier ++ outcome :: later))
    (hearlier : ∀ o ∈ earlier, (answer e'.defaultValue o).isError = true)
    (houtcome : (answer e'.defaultValue outcome).isError = false ∨ later = [])
    (hscalar : ¬(answer e'.defaultValue outcome).value.isValidFor e'.flagType) :
    e'.flagType = .object ∧ typedDetails e'.flagType fallback untyped =
      .ofError e'.flagKey fallback (.typeMismatch .object "non-object JSON") := by
  obtain ⟨⟨ctx, hcall⟩, hsame⟩ := h.lookup hknown hearlier houtcome
  obtain ⟨hobject, hkind⟩ := FlagValue.of_not_valid (hsame.trans htype) hscalar
  rw [htype, givenBack, if_neg hscalar, hkind] at hcall
  refine ⟨hobject, ?_⟩
  rw [hcourse.typed_of_failure fallback hcall rfl]
  exact congrArg (fun t => EvaluationDetails.ofError e'.flagKey fallback
    (.typeMismatch t "non-object JSON")) hobject

include hcourse hknown htype in
/-- If every sub-provider ended with an error, the last of these errors is told, unless a JSON
scalar came with it. -/
theorem error_of_errors {outcomes : List (Outcome (Resolution FlagValue))}
    (h : m.Consistent e'.flagKey e'.defaultValue q outcomes) (hne : outcomes ≠ [])
    (herrors : ∀ o ∈ outcomes, carried? o ≠ none) :
    ∃ last err, outcomes.getLast? = some last ∧ carried? last = some err ∧
      ((answer e'.defaultValue last).value.isValidFor e'.flagType →
        typedDetails e'.flagType fallback untyped = .ofError e'.flagKey fallback err) ∧
      (¬(answer e'.defaultValue last).value.isValidFor e'.flagType →
        e'.flagType = .object ∧ typedDetails e'.flagType fallback untyped =
          .ofError e'.flagKey fallback (.typeMismatch .object "non-object JSON")) := by
  obtain ⟨earlier, last, rfl⟩ : ∃ earlier last, outcomes = earlier ++ [last] :=
    ⟨_, _, (List.dropLast_append_getLast hne).symm⟩
  obtain ⟨err, herr⟩ := Option.ne_none_iff_exists'.mp (herrors last (by simp))
  have hearlier : ∀ o ∈ earlier, (answer e'.defaultValue o).isError = true := by
    intro o ho
    obtain ⟨err', herr'⟩ := Option.ne_none_iff_exists'.mp
      (herrors o (List.mem_append_left _ ho))
    exact isError_of_error? (error?_answer herr')
  refine ⟨last, err, List.getLast?_concat, herr, fun hvalid => ?_, fun hscalar => ?_⟩
  · obtain ⟨⟨ctx, hcall⟩, -⟩ := h.lookup hknown hearlier (.inr rfl)
    rw [htype, givenBack, if_pos hvalid] at hcall
    have hcarried : carried? (.returned (answer e'.defaultValue last)) = some err :=
      error?_answer herr
    exact hcourse.typed_of_failure fallback hcall (failure?_of_carried hcarried _ _ _ _)
  · exact mismatch_of_scalar hcourse hknown htype fallback h hearlier (.inr rfl) hscalar

include hcourse hknown htype in
/-- A usable answer that only errors precede is given, unless an after hook fails. -/
theorem answer_of_usable {earlier later : List (Outcome (Resolution FlagValue))}
    {r : Resolution FlagValue}
    (h : m.Consistent e'.flagKey e'.defaultValue q (earlier ++ .returned r :: later))
    (husable : Usable e'.flagType (.returned r))
    (hearlier : ∀ o ∈ earlier, (answer e'.defaultValue o).isError = true)
    (hafter : ∀ call ∈ q.2, ∀ position, call.step = .after position →
      call.failure? e'.flagType = none) :
    ∃ a : Resolution e'.flagType.Carrier, r = a.map (.ofCarrier e'.flagType) ∧
      typedDetails e'.flagType fallback untyped = .ofResolution e'.flagKey a := by
  obtain ⟨_, heq, hsound, hcheck⟩ := husable
  obtain rfl := Outcome.returned.inj heq
  have hvalid : r.value.isValidFor e'.flagType := FlagValue.check_eq_ok_iff.mp hcheck
  have hanswer : (answer e'.defaultValue (.returned r)).isError = false := hsound
  obtain ⟨⟨ctx, hcall⟩, -⟩ := h.lookup hknown hearlier (.inl hanswer)
  have hcode := (returned_of_not_isError hanswer).2
  change Call.lookup _ _ _ (givenBack _ r) ∈ q.2 at hcall
  rw [htype, givenBack, if_pos hvalid] at hcall
  exact hcourse.typed_of_answer fallback hcall hcode hvalid hafter

end Details

end MultiProvider

/-! ### Through a client -/

namespace Client

open Api (State)
open FeatureFlags.Task (FollowsFrom)
open Multi (SubProvider)
open MultiProvider (Usable)

/-- **The error of the last sub-provider reaches the caller**, as it does when that sub-provider is
evaluated on its own: if every sub-provider fails, panics or answers with an error code, the
details are the caller's default with the error of the last one, unless the value that came with it
is a JSON scalar.  With a failure or a panic comes the default.  The details are the same whether
they are overheard or not. -/
theorem details_of_errors {W : Type} (host : Host W) (client : Client)
    {m : MultiProvider (State W)} (t : FlagType) (flagKey : String) (fallback : t.Carrier)
    (ctx : EvaluationContext) (options : EvaluationOptions) {s : State W}
    (hprovider : (client.evaluation host t flagKey (.ofCarrier t fallback) ctx options s).provider =
      m.toProvider host.log (Api.relayCell m.id))
    (hstrategy : m.strategy = .firstMatch _ ∨ m.strategy = .firstSuccessful _)
    (hsubs : m.subs ≠ []) :
    let e := client.evaluation host t flagKey (.ofCarrier t fallback) ctx options s
    FollowsFrom ((Cell.first _ _).beside _) Eq
        (client.detailsOverheard host m t flagKey fallback ctx options)
        (client.details host t flagKey fallback ctx options) ((s, []), []) ∧
      (client.detailsOverheard host m t flagKey fallback ctx options).Ensures
        ((Cell.first _ _).beside _).Confined
        (fun result q => e.Gives
          (fun details => e.Reaches q.2 →
            (∃ outcomes, m.Consistent flagKey (.ofCarrier t fallback) q outcomes) ∧
            ∀ outcomes, m.Consistent flagKey (.ofCarrier t fallback) q outcomes →
              (∀ o ∈ outcomes, carried? o ≠ none) →
                ∃ last err, outcomes.getLast? = some last ∧ carried? last = some err ∧
                  let came := (answer (.ofCarrier t fallback) last).value
                  (came.isValidFor t → details = .ofError flagKey fallback err) ∧
                  (¬came.isValidFor t → t = .object ∧ details =
                    .ofError flagKey fallback (.typeMismatch .object "non-object JSON")))
          result) ((s, []), []) ∧
      ∀ (host' : Host W) (s' : State W),
        let e' := client.evaluation host' t flagKey (.ofCarrier t fallback) ctx options s'
        Watched.Ensures (client.detailsWatched host' t flagKey fallback ctx options)
          (fun result q => e'.Gives
            (fun details => e'.Reaches q.2 → ∃ ctx' outcome,
              .lookup flagKey (.ofCarrier t fallback) ctx' outcome ∈ q.2 ∧
                ∀ err, carried? outcome = some err → details = .ofError flagKey fallback err)
            result) (s', []) := by
  intro e
  refine ⟨client.details_follows host t flagKey fallback ctx options hprovider, ?_,
    fun host' s' => client.detailsWatched_of_error host' t flagKey fallback ctx options s'⟩
  have hfound := client.detailsOverheard_found host t flagKey fallback ctx options
    (MultiProvider.takesSound_of_strategy hstrategy) s
  refine hfound.mono ?_
  rintro result q ⟨hgives, hknown⟩
  refine hgives.mono ?_
  rintro _ ⟨untyped, rfl, hcourse, hsome⟩ hreaches
  have htype : (FlagValue.ofCarrier t fallback).type = t := FlagValue.type_ofCarrier t fallback
  refine ⟨hsome hreaches, fun outcomes hconsistent herrors => ?_⟩
  have hne : outcomes ≠ [] := by
    rintro rfl
    exact hsubs (List.length_eq_zero_iff.mp hconsistent.1.symm)
  exact MultiProvider.error_of_errors hcourse hknown htype fallback hconsistent hne herrors

/-- **The first usable answer reaches the caller**, hooks permitting, whatever errors come before
it.  An answer before it that is no error and yet of no use carries a JSON scalar where an object
was asked for; it is taken for the answer, and the caller is told of a type mismatch.  The details
are the same whether they are overheard or not. -/
theorem details_of_usable {W : Type} (host : Host W) (client : Client)
    {m : MultiProvider (State W)} (t : FlagType) (flagKey : String) (fallback : t.Carrier)
    (ctx : EvaluationContext) (options : EvaluationOptions) {s : State W}
    (hprovider : (client.evaluation host t flagKey (.ofCarrier t fallback) ctx options s).provider =
      m.toProvider host.log (Api.relayCell m.id))
    (hstrategy : m.strategy = .firstMatch _ ∨ m.strategy = .firstSuccessful _) :
    let e := client.evaluation host t flagKey (.ofCarrier t fallback) ctx options s
    FollowsFrom ((Cell.first _ _).beside _) Eq
        (client.detailsOverheard host m t flagKey fallback ctx options)
        (client.details host t flagKey fallback ctx options) ((s, []), []) ∧
      (client.detailsOverheard host m t flagKey fallback ctx options).Ensures
        ((Cell.first _ _).beside _).Confined
        (fun result q => e.Gives
          (fun details => e.Reaches q.2 →
            (∃ outcomes, m.Consistent flagKey (.ofCarrier t fallback) q outcomes) ∧
            ∀ earlier r later,
              m.Consistent flagKey (.ofCarrier t fallback) q (earlier ++ .returned r :: later) →
              Usable t (.returned r) → (∀ o ∈ earlier, ¬Usable t o) →
                ((∀ o ∈ earlier, (answer (.ofCarrier t fallback) o).isError = true) →
                  (∀ call ∈ q.2, ∀ position, call.step = .after position →
                    call.failure? t = none) →
                  ∃ a : Resolution t.Carrier, r = a.map (.ofCarrier t) ∧
                    details = .ofResolution flagKey a) ∧
                ((∃ o ∈ earlier, (answer (.ofCarrier t fallback) o).isError = false) →
                  t = .object ∧ details =
                    .ofError flagKey fallback (.typeMismatch .object "non-object JSON")))
          result) ((s, []), []) := by
  intro e
  refine ⟨client.details_follows host t flagKey fallback ctx options hprovider, ?_⟩
  have hfound := client.detailsOverheard_found host t flagKey fallback ctx options
    (MultiProvider.takesSound_of_strategy hstrategy) s
  refine hfound.mono ?_
  rintro result q ⟨hgives, hknown⟩
  refine hgives.mono ?_
  rintro _ ⟨untyped, rfl, hcourse, hsome⟩ hreaches
  have htype : (FlagValue.ofCarrier t fallback).type = t := FlagValue.type_ofCarrier t fallback
  refine ⟨hsome hreaches, ?_⟩
  intro earlier r later hconsistent husable hfirst
  refine ⟨fun hearlier hafter => ?_, fun hsound => ?_⟩
  · exact MultiProvider.answer_of_usable hcourse hknown htype fallback hconsistent husable hearlier
      hafter
  · -- the first answer that is no error is the one that is found
    obtain ⟨before, taken, between, rfl, hsound, hbefore⟩ :=
      MultiProvider.exists_first_sound hsound
    rw [List.append_assoc, List.cons_append] at hconsistent
    have hscalar := MultiProvider.of_not_usable (hfirst taken (by simp)) hsound
    exact MultiProvider.mismatch_of_scalar hcourse hknown htype fallback hconsistent hbefore
      (.inl hsound) hscalar

/-! ### Lookups of objects -/

section Objects

/-- An application of one provider. -/
def soleHost (p : Provider (State Unit)) : Host Unit where
  provider _ _ := p
  hook _ _ := .silent
  handle _ _ := .done none
  receive _ _ := .done ()
  journal _ world := world

/-- A multi-provider that asks in turn. -/
def inTurn (subs : List (SubProvider (State Unit))) : MultiProvider (State Unit) where
  id := .application 0
  subs := subs
  strategy := .firstMatch _
  hooks := []

/-- An application of that multi-provider. -/
def inTurnHost (subs : List (SubProvider (State Unit))) : Host Unit :=
  soleHost ((inTurn subs).toProvider (fun _ s => s) (Api.relayCell (.application 0)))

/-- An instance whose default is the provider of the application, ready. -/
def served : State Unit :=
  { State.fresh () with
    registry :=
      { Registry.fresh 0 with
        defaultProvider := ⟨.application 0, "sole"⟩
        statuses := [(.application 0, .ready)] } }

/-- A sub-provider without any flags. -/
def noFlags : SubProvider (State Unit) where
  name := "no flags"
  provider := InMemory.provider (Api.memoryCell (.application 1))

/-- A sub-provider that answers lookups of objects with a document, and others with the default. -/
def documentOnly (document : Json) : SubProvider (State Unit) where
  name := "document"
  provider :=
    { NoOp.provider (State Unit) with
      resolve := fun
        | .object, _, _, _ => .done (.returned (.ofValue document))
        | _, _, fallback, _ => .done (.returned (.ofValue fallback)) }

/-- What a client of the default provider gets for an object flag. -/
def objectDetails (host : Host Unit) (flagKey : String) (fallback : Json) :
    Except Panic (EvaluationDetails Json) :=
  (((Client.mk 0 none).details host .object flagKey fallback .empty .none).run served).1

/-- What it gets from sub-providers that are asked in turn, and what is overheard of them. -/
def objectOverheard (subs : List (SubProvider (State Unit))) (flagKey : String) (fallback : Json) :
    Except Panic (EvaluationDetails Json) × Watched (Overheard (State Unit)) :=
  ((Client.mk 0 none).detailsOverheard (inTurnHost subs) (inTurn subs) .object flagKey fallback
    .empty .none).run ((served, []), [])

/-- With a default that is no JSON scalar the error of the last sub-provider reaches the caller. -/
theorem missing_is_told :
    (objectOverheard [noFlags] "missing" (.array [])).1 =
      .ok (.ofError "missing" (.array []) (InMemory.notFoundError "missing")) := by
  obtain ⟨-, hensures, -⟩ := details_of_errors (inTurnHost [noFlags]) (Client.mk 0 none)
    (m := inTurn [noFlags]) .object "missing" (.array []) .empty .none (s := served) rfl (.inl rfl)
    (by simp [inTurn])
  obtain ⟨details, hresult, hdetails⟩ := Task.run_of_ensures (fun p => ⟨p.1.1, rfl⟩) hensures
  have hcalls : (objectOverheard [noFlags] "missing" (.array [])).2.2 =
      [.lookup "missing" (.object (.array [])) .empty
        (.returned (.ofError (.object (.array [])) (InMemory.notFoundError "missing")))] := rfl
  have hconsistent : (inTurn [noFlags]).Consistent "missing" (.object (.array []))
      (objectOverheard [noFlags] "missing" (.array [])).2
      [.failed (InMemory.notFoundError "missing")] :=
    MultiProvider.consistent_of_asks rfl (hcalls ▸ List.mem_cons_self) rfl
  obtain ⟨-, hall⟩ := hdetails ⟨rfl, hcalls ▸ by simp [Call.step]⟩
  obtain ⟨last, err, hlast, hcarried, htold, -⟩ :=
    hall _ hconsistent (by simp [carried?, Outcome.failure?])
  obtain rfl := Option.some.inj hlast
  obtain rfl := Option.some.inj hcarried
  exact hresult.trans (congrArg Except.ok (htold rfl))

/-- With a JSON scalar for a default, the caller is not told what the sub-provider had to say: on
its own it says that there is no such flag. -/
theorem scalar_default_hides_error :
    objectDetails (inTurnHost [noFlags]) "missing" .null =
        .ok (.ofError "missing" .null (.typeMismatch .object "non-object JSON")) ∧
      objectDetails (soleHost noFlags.provider) "missing" .null =
        .ok (.ofError "missing" .null (InMemory.notFoundError "missing")) ∧
      EvaluationError.typeMismatch .object "non-object JSON" ≠ InMemory.notFoundError "missing" :=
  ⟨rfl, rfl, by decide⟩

/-- A sub-provider that has the flag makes up for one that has not. -/
theorem document_makes_up :
    (objectOverheard [noFlags, documentOnly (.object [])] "flag" (.array [])).1 =
      .ok (.ofResolution "flag" (.ofValue (.object []))) := by
  have h := details_of_usable (inTurnHost [noFlags, documentOnly (.object [])]) (Client.mk 0 none)
    (m := inTurn [noFlags, documentOnly (.object [])]) .object "flag" (.array []) .empty .none
    (s := served) rfl (.inl rfl)
  obtain ⟨details, hresult, hdetails⟩ := Task.run_of_ensures (fun p => ⟨p.1.1, rfl⟩) h.2
  have hcalls : (objectOverheard [noFlags, documentOnly (.object [])] "flag" (.array [])).2.2 =
      [.lookup "flag" (.object (.array [])) .empty
        (.returned (.ofValue (.object (.object []))))] := rfl
  have hconsistent : (inTurn [noFlags, documentOnly (.object [])]).Consistent "flag"
      (.object (.array []))
      (objectOverheard [noFlags, documentOnly (.object [])] "flag" (.array [])).2
      ([.failed (InMemory.notFoundError "flag")] ++
        .returned (.ofValue (.object (.object []))) :: []) :=
    MultiProvider.consistent_of_asks rfl (hcalls ▸ List.mem_cons_self) rfl
  obtain ⟨-, hall⟩ := hdetails ⟨rfl, hcalls ▸ by simp [Call.step]⟩
  obtain ⟨hgiven, -⟩ := hall _ _ _ hconsistent ⟨_, rfl, rfl, rfl⟩ (by simp [Usable])
  obtain ⟨a, ha, htold⟩ := hgiven (by simp [answer]; rfl) (hcalls ▸ by simp [Call.step])
  -- an answer is determined by its value as a flag value
  have hanswer : a = .ofValue (.object []) := by
    obtain ⟨value, variant, reason, metadata, code, message⟩ := a
    injection ha with hvalue hvariant hreason hmetadata hcode hmessage
    obtain rfl := FlagValue.object.inj hvalue
    subst hvariant hreason hmetadata hcode hmessage
    rfl
  rw [hanswer] at htold
  exact hresult.trans (congrArg Except.ok htold)

/-- A JSON scalar is taken for an answer although the next sub-provider has an object: on its own
that one is heard. -/
theorem scalar_answer_hides_object :
    objectDetails (inTurnHost [documentOnly .null, documentOnly (.object [])]) "flag" (.array []) =
        .ok (.ofError "flag" (.array []) (.typeMismatch .object "non-object JSON")) ∧
      objectDetails (soleHost (documentOnly (.object [])).provider) "flag" (.array []) =
        .ok (.ofResolution "flag" (.ofValue (.object []))) ∧
      Usable .object (.returned (.ofValue (.object (.object [])))) :=
  ⟨rfl, rfl, _, rfl, rfl, rfl⟩

end Objects

end Client

end FeatureFlags
