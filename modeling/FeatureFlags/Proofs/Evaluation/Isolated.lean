import FeatureFlags.Proofs.Evaluation.Unwatched
import FeatureFlags.Proofs.Task.Amid

/-!
# Evaluations amid changes

An evaluation is fixed when it starts.  From then on the only thing that it learns is how its calls
have ended: two runs of it that get the same answers as long as they ask the same make the same
calls and give the same details, whatever is changed in the state while they wait.

This is carried through the stages as a property of tasks.  A task is determined if the ways in
which it can go, each with its calls and its value, part only where a call is answered differently.

## Main definitions

* `Evaluation.Request` — what a call asks for.
* `Evaluation.AnsweredAlike` — calls that are answered alike as long as they ask alike.
* `Evaluation.Determined` — a task that is determined by the answers to its calls.

## Main results

* `Evaluation.Determined.bind` — determined tasks one after the other.
* `Evaluation.run_determined` — **an evaluation is determined by the answers to its calls.**
* `Client.evaluation_isolated` — the same of the runs of an evaluation amid changes.
-/

namespace FeatureFlags

namespace Evaluation

/-! ### Requests and answers -/

/-- What a call asks for: the callback that is called, and everything that it is told. -/
inductive Request where
  | before (position : Nat) (context : HookContext) (hints : HookHints) (found : HookData)
  | lookup (flagKey : String) (defaultValue : FlagValue) (ctx : EvaluationContext)
  | after (position : Nat) (context : HookContext) (hints : HookHints) (found : HookData)
      (details : EvaluationDetails FlagValue)
  | error (position : Nat) (context : HookContext) (hints : HookHints) (found : HookData)
      (e : EvaluationError)
  | finish (position : Nat) (context : HookContext) (hints : HookHints) (found : HookData)

/-- What a call asked for. -/
def Call.request : Call → Request
  | before visit _ => .before visit.position visit.context visit.hints visit.found
  | lookup flagKey defaultValue ctx _ => .lookup flagKey defaultValue ctx
  | after visit details _ =>
    .after visit.position visit.context visit.hints visit.found details
  | error visit e _ => .error visit.position visit.context visit.hints visit.found e
  | finish visit _ => .finish visit.position visit.context visit.hints visit.found

/-- Calls that are answered alike as long as they ask for the same. -/
def AnsweredAlike : List Call → List Call → Prop
  | call :: rest, call' :: rest' =>
    call.request = call'.request → call = call' ∧ AnsweredAlike rest rest'
  | _, _ => True

namespace AnsweredAlike

variable {first first' rest rest' : List Call}

theorem of_append (h : AnsweredAlike (first ++ rest) (first' ++ rest')) :
    AnsweredAlike first first' := by
  induction first generalizing first' with
  | nil => trivial
  | cons call first ih =>
    cases first' with
    | nil => trivial
    | cons call' first' =>
      intro hrequest
      obtain ⟨hcall, hrest⟩ := h hrequest
      exact ⟨hcall, ih hrest⟩

theorem of_append_left (h : AnsweredAlike (first ++ rest) (first ++ rest')) :
    AnsweredAlike rest rest' := by
  induction first with
  | nil => exact h
  | cons call first ih => exact ih (h rfl).2

end AnsweredAlike

/-! ### Tasks that are determined -/

variable {σ α β : Type}

/-- A task that goes only in some ways: with some calls and a value. -/
def Goes (t : Task (Watched σ) α) (way : List Call → α → Prop) : Prop :=
  ∀ p, Watched.Ensures t (fun a q => ∃ calls, q.2 = p.2 ++ calls ∧ way calls a) p

/-- A task that is determined by the answers to its calls: two ways in which it goes are the same
if they are answered alike.  Its value has a property. -/
def Determined (t : Task (Watched σ) α) (P : α → Prop) : Prop :=
  ∃ way : List Call → α → Prop, Goes t way ∧ (∀ calls a, way calls a → P a) ∧
    ∀ calls calls' a a', way calls a → way calls' a' → AnsweredAlike calls calls' →
      calls = calls' ∧ a = a'

/-- A task that makes no calls, and gives a value that is fixed. -/
theorem determined_of_silent {t : Task (Watched σ) α} {P : α → Prop} {a : α}
    (ht : ∀ p, Watched.Ensures t (fun a' q => q.2 = p.2 ∧ a' = a) p) (ha : P a) :
    Determined t P := by
  refine ⟨fun calls a' => calls = [] ∧ a' = a, fun p => (ht p).mono ?_, ?_, ?_⟩
  · rintro a' q ⟨hq, ha'⟩
    exact ⟨[], by rw [hq, List.append_nil], rfl, ha'⟩
  · rintro calls a' ⟨-, rfl⟩
    exact ha
  · rintro calls calls' a' a'' ⟨rfl, rfl⟩ ⟨rfl, rfl⟩ -
    exact ⟨rfl, rfl⟩

theorem determined_done {P : α → Prop} {a : α} (ha : P a) :
    Determined (.done a : Task (Watched σ) α) P :=
  determined_of_silent (fun _ => ⟨rfl, rfl⟩) ha

/-- A report is no call. -/
theorem determined_log (journal : Journal σ) (entry : LogEntry) :
    Determined (Task.log journal.watched entry) fun _ => True :=
  determined_of_silent (fun _ => ⟨rfl, rfl⟩) trivial

/-- A task that makes one call for what is fixed, and gives what the call is answered. -/
theorem determined_of_makes {t : Task (Watched σ) α} {describe : α → Call}
    (ht : Makes t fun call a => call = describe a)
    (hrequest : ∀ a a', (describe a).request = (describe a').request)
    (hanswer : ∀ a a', describe a = describe a' → a = a') : Determined t fun _ => True := by
  refine ⟨fun calls a => calls = [describe a], fun p => ht _ p ?_, fun _ _ _ => trivial, ?_⟩
  · rintro call a s rfl
    exact ⟨_, rfl, rfl⟩
  · rintro calls calls' a a' rfl rfl halike
    obtain ⟨hcall, -⟩ := halike (hrequest a a')
    exact ⟨congrArg (fun call => [call]) hcall, hanswer a a' hcall⟩

section Callbacks

variable (hook : Hook σ) (position : Nat) (ctx : HookContext) (hints : HookHints) (data : HookData)

theorem determined_before :
    Determined ((hook.watched position).before ctx hints data) fun _ => True := by
  refine determined_of_makes (makes_before hook position ctx hints data) (fun _ _ => rfl) ?_
  rintro ⟨left, outcome⟩ ⟨left', outcome'⟩ h
  cases h
  rfl

theorem determined_after (details : EvaluationDetails FlagValue) :
    Determined ((hook.watched position).after ctx details hints data) fun _ => True := by
  refine determined_of_makes (makes_after hook position ctx details hints data) (fun _ _ => rfl) ?_
  rintro ⟨left, outcome⟩ ⟨left', outcome'⟩ h
  cases h
  rfl

theorem determined_error (e : EvaluationError) :
    Determined ((hook.watched position).error ctx e hints data) fun _ => True := by
  refine determined_of_makes (makes_error hook position ctx e hints data) (fun _ _ => rfl) ?_
  rintro ⟨left, outcome⟩ ⟨left', outcome'⟩ h
  cases h
  rfl

theorem determined_finish :
    Determined ((hook.watched position).finish ctx hints data) fun _ => True := by
  refine determined_of_makes (makes_finish hook position ctx hints data) (fun _ _ => rfl) ?_
  rintro ⟨left, outcome⟩ ⟨left', outcome'⟩ h
  cases h
  rfl

theorem determined_lookup (p : Provider σ) (flagKey : String) (defaultValue : FlagValue)
    (ctx : EvaluationContext) :
    Determined (p.watched.resolveValue flagKey defaultValue ctx) fun _ => True := by
  refine determined_of_makes (makes_lookup p flagKey defaultValue ctx) (fun _ _ => rfl) ?_
  rintro outcome outcome' h
  cases h
  rfl

end Callbacks

/-- **Determined tasks one after the other.**  Where the first one has gone the same way, it is the
same task that comes after it. -/
theorem Determined.bind {t : Task (Watched σ) α} {f : α → Task (Watched σ) β} {P : α → Prop}
    {Q : β → Prop} (ht : Determined t P) (hf : ∀ a, P a → Determined (f a) Q) :
    Determined (t.bind f) Q := by
  obtain ⟨way, hgoes, hP, hsame⟩ := ht
  choose! next hnext hQ hsame' using hf
  refine ⟨fun calls b => ∃ first rest a, calls = first ++ rest ∧ way first a ∧ next a rest b,
    fun p => ?_, ?_, ?_⟩
  · rw [Watched.ensures_bind]
    refine (hgoes p).mono ?_
    rintro a q ⟨first, hfirst, hway⟩
    refine (hnext a (hP first a hway) q).mono ?_
    rintro b q' ⟨rest, hrest, hway'⟩
    have hcalls : q'.2 = p.2 ++ (first ++ rest) := by rw [hrest, hfirst, List.append_assoc]
    exact ⟨first ++ rest, hcalls, first, rest, a, rfl, hway, hway'⟩
  · rintro calls b ⟨first, rest, a, -, hway, hway'⟩
    exact hQ a (hP first a hway) rest b hway'
  · rintro _ _ b b' ⟨first, rest, a, rfl, ha, hb⟩ ⟨first', rest', a', rfl, ha', hb'⟩ halike
    obtain ⟨rfl, rfl⟩ := hsame first first' a a' ha ha' halike.of_append
    obtain ⟨rfl, rfl⟩ := hsame' a (hP first a ha) rest rest' b b' hb hb' halike.of_append_left
    exact ⟨rfl, rfl⟩

/-- **Two runs of a determined task** that are answered alike make the same calls and give the same
value, whatever each of them goes through. -/
theorem Determined.agree {t : Task (Watched σ) α} {P : α → Prop} (h : Determined t P) (s s' : σ)
    (changes changes' : List (σ → σ)) :
    let run := t.runAmid (Task.beside _ changes) (s, [])
    let run' := t.runAmid (Task.beside _ changes') (s', [])
    AnsweredAlike run.2.2 run'.2.2 → run.2.2 = run'.2.2 ∧ run.1 = run'.1 := by
  intro run run' halike
  obtain ⟨way, hgoes, -, hsame⟩ := h
  obtain ⟨calls, hcalls, hway⟩ := Task.Ensures.runAmid_beside (hgoes (s, [])) changes
  obtain ⟨calls', hcalls', hway'⟩ := Task.Ensures.runAmid_beside (hgoes (s', [])) changes'
  rw [List.nil_append] at hcalls hcalls'
  rw [← hcalls] at hway
  rw [← hcalls'] at hway'
  exact hsame _ _ _ _ hway hway' halike

/-! ### The stages -/

section Stages

variable (journal : Journal σ) (hints : HookHints) (ctx : HookContext)
  {chain : HookChain (Watched σ)} {positions : List Nat}

theorem runBefore_determined (hchain : Watches chain positions) (index : Nat)
    (given : EvaluationContext) :
    Determined (chain.runBefore journal.watched hints index ctx given)
      fun run => Watches run.chain positions := by
  induction hchain generalizing index ctx given with
  | nil => exact determined_done List.Forall₂.nil
  | @cons entry position rest positions hentry hrest ih =>
    obtain ⟨_, data⟩ := entry
    obtain ⟨hook, rfl⟩ := hentry
    rw [HookChain.runBefore]
    refine (determined_before hook position ctx hints data).bind ?_
    rintro ⟨left, outcome⟩ -
    dsimp only
    -- the rest of the stage is determined for whatever the hook gave
    have hnext : ∀ (next : HookContext) (given : EvaluationContext),
        Determined ((HookChain.runBefore journal.watched hints (index + 1) next given rest).bind
            fun after => .done { after with chain := ⟨hook.watched position, left⟩ :: after.chain })
          fun run => Watches run.chain (position :: positions) := by
      intro next given
      refine (ih next (index + 1) given).bind fun run hrun => ?_
      exact determined_done (List.Forall₂.cons ⟨hook, rfl⟩ hrun)
    cases outcome.toExcept with
    | error e => exact determined_done (List.Forall₂.cons ⟨hook, rfl⟩ hrest)
    | ok more =>
      cases more with
      | none => exact hnext ctx given
      | some more => exact (determined_log journal _).bind fun _ _ => hnext _ _

theorem runAfter_determined (details : EvaluationDetails FlagValue)
    (hchain : Watches chain positions) :
    Determined (chain.runAfter hints ctx details) fun run => Watches run.1 positions := by
  induction hchain with
  | nil => exact determined_done List.Forall₂.nil
  | @cons entry position rest positions hentry _ ih =>
    obtain ⟨_, data⟩ := entry
    obtain ⟨hook, rfl⟩ := hentry
    rw [HookChain.runAfter]
    refine ih.bind ?_
    rintro ⟨after, result⟩ hafter
    cases result with
    | error e => exact determined_done (List.Forall₂.cons ⟨hook, rfl⟩ hafter)
    | ok =>
      refine (determined_after hook position ctx hints data details).bind ?_
      rintro ⟨left, outcome⟩ -
      exact determined_done (List.Forall₂.cons ⟨hook, rfl⟩ hafter)

theorem runAll_determined (stage : String)
    {call : Hook (Watched σ) → HookData → Task (Watched σ) (HookData × Outcome Unit)}
    (hcall : ∀ (hook : Hook σ) position data,
      Determined (call (hook.watched position) data) fun _ => True)
    (hchain : Watches chain positions) (index : Nat) :
    Determined (chain.runAll journal.watched stage ctx call index)
      fun after => Watches after positions := by
  induction hchain generalizing index with
  | nil => exact determined_done List.Forall₂.nil
  | @cons entry position rest positions hentry _ ih =>
    obtain ⟨_, data⟩ := entry
    obtain ⟨hook, rfl⟩ := hentry
    rw [HookChain.runAll]
    refine (ih (index + 1)).bind fun after hafter => ?_
    refine (hcall hook position data).bind ?_
    rintro ⟨left, outcome⟩ -
    -- a failure is passed over, and its report is no call
    have hend : Watches (⟨hook.watched position, left⟩ :: after) (position :: positions) :=
      List.Forall₂.cons ⟨hook, rfl⟩ hafter
    dsimp only
    cases HookChain.passedOver? stage index ctx outcome with
    | none => exact determined_done hend
    | some entry => exact (determined_log journal entry).bind fun _ _ => determined_done hend

theorem runError_determined (err : EvaluationError) (hchain : Watches chain positions) :
    Determined (chain.runError journal.watched hints ctx err)
      fun after => Watches after positions :=
  runAll_determined journal ctx "error"
    (fun hook position data => determined_error hook position ctx hints data err) hchain 0

theorem runFinish_determined (hchain : Watches chain positions) :
    Determined (chain.runFinish journal.watched hints ctx) fun after => Watches after positions :=
  runAll_determined journal ctx "finally_after"
    (fun hook position data => determined_finish hook position ctx hints data) hchain 0

end Stages

/-! ### The whole evaluation -/

section Whole

variable (journal : Journal σ) (e : Evaluation σ) {chain : HookChain (Watched σ)}
  {positions : List Nat}

theorem attempt_determined (hchain : Watches chain positions) :
    Determined (e.watched.attempt journal.watched chain)
      fun tried => Watches tried.chain positions := by
  rw [attempt]
  split
  · exact determined_done hchain
  refine (runBefore_determined journal _ _ hchain 0 .empty).bind ?_
  rintro ⟨before, ctx, given⟩ hbefore
  cases given with
  | error err => exact determined_done hbefore
  | ok given =>
    refine (determined_lookup e.provider _ _ _).bind fun outcome _ => ?_
    dsimp only
    cases outcome.toExcept.bind e.watched.accept with
    | error err => exact determined_done hbefore
    | ok details =>
      refine (runAfter_determined _ ctx details hbefore).bind ?_
      rintro ⟨after, result⟩ hafter
      exact determined_done hafter

/-- The end of an evaluation that failed. -/
theorem closing_determined (ctx : HookContext) (err : EvaluationError)
    (hchain : Watches chain positions) :
    Determined
      (do
        let chain ← chain.runError journal.watched e.hints ctx err
        let _ ← chain.runFinish journal.watched e.hints ctx
        return e.failed err) fun _ => True := by
  refine (runError_determined journal e.hints ctx err hchain).bind fun after hafter => ?_
  refine (runFinish_determined journal e.hints ctx hafter).bind fun _ _ => ?_
  exact determined_done trivial

theorem runWith_determined (hchain : Watches chain positions) :
    Determined (e.watched.runWith journal.watched chain) fun _ => True := by
  rw [runWith]
  refine (determined_log journal _).bind fun _ _ => ?_
  cases e.watched.status.shortCircuitCode? with
  | some code => exact closing_determined journal e _ _ hchain
  | none =>
    refine (attempt_determined journal e hchain).bind ?_
    rintro ⟨after, ctx, result⟩ hafter
    cases result with
    | ok details =>
      refine (runFinish_determined journal _ ctx hafter).bind fun _ _ => ?_
      exact determined_done trivial
    | error err =>
      exact (determined_log journal _).bind fun _ _ => closing_determined journal e ctx err hafter

/-- **An evaluation is determined by the answers to its calls.** -/
theorem run_determined : Determined (e.watched.run journal.watched) fun _ => True := by
  have hselect := select_watched e.flagType e.hooks 0
  rw [run]
  cases hchain : HookChain.select e.flagType e.hooks with
  | error panic =>
    rw [hchain] at hselect
    have hwatched : HookChain.select e.watched.flagType e.watched.hooks = .error panic := hselect
    rw [hwatched]
    exact determined_done trivial
  | ok chain =>
    rw [hchain] at hselect
    obtain ⟨watched, heq, hwatches⟩ := hselect
    have hwatched : HookChain.select e.watched.flagType e.watched.hooks = .ok watched := heq
    rw [hwatched]
    exact (runWith_determined journal e hwatches).bind fun _ _ => determined_done trivial

end Whole

end Evaluation

/-! ### Through a client -/

namespace Client

open Api (State)
open Evaluation (AnsweredAlike)
open FeatureFlags.Task (beside)

/-- **An evaluation in flight is isolated from whatever is changed meanwhile.**  Everything that it
depends on is read off the state in which it starts.  Amid any changes to the state, it does what
the evaluation that is fixed there does, with its calls noted; and two such runs, in particular one
amid changes and one without, make the same calls, tell them the same and give the same result, if
their calls are answered alike. -/
theorem evaluation_isolated {W : Type} (host : Host W) (client : Client) (flagType : FlagType)
    (flagKey : String) (defaultValue : FlagValue) (ctx : EvaluationContext)
    (options : EvaluationOptions) (s : State W) :
    let e := client.evaluation host flagType flagKey defaultValue ctx options s
    let run := fun changes : List (State W → State W) =>
      (e.watched.run host.log.watched).runAmid (beside _ changes) (s, [])
    (∀ changes, (client.evaluate host flagType flagKey defaultValue ctx options).runAmid changes s =
      ((run changes).1, (run changes).2.1)) ∧
    ∀ changes changes', AnsweredAlike (run changes).2.2 (run changes').2.2 →
      (run changes).2.2 = (run changes').2.2 ∧ (run changes).1 = (run changes').1 := by
  intro e run
  refine ⟨fun changes => ?_, fun changes changes' =>
    (Evaluation.run_determined host.log e).agree s s changes changes'⟩
  obtain ⟨hresult, hstate⟩ := (Evaluation.run_mimics host.log e).runAmid changes (s, [])
  exact Prod.ext hresult.symm hstate.symm

/-- A hook that waits before every evaluation, and gives no context. -/
def waitingHook (σ : Type) : Hook σ :=
  { Hook.silent with before := fun _ _ data => .suspend (.done (data, .returned none)) }

/-- An application whose hooks wait, and whose providers wait before every answer. -/
def unhurried : Host Unit where
  provider _ number :=
    { NoOp.provider _ with
      name := if number = 1 then "first" else "second"
      resolve := fun _ _ defaultValue _ => .suspend (.done (.returned (NoOp.answer defaultValue))) }
  hook _ _ := waitingHook _
  handle _ _ := .done none
  receive _ _ := .done ()
  journal _ world := world

/-- Before the hook goes on, the hooks of the instance are cleared, its context is replaced and
another provider is bound; before the provider answers, all bindings are cleared.  The evaluation
gives what it gives if nothing is changed, although the changes are there when it has ended. -/
theorem isolated_when_reconfigured :
    let registry := ((Registry.fresh 0).bind .default ⟨.application 1, "first"⟩).1
    let s : State Unit := { State.fresh () with
      registry := { registry with statuses := [(.application 1, .ready)] }
      scope := ⟨[⟨1⟩], .empty⟩ }
    let changes : List (State Unit → State Unit) :=
      [fun s => { s with
          registry := (s.registry.bind .default ⟨.application 2, "second"⟩).1
          scope := ⟨[], .ofKey "other"⟩ },
        fun s => { s with registry := s.registry.clear.1 }]
    let evaluate := Client.evaluate unhurried ⟨1, none⟩ .boolean "flag" (.bool true) .empty .none
    (evaluate.runAmid changes s).1 = (evaluate.run s).1 ∧
      (evaluate.runAmid changes s).2.registry.defaultProvider.id = .builtin 1 ∧
      (evaluate.runAmid changes s).2.scope.hooks = [] := by
  intro registry s changes evaluate
  obtain ⟨hrun, hsame⟩ := evaluation_isolated unhurried ⟨1, none⟩ .boolean "flag" (.bool true)
    .empty .none s
  obtain ⟨-, hresult⟩ := hsame changes []
    fun _ => ⟨rfl, fun _ => ⟨rfl, fun _ => ⟨rfl, fun _ => ⟨rfl, trivial⟩⟩⟩⟩
  rw [← Task.runAmid_nil, hrun, hrun]
  exact ⟨hresult, rfl, rfl⟩

end Client

end FeatureFlags
