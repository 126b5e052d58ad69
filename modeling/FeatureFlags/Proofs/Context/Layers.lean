import FeatureFlags.Proofs.Context.Merge
import FeatureFlags.Proofs.Context.Scalars
import Mathlib.Data.List.Induction

/-!
# What a stack of contexts holds

Contexts form a monoid but for the targeting key of the lowest one: laid over the empty context, a
key that is empty is lost.  In a stack of contexts the topmost key that is not empty counts, and an
attribute has the value that the topmost context with it gives.

## Main results

* `EvaluationContext.targetingKey_mergeAll`, `EvaluationContext.attribute?_mergeAll` — what a stack
  of contexts holds.
* `EvaluationContext.mergeAll_append` — two stacks, one put on the other.
* `EvaluationContext.merge_laws` — **the laws of laying contexts over each other**.
-/

namespace FeatureFlags

namespace EvaluationContext

open ContextValue (isNaN)

/-- Laid over the empty context, a context loses its key if that is empty, and nothing else. -/
theorem empty_merge (a : EvaluationContext) :
    empty.merge a = { a with targetingKey := a.effectiveKey? } := by
  have hkey : (empty.merge a).targetingKey = a.effectiveKey? := by
    rw [targetingKey_merge]
    exact Option.or_none
  have hattributes : (empty.merge a).attributes = a.attributes := SortedMap.ofList_entries _
  exact congrArg₂ EvaluationContext.mk hkey hattributes

theorem getLast?_filterMap_concat {α β : Type} (f : α → Option β) (front : List α) (last : α) :
    ((front ++ [last]).filterMap f).getLast? = (f last).or (front.filterMap f).getLast? := by
  rw [List.filterMap_append, List.getLast?_append]
  cases hlast : f last with
  | none => rw [List.filterMap_cons_none hlast]; rfl
  | some b => rw [List.filterMap_cons_some hlast]; rfl

/-- The key of a stack is the topmost one that is not empty. -/
theorem targetingKey_mergeAll (contexts : List EvaluationContext) :
    (mergeAll contexts).targetingKey = (contexts.filterMap effectiveKey?).getLast? := by
  induction contexts using List.reverseRecOn with
  | nil => rfl
  | append_singleton below top ih =>
    rw [mergeAll_append_singleton, targetingKey_merge, ih, getLast?_filterMap_concat]

/-- An attribute of a stack is what the topmost context that has it gives. -/
theorem attribute?_mergeAll (contexts : List EvaluationContext) (name : String) :
    (mergeAll contexts).attribute? name =
      (contexts.filterMap fun ctx => ctx.attribute? name).getLast? := by
  induction contexts using List.reverseRecOn with
  | nil => rfl
  | append_singleton below top ih =>
    have htop : ((mergeAll below).merge top).attribute? name =
        (top.attribute? name).or ((mergeAll below).attribute? name) := SortedMap.find?_union _ _ _
    rw [mergeAll_append_singleton, htop, ih, getLast?_filterMap_concat]

/-- Two stacks, one put on the other. -/
theorem mergeAll_append (below above : List EvaluationContext) :
    mergeAll (below ++ above) = (mergeAll below).merge (mergeAll above) := by
  rw [merge_mergeAll, mergeAll, List.foldl_append]
  rfl

/-- **The laws of laying contexts over each other.**  It may be done in groups; the empty context
changes nothing on top, and at the bottom nothing but a key that is empty.  Contexts that are the
same by these laws also compare equal, unless a NaN stands in them.  A stack of contexts has the
topmost key that is not empty, the attributes of its contexts, each as the topmost context that has
it gives it, and no others; and one stack put on another is laid over it. -/
theorem merge_laws (a b c : EvaluationContext) (below above : List EvaluationContext)
    (name : String) :
    ((a.merge b).merge c = a.merge (b.merge c) ∧
        (a.hasScalar isNaN = false → b.hasScalar isNaN = false → c.hasScalar isNaN = false →
          ((a.merge b).merge c).equal (a.merge (b.merge c)) = true)) ∧
      (a.merge .empty = a ∧ (a.hasScalar isNaN = false → (a.merge .empty).equal a = true)) ∧
      empty.merge a = { a with targetingKey := a.effectiveKey? } ∧
      (mergeAll above).targetingKey = (above.filterMap effectiveKey?).getLast? ∧
      (mergeAll above).attribute? name =
        (above.filterMap fun ctx => ctx.attribute? name).getLast? ∧
      mergeAll (below ++ above) = (mergeAll below).merge (mergeAll above) := by
  refine ⟨⟨merge_assoc a b c, ?_⟩, ⟨merge_empty a, ?_⟩, empty_merge a,
    targetingKey_mergeAll above, attribute?_mergeAll above name, mergeAll_append below above⟩
  · intro ha hb hc
    rw [← merge_assoc]
    exact equal_self (hasScalar_merge (hasScalar_merge ha hb) hc)
  · intro ha
    rw [merge_empty]
    exact equal_self ha

/-- In a stack of three the empty key of the topmost context does not count, but its attribute
does. -/
theorem merge_laws_of_three :
    let lowest := (ofKey "user").withAttribute "plan" (.string "free")
    let middle := (ofKey "guest").withAttribute "age" (.int 30)
    let topmost := (ofKey "").withAttribute "plan" (.string "paid")
    ((lowest.merge middle).merge topmost).equal (lowest.merge (middle.merge topmost)) = true ∧
      (lowest.merge .empty).equal lowest = true ∧
      (mergeAll [lowest, middle, topmost]).targetingKey = some "guest" ∧
      (mergeAll [lowest, middle, topmost]).attribute? "plan" = some (.string "paid") := by
  intro lowest middle topmost
  obtain ⟨⟨-, hassoc⟩, ⟨-, hright⟩, -, hkey, hplan, -⟩ :=
    merge_laws lowest middle topmost [] [lowest, middle, topmost] "plan"
  have hlowest : lowest.hasScalar isNaN = false := by decide
  have hmiddle : middle.hasScalar isNaN = false := by decide
  have htopmost : topmost.hasScalar isNaN = false := by decide
  exact ⟨hassoc hlowest hmiddle htopmost, hright hlowest, hkey.trans (by decide),
    hplan.trans rfl⟩

end EvaluationContext

end FeatureFlags
