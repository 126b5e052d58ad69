import FeatureFlags.EvaluationContext
import FeatureFlags.Proofs.SortedMap.Lookup

/-!
# Laying contexts over each other

Contexts may be laid over each other in groups: what matters is their order alone.  The
empty context changes nothing when it is laid over another one.  The other way round it
does: a targeting key that is empty is dropped by laying its context over any other, so
laying contexts over the empty one is not the same as leaving the first of them alone, and
the two only agree once everything lies over the same ground.

## Main results

* `EvaluationContext.merge_assoc` — contexts may be laid over each other in groups.
* `EvaluationContext.merge_mergeAll` — laying contexts over a ground one by one, or laying
  them over each other first and all of them over the ground.
-/

namespace FeatureFlags

namespace EvaluationContext

/-! ### Two contexts -/

/-- Falling back to the key of the same context, whether it counts or not, gives that key. -/
theorem effectiveKey?_or_targetingKey (a : EvaluationContext) :
    a.effectiveKey?.or a.targetingKey = a.targetingKey := by
  rw [effectiveKey?]
  cases a.targetingKey with
  | none => rfl
  | some key =>
    rw [Option.filter_some]
    split
    · rfl
    · rfl

/-- The key of the upper context if it counts, or else that of the lower one. -/
theorem targetingKey_merge (a b : EvaluationContext) :
    (a.merge b).targetingKey = b.effectiveKey?.or a.targetingKey := by
  rw [merge, effectiveKey?_or_targetingKey]

/-- Of the two keys that count, that of the upper context wins. -/
theorem effectiveKey?_merge (a b : EvaluationContext) :
    (a.merge b).effectiveKey? = b.effectiveKey?.or a.effectiveKey? := by
  rw [effectiveKey?, targetingKey_merge]
  cases hkey : b.effectiveKey? with
  | none => rfl
  | some key =>
    have hcounts : (key != "") = true := (Option.filter_eq_some_iff.mp hkey).2
    rw [Option.some_or, Option.some_or, Option.filter_some, if_pos hcounts]

/-- The empty context changes nothing that it is laid over. -/
@[simp] theorem merge_empty (a : EvaluationContext) : a.merge .empty = a := by
  have hkey : (a.merge .empty).targetingKey = a.targetingKey := by
    rw [targetingKey_merge]
    rfl
  exact congrArg₂ EvaluationContext.mk hkey (SortedMap.union_empty _)

/-- **Contexts may be laid over each other in groups.** -/
theorem merge_assoc (a b c : EvaluationContext) : (a.merge b).merge c = a.merge (b.merge c) := by
  have hkey : ((a.merge b).merge c).targetingKey = (a.merge (b.merge c)).targetingKey := by
    rw [targetingKey_merge, targetingKey_merge, targetingKey_merge, effectiveKey?_merge,
      Option.or_assoc]
  have hattributes : ((a.merge b).merge c).attributes = (a.merge (b.merge c)).attributes :=
    SortedMap.union_assoc _ _ _
  exact congrArg₂ EvaluationContext.mk hkey hattributes

/-! ### Any number of contexts -/

/-- Laying contexts one by one over two, of which the lower one may come last. -/
theorem foldl_merge (a b : EvaluationContext) (contexts : List EvaluationContext) :
    contexts.foldl merge (a.merge b) = a.merge (contexts.foldl merge b) := by
  induction contexts generalizing b with
  | nil => rfl
  | cons c rest ih => rw [List.foldl_cons, List.foldl_cons, merge_assoc, ih]

/-- **Contexts laid over a ground one by one, or all at once**, an empty targeting key among
them or not. -/
theorem merge_mergeAll (ground : EvaluationContext) (contexts : List EvaluationContext) :
    ground.merge (mergeAll contexts) = contexts.foldl merge ground := by
  rw [mergeAll, ← foldl_merge, merge_empty]

theorem mergeAll_append_singleton (contexts : List EvaluationContext) (c : EvaluationContext) :
    mergeAll (contexts ++ [c]) = (mergeAll contexts).merge c := by
  rw [mergeAll, List.foldl_append]
  rfl

/-- A context with an empty targeting key, laid over the empty one, loses it. -/
example : (mergeAll [ofKey ""]).targetingKey = none := by decide

end EvaluationContext

end FeatureFlags
