import FeatureFlags.EvaluationContext
import FeatureFlags.Proofs.SortedMap.Lookup

/-!
# The scalars of a value

A value is made of scalars in lists and structures, at any depth.

## Main definitions

* `ContextValue.hasScalar` — whether a scalar of some kind stands in a value, at any depth.
* `EvaluationContext.hasScalar` — whether one stands in an attribute.

## Main results

* `ContextValue.equal_self` — a value equals itself exactly if no NaN stands in it.
* `EvaluationContext.hasScalar_merge` — laying contexts over each other makes up no scalar.
-/

namespace FeatureFlags

namespace ContextValue

variable {kind : ContextValue → Bool}

mutual

/-- Whether a scalar of some kind stands in a value, at any depth. -/
def hasScalar (kind : ContextValue → Bool) : ContextValue → Bool
  | list items => hasScalarItems kind items
  | struct fields => hasScalarFields kind fields
  | scalar => kind scalar

def hasScalarItems (kind : ContextValue → Bool) : List ContextValue → Bool
  | [] => false
  | item :: rest => hasScalar kind item || hasScalarItems kind rest

def hasScalarFields (kind : ContextValue → Bool) : List (String × ContextValue) → Bool
  | [] => false
  | (_, value) :: rest => hasScalar kind value || hasScalarFields kind rest

end

theorem hasScalarFields_eq_false_iff {fields : List (String × ContextValue)} :
    hasScalarFields kind fields = false ↔ ∀ e ∈ fields, e.2.hasScalar kind = false := by
  induction fields with
  | nil => simp [hasScalarFields]
  | cons field rest ih => simp [hasScalarFields, ih]

/-! ### Equality -/

def isNaN : ContextValue → Bool
  | float x => x.isNaN
  | _ => false

mutual

/-- **A value equals itself exactly if no NaN stands in it.** -/
theorem equal_self (v : ContextValue) : v.equal v = !v.hasScalar isNaN := by
  cases v with
  | bool b => exact beq_self_eq_true b
  | int i => exact beq_self_eq_true i
  | string s => exact beq_self_eq_true s
  | timestamp t => exact beq_self_eq_true t
  | float x =>
    rw [equal, hasScalar, isNaN, Binary64.equal, beq_self_eq_true, Bool.true_or, Bool.and_true,
      Bool.and_self]
    · intro items h
      exact ContextValue.noConfusion h
    · intro fields h
      exact ContextValue.noConfusion h
  | list items => exact equalItems_self items
  | struct fields => exact equalFields_self fields

theorem equalItems_self (items : List ContextValue) :
    equalItems items items = !hasScalarItems isNaN items := by
  cases items with
  | nil => rfl
  | cons item rest =>
    rw [equalItems, hasScalarItems, Bool.not_or, equal_self item, equalItems_self rest]

theorem equalFields_self (fields : List (String × ContextValue)) :
    equalFields fields fields = !hasScalarFields isNaN fields := by
  cases fields with
  | nil => rfl
  | cons field rest =>
    obtain ⟨name, value⟩ := field
    rw [equalFields, hasScalarFields, Bool.not_or, beq_self_eq_true, Bool.true_and,
      equal_self value, equalFields_self rest]

end

end ContextValue

namespace EvaluationContext

variable {kind : ContextValue → Bool} {a b : EvaluationContext}

/-- Whether a scalar of some kind stands in an attribute, at any depth. -/
def hasScalar (kind : ContextValue → Bool) (ctx : EvaluationContext) : Bool :=
  ContextValue.hasScalarFields kind ctx.attributes.entries

/-- A context without NaN equals itself. -/
theorem equal_self (h : a.hasScalar ContextValue.isNaN = false) : a.equal a = true := by
  have hfields : ContextValue.equalFields a.attributes.entries a.attributes.entries = true := by
    rw [ContextValue.equalFields_self, Bool.not_eq_true']
    exact h
  rw [equal, hfields, beq_self_eq_true, Bool.and_self]

/-- Laying contexts over each other makes up no scalar. -/
theorem hasScalar_merge (ha : a.hasScalar kind = false) (hb : b.hasScalar kind = false) :
    (a.merge b).hasScalar kind = false := by
  have hbelow := ContextValue.hasScalarFields_eq_false_iff.mp ha
  have habove := ContextValue.hasScalarFields_eq_false_iff.mp hb
  refine ContextValue.hasScalarFields_eq_false_iff.mpr fun e he => ?_
  rcases Entries.mem_union he with hmem | hmem
  · exact hbelow e hmem
  · exact habove e hmem

end EvaluationContext

end FeatureFlags
