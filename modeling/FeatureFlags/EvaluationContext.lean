import FeatureFlags.Binary64
import FeatureFlags.SortedMap
import FeatureFlags.Timestamp

/-!
# Evaluation contexts

The targeting data of an evaluation: the key of the subject and typed attributes.
Contexts are laid over each other, a later one winning.

## Main definitions

* `ContextValue` — an attribute value; there is no null.
* `ContextValue.equal` — equality with floats compared as numbers.
* `EvaluationContext` — a targeting key and attributes.
* `EvaluationContext.merge`, `EvaluationContext.mergeAll` — contexts over each other.
-/

namespace FeatureFlags

/-- A typed attribute value. The fields of a structure are kept sorted by name. -/
inductive ContextValue where
  | bool (b : Bool)
  | int (i : Int64)
  | float (x : Binary64)
  | string (s : String)
  | timestamp (t : Timestamp)
  | list (items : List ContextValue)
  | struct (fields : List (String × ContextValue))
deriving Inhabited

namespace ContextValue

def asBool? : ContextValue → Option Bool
  | bool b => some b
  | _ => none

def asInt? : ContextValue → Option Int64
  | int i => some i
  | _ => none

/-- The value as a float; an integer is rounded to the nearest one. -/
def asFloat? : ContextValue → Option Binary64
  | float x => some x
  | int i => some (.ofInt i.toInt)
  | _ => none

def asString? : ContextValue → Option String
  | string s => some s
  | _ => none

mutual

/-- Equality: kinds are never equal across, and floats are compared as numbers, so that a
NaN differs from itself. -/
def equal : ContextValue → ContextValue → Bool
  | bool a, bool b => a == b
  | int a, int b => a == b
  | float a, float b => a.equal b
  | string a, string b => a == b
  | timestamp a, timestamp b => a == b
  | list a, list b => equalItems a b
  | struct a, struct b => equalFields a b
  | _, _ => false

def equalItems : List ContextValue → List ContextValue → Bool
  | [], [] => true
  | a :: as, b :: bs => equal a b && equalItems as bs
  | _, _ => false

/-- Equality of fields in the same order. -/
def equalFields : List (String × ContextValue) → List (String × ContextValue) → Bool
  | [], [] => true
  | (j, a) :: as, (k, b) :: bs => j == k && equal a b && equalFields as bs
  | _, _ => false

end

mutual

/-- The fields of every structure are in strictly ascending name order. -/
def Canonical : ContextValue → Prop
  | list items => CanonicalItems items
  | struct fields => Entries.Sorted fields ∧ CanonicalFields fields
  | _ => True

def CanonicalItems : List ContextValue → Prop
  | [] => True
  | item :: rest => Canonical item ∧ CanonicalItems rest

def CanonicalFields : List (String × ContextValue) → Prop
  | [] => True
  | (_, value) :: rest => Canonical value ∧ CanonicalFields rest

end

end ContextValue

/-- The targeting data of one evaluation. -/
structure EvaluationContext where
  /-- Identifies the subject, usually a user. -/
  targetingKey : Option String
  attributes : SortedMap ContextValue
deriving Inhabited

namespace EvaluationContext

/-- The context without key and attributes. -/
def empty : EvaluationContext := ⟨none, .empty⟩

instance : EmptyCollection EvaluationContext := ⟨empty⟩

/-- A context with a targeting key only. -/
def ofKey (key : String) : EvaluationContext := ⟨some key, .empty⟩

def withTargetingKey (ctx : EvaluationContext) (key : String) : EvaluationContext :=
  { ctx with targetingKey := some key }

/-- Adds an attribute, replacing the one of the same name. -/
def withAttribute (ctx : EvaluationContext) (name : String) (value : ContextValue) :
    EvaluationContext :=
  { ctx with attributes := ctx.attributes.insert name value }

def attribute? (ctx : EvaluationContext) (name : String) : Option ContextValue :=
  ctx.attributes.find? name

/-- The targeting key, unless it is empty. -/
def effectiveKey? (ctx : EvaluationContext) : Option String :=
  ctx.targetingKey.filter fun key => key != ""

/-- Neither a targeting key that counts nor an attribute. -/
def isEmpty (ctx : EvaluationContext) : Bool :=
  ctx.effectiveKey?.isNone && ctx.attributes.isEmpty

/-- Lays `other` over `ctx`: the attributes of both, those of `other` winning, and the
targeting key of `other` unless it is empty. -/
def merge (ctx other : EvaluationContext) : EvaluationContext where
  targetingKey := other.effectiveKey?.or (ctx.effectiveKey?.or ctx.targetingKey)
  attributes := ctx.attributes.union other.attributes

/-- Contexts laid over each other, the last on top. -/
def mergeAll (contexts : List EvaluationContext) : EvaluationContext :=
  contexts.foldl merge empty

/-- Equality with floats compared as numbers. -/
def equal (a b : EvaluationContext) : Bool :=
  a.targetingKey == b.targetingKey &&
    ContextValue.equalFields a.attributes.entries b.attributes.entries

end EvaluationContext

end FeatureFlags
