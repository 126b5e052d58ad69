import FeatureFlags.FlagValue

/-!
# Results

A provider answers a lookup with a `Resolution`; the caller gets `EvaluationDetails`,
which name the flag as well.

## Main definitions

* `Reason` — why a value was returned.
* `Resolution` — a provider's answer.
* `EvaluationDetails` — the result of an evaluation.
-/

namespace FeatureFlags

/-- Why a value was returned. -/
inductive Reason where
  /-- The value is fixed in the configuration. -/
  | static
  /-- The value is a default. -/
  | default
  /-- A targeting rule matched. -/
  | targetingMatch
  /-- The subject was assigned at random, as in a gradual rollout. -/
  | split
  | cached
  | disabled
  | unknown
  /-- The evaluation failed and the default was returned. -/
  | error
deriving DecidableEq, Inhabited

namespace Reason

/-- The name on the wire. -/
def name : Reason → String
  | static => "STATIC"
  | default => "DEFAULT"
  | targetingMatch => "TARGETING_MATCH"
  | split => "SPLIT"
  | cached => "CACHED"
  | disabled => "DISABLED"
  | unknown => "UNKNOWN"
  | error => "ERROR"

def all : List Reason :=
  [static, default, targetingMatch, split, cached, disabled, unknown, error]

/-- The reason with a name. -/
def ofName? (s : String) : Option Reason := all.find? (·.name == s)

end Reason

/-- A provider's answer to a lookup. -/
structure Resolution (α : Type) where
  value : α
  variant : Option String
  reason : Option Reason
  metadata : FlagMetadata
  errorCode : Option ErrorCode
  errorMessage : Option String
deriving Inhabited

namespace Resolution

variable {α β : Type}

/-- An answer that is a value and nothing else. -/
def ofValue (value : α) : Resolution α := ⟨value, none, none, .empty, none, none⟩

/-- An answer that failed and falls back to a default. -/
def ofError (fallback : α) (e : EvaluationError) : Resolution α :=
  ⟨fallback, none, some .error, .empty, some e.code, e.message⟩

/-- Whether the answer reports an error, by its code or by its reason. -/
def isError (r : Resolution α) : Bool := r.errorCode.isSome || r.reason == some .error

/-- The error the answer carries: the message counts only with a code. -/
def error? (r : Resolution α) : Option EvaluationError :=
  r.errorCode.map fun code => ⟨code, r.errorMessage⟩

/-- The answer with another value. -/
def withValue (r : Resolution α) (value : β) : Resolution β := { r with value }

/-- The answer with its value changed. -/
def map (f : α → β) (r : Resolution α) : Resolution β := r.withValue (f r.value)

/-- The answer with its value taken into the carrier of a flag type. -/
def toCarrier (t : FlagType) (r : Resolution FlagValue) :
    Except EvaluationError (Resolution t.Carrier) :=
  (FlagValue.toCarrier t r.value).map r.withValue

end Resolution

/-- The result of one evaluation. -/
structure EvaluationDetails (α : Type) where
  flagKey : String
  value : α
  variant : Option String
  metadata : FlagMetadata
  reason : Option Reason
  errorCode : Option ErrorCode
  errorMessage : Option String
deriving Inhabited

namespace EvaluationDetails

variable {α β : Type}

/-- The result that a provider's answer gives. -/
def ofResolution (flagKey : String) (r : Resolution α) : EvaluationDetails α :=
  ⟨flagKey, r.value, r.variant, r.metadata, r.reason, r.errorCode, r.errorMessage⟩

/-- The result of a failed evaluation: the caller's default. -/
def ofError (flagKey : String) (fallback : α) (e : EvaluationError) : EvaluationDetails α :=
  ⟨flagKey, fallback, none, .empty, some .error, some e.code, e.message⟩

/-- Whether the evaluation failed. -/
def isError (d : EvaluationDetails α) : Bool := d.errorCode.isSome

/-- The result with another value. -/
def withValue (d : EvaluationDetails α) (value : β) : EvaluationDetails β := { d with value }

/-- The result with its value changed. -/
def map (f : α → β) (d : EvaluationDetails α) : EvaluationDetails β := d.withValue (f d.value)

end EvaluationDetails

end FeatureFlags
