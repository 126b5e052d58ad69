import FeatureFlags.FlagType

/-!
# Errors

An evaluation fails with an `EvaluationError`: a code of a closed set and a message that
may be missing.  A call that is misused fails at once with a `UsageError`, which stands
for the same thing whatever the flag.

## Main definitions

* `ErrorCode` — why an evaluation fails.
* `EvaluationError` — a code and a message.
* `UsageError` — a call that is refused.
* `Panic` — what a callback threw instead of returning.
-/

namespace FeatureFlags

/-- Why an evaluation fails. -/
inductive ErrorCode where
  | providerNotReady
  | providerFatal
  | flagNotFound
  | parseError
  | typeMismatch
  | targetingKeyMissing
  | invalidContext
  | general
deriving DecidableEq, Inhabited

namespace ErrorCode

/-- The name on the wire. -/
def name : ErrorCode → String
  | providerNotReady => "PROVIDER_NOT_READY"
  | providerFatal => "PROVIDER_FATAL"
  | flagNotFound => "FLAG_NOT_FOUND"
  | parseError => "PARSE_ERROR"
  | typeMismatch => "TYPE_MISMATCH"
  | targetingKeyMissing => "TARGETING_KEY_MISSING"
  | invalidContext => "INVALID_CONTEXT"
  | general => "GENERAL"

def all : List ErrorCode :=
  [providerNotReady, providerFatal, flagNotFound, parseError, typeMismatch,
    targetingKeyMissing, invalidContext, general]

/-- The code with a name. -/
def ofName? (s : String) : Option ErrorCode := all.find? (·.name == s)

end ErrorCode

/-- Why an evaluation failed, in a word and perhaps a sentence. -/
structure EvaluationError where
  code : ErrorCode
  message : Option String
deriving DecidableEq, Inhabited

namespace EvaluationError

/-- An error with a message. -/
def of (code : ErrorCode) (message : String) : EvaluationError := ⟨code, some message⟩

/-- An error of no special kind. -/
def general (message : String) : EvaluationError := of .general message

/-- A value of one kind where a flag type was asked for. -/
def typeMismatch (expected : FlagType) (actual : String) : EvaluationError :=
  of .typeMismatch ("expected " ++ expected.name ++ " value, got " ++ actual)

/-- The code, and the message after a colon if there is one. -/
def render (e : EvaluationError) : String :=
  match e.message with
  | none => e.code.name
  | some m => e.code.name ++ ": " ++ m

/-- Whether the error marks its provider as unusable for good. -/
def isFatal (e : EvaluationError) : Bool := e.code == .providerFatal

end EvaluationError

/-- A call that is refused at once. -/
inductive UsageError where
  /-- A provider was to be bound to the empty domain. -/
  | noDomain
  /-- Two entries of a multi-provider were given the same name. -/
  | duplicateProviderName (name : String)
  /-- Something was put together in a way that cannot work. -/
  | invalidConfiguration (reason : String)
deriving DecidableEq, Inhabited

namespace UsageError

/-- The sentence for the caller. -/
def message : UsageError → String
  | noDomain => "No domain"
  | duplicateProviderName name => "duplicate provider name: " ++ name
  | invalidConfiguration reason => "invalid configuration: " ++ reason

/-- Every refused call counts as an error of no special kind. -/
def code : UsageError → ErrorCode := fun _ => .general

/-- The refusal as an evaluation error. -/
def toEvaluationError (e : UsageError) : EvaluationError := .of e.code e.message

end UsageError

/-- What a callback threw instead of returning: a text, or something without one. -/
inductive Panic where
  | text (message : String)
  | textless
deriving DecidableEq, Inhabited

/-- The text of what was thrown. -/
def Panic.message : Panic → String
  | text m => m
  | textless => "unknown panic"

end FeatureFlags
