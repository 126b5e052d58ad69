import FeatureFlags.EvaluationContext
import FeatureFlags.ProviderStatus
import FeatureFlags.Resolution

/-!
# Written form of values

Every value as a JSON document.  The fields of a record stand in their declared order and
none is left out: one that is absent is `null`.  A value of several kinds is written bare,
without its kind, and a member of a closed set by its name.

## Main definitions

* `ContextValue.toJson`, `FlagValue.toJson`, `MetadataValue.toJson` — bare values.
* `EvaluationContext.toJson`, `EvaluationError.toJson`, `EventDetails.toJson`,
  `Resolution.toJson`, `EvaluationDetails.toJson` — records.
-/

namespace FeatureFlags

/-! ### Bare values -/

namespace ContextValue

mutual

/-- The bare value; a point in time is its RFC 3339 text. -/
def toJson : ContextValue → Json
  | bool b => .bool b
  | int i => .ofInt64 i
  | float x => .ofBinary64 x
  | string s => .string s
  | timestamp t => .string t.render
  | list items => .array (itemsToJson items)
  | struct fields => .object (fieldsToJson fields)

def itemsToJson : List ContextValue → List Json
  | [] => []
  | item :: rest => toJson item :: itemsToJson rest

def fieldsToJson : List (String × ContextValue) → List (String × Json)
  | [] => []
  | (name, value) :: rest => (name, toJson value) :: fieldsToJson rest

end

end ContextValue

/-- The bare value. -/
def FlagValue.toJson : FlagValue → Json
  | .bool b => .bool b
  | .int i => .ofInt64 i
  | .float x => .ofBinary64 x
  | .string s => .string s
  | .object j => j

/-- The bare value. -/
def MetadataValue.toJson : MetadataValue → Json
  | .bool b => .bool b
  | .int i => .ofInt64 i
  | .float x => .ofBinary64 x
  | .string s => .string s

/-- The bare values by name. -/
def FlagMetadata.toJson (metadata : FlagMetadata) : Json :=
  .object (metadata.mapValues MetadataValue.toJson).entries

/-! ### Records -/

def EvaluationContext.toJson (ctx : EvaluationContext) : Json :=
  .object [("targeting_key", .ofText? ctx.targetingKey),
    ("attributes", .object (ContextValue.fieldsToJson ctx.attributes.entries))]

def EvaluationError.toJson (e : EvaluationError) : Json :=
  .object [("code", .string e.code.name), ("message", .ofText? e.message)]

def EventDetails.toJson (d : EventDetails) : Json :=
  .object [("provider_name", .string d.providerName),
    ("flags_changed", .array (d.flagsChanged.map .string)),
    ("message", .ofText? d.message),
    ("error_code", .ofText? (d.errorCode.map ErrorCode.name)),
    ("metadata", d.metadata.toJson)]

def Resolution.toJson (r : Resolution FlagValue) : Json :=
  .object [("value", r.value.toJson),
    ("variant", .ofText? r.variant),
    ("reason", .ofText? (r.reason.map Reason.name)),
    ("flag_metadata", r.metadata.toJson),
    ("error_code", .ofText? (r.errorCode.map ErrorCode.name)),
    ("error_message", .ofText? r.errorMessage)]

def EvaluationDetails.toJson (d : EvaluationDetails FlagValue) : Json :=
  .object [("flag_key", .string d.flagKey),
    ("value", d.value.toJson),
    ("variant", .ofText? d.variant),
    ("flag_metadata", d.metadata.toJson),
    ("reason", .ofText? (d.reason.map Reason.name)),
    ("error_code", .ofText? (d.errorCode.map ErrorCode.name)),
    ("error_message", .ofText? d.errorMessage)]

end FeatureFlags
