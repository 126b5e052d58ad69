import FeatureFlags.EvaluationContext
import FeatureFlags.Json.Reader
import FeatureFlags.ProviderStatus
import FeatureFlags.Resolution
import FeatureFlags.Wire.Record

/-!
# Reading values from JSON text

A bare value takes the first kind that fits it: a truth value, an integer within the
signed 64-bit range, a number, a string, and then what else its type has.  No text is read
as a point in time, because every string is a string already.

Each reader is given a bound on the nesting of arrays and objects; a record spends one
level of it on itself.

## Main definitions

* `ContextValue.ofDocument?`, `FlagValue.ofDocument?`, `MetadataValue.ofDocument?` — bare
  values.
* `EvaluationContext.decode?`, `EvaluationError.decode?`, `EventDetails.decode?`,
  `Resolution.decode?`, `EvaluationDetails.decode?` — records.
* `decodeName?` — a member of a closed set.
* `decodeText?` — a reader applied to a whole text.
-/

namespace FeatureFlags

/-! ### Scalars -/

namespace Document

def toBool? : Document → Option Bool
  | .bool b => some b
  | _ => none

def toText? : Document → Option String
  | .string t => t.value?
  | _ => none

/-- An integer within the signed 64-bit range. -/
def toInt64? : Document → Option Int64
  | .number t =>
    match t.value? with
    | some (.integer i) => i.toInt64?
    | _ => none
  | _ => none

/-- Any number, rounded to a binary64 value. -/
def toBinary64? : Document → Option Binary64
  | .number t =>
    match t.value? with
    | some (.integer i) => some i.toBinary64
    | some (.float x) => some x
    | none => none
  | _ => none

/-- The items of an array, each read. -/
def toList? {α : Type} (read : Document → Option α) : Document → Option (List α)
  | .array items => items.mapM read
  | _ => none

/-- The members of an object, each read; a repeated key takes its last value. -/
def toMap? {α : Type} (read : Document → Option α) : Document → Option (SortedMap α)
  | .object members =>
    (members.mapM fun (member : StringText × Document) => do
      let key ← member.1.value?
      let value ← read member.2
      some (key, value)).map SortedMap.ofList
  | _ => none

end Document

/-- A member of a closed set: its name, or an object with its name over `null`. -/
def decodeName? {α : Type} (ofName? : String → Option α) : Document → Option α
  | .string t => t.value?.bind ofName?
  | .object [(key, .null)] => key.value?.bind ofName?
  | _ => none

/-! ### Bare values -/

namespace ContextValue

/-- The number as an integer if it fits, and rounded otherwise. -/
def ofNumber : Json.Number → ContextValue
  | .integer i =>
    match i.toInt64? with
    | some i => int i
    | none => float i.toBinary64
  | .float x => float x

mutual

/-- The bare value: there is none for `null`, not even under a key that is repeated. -/
def ofDocument? : Document → Option ContextValue
  | .null => none
  | .bool b => some (bool b)
  | .number t => t.value?.map ofNumber
  | .string t => t.value?.map string
  | .array items => (ofItems? items).map list
  | .object members => (ofMembers? members).map fun fields => struct (Entries.union [] fields)

def ofItems? : List Document → Option (List ContextValue)
  | [] => some []
  | item :: rest =>
    match ofDocument? item, ofItems? rest with
    | some v, some vs => some (v :: vs)
    | _, _ => none

/-- The members in their order, repeated keys kept. -/
def ofMembers? : List (StringText × Document) → Option (List (String × ContextValue))
  | [] => some []
  | (key, value) :: rest =>
    match key.value?, ofDocument? value, ofMembers? rest with
    | some k, some v, some fields => some ((k, v) :: fields)
    | _, _, _ => none

end

/-- The bare value within a bound on nesting. -/
def decode? (levels : Nat) (d : Document) : Option ContextValue :=
  if d.readable levels then ofDocument? d else none

end ContextValue

namespace FlagValue

/-- The number as an integer if it fits, and rounded otherwise. -/
def ofNumber : Json.Number → FlagValue
  | .integer i =>
    match i.toInt64? with
    | some i => int i
    | none => float i.toBinary64
  | .float x => float x

/-- The bare value: what is no scalar is JSON data, also `null`. -/
def ofDocument? : Document → Option FlagValue
  | .bool b => some (bool b)
  | .number t => t.value?.map ofNumber
  | .string t => t.value?.map string
  | d => d.toJson?.map object

/-- The bare value within a bound on nesting. -/
def decode? (levels : Nat) (d : Document) : Option FlagValue :=
  if d.readable levels then ofDocument? d else none

end FlagValue

namespace MetadataValue

/-- The number as an integer if it fits, and rounded otherwise. -/
def ofNumber : Json.Number → MetadataValue
  | .integer i =>
    match i.toInt64? with
    | some i => int i
    | none => float i.toBinary64
  | .float x => float x

/-- The bare value, a scalar. -/
def ofDocument? : Document → Option MetadataValue
  | .bool b => some (bool b)
  | .number t => t.value?.map ofNumber
  | .string t => t.value?.map string
  | _ => none

end MetadataValue

/-- Scalars by name. -/
def FlagMetadata.decode? : Document → Option FlagMetadata :=
  Document.toMap? MetadataValue.ofDocument?

/-- JSON data within a bound on nesting. -/
def Json.decode? (levels : Nat) (d : Document) : Option Json :=
  if d.readable levels then d.toJson? else none

/-- A value of a flag type's carrier within a bound on nesting. -/
def FlagType.decode? : (t : FlagType) → Nat → Document → Option t.Carrier
  | .boolean, _ => Document.toBool?
  | .string, _ => Document.toText?
  | .integer, _ => Document.toInt64?
  | .float, _ => Document.toBinary64?
  | .object, levels => Json.decode? levels

/-! ### Records -/

def EvaluationContext.decode? (levels : Nat) (d : Document) : Option EvaluationContext := do
  let r ← Record.ofDocument? ["targeting_key", "attributes"] d
  let targetingKey ← r.optional? "targeting_key" Document.toText?
  let attributes ← r.defaulted? "attributes" .empty
    (Document.toMap? (ContextValue.decode? (levels - 2)))
  some ⟨targetingKey, attributes⟩

def EvaluationError.decode? (d : Document) : Option EvaluationError := do
  let r ← Record.ofDocument? ["code", "message"] d
  let code ← r.required? "code" (decodeName? ErrorCode.ofName?)
  let message ← r.optional? "message" Document.toText?
  some ⟨code, message⟩

def EventDetails.decode? (d : Document) : Option EventDetails := do
  let r ← Record.ofDocument?
    ["provider_name", "flags_changed", "message", "error_code", "metadata"] d
  let providerName ← r.defaulted? "provider_name" "" Document.toText?
  let flagsChanged ← r.defaulted? "flags_changed" [] (Document.toList? Document.toText?)
  let message ← r.optional? "message" Document.toText?
  let errorCode ← r.optional? "error_code" (decodeName? ErrorCode.ofName?)
  let metadata ← r.defaulted? "metadata" .empty FlagMetadata.decode?
  some ⟨providerName, flagsChanged, message, errorCode, metadata⟩

/-- An answer whose value is read by the given reader, one level down. -/
def Resolution.decode? {α : Type} (read : Nat → Document → Option α) (levels : Nat)
    (d : Document) : Option (Resolution α) := do
  let r ← Record.ofDocument?
    ["value", "variant", "reason", "flag_metadata", "error_code", "error_message"] d
  let value ← r.required? "value" (read (levels - 1))
  let variant ← r.optional? "variant" Document.toText?
  let reason ← r.optional? "reason" (decodeName? Reason.ofName?)
  let metadata ← r.defaulted? "flag_metadata" .empty FlagMetadata.decode?
  let errorCode ← r.optional? "error_code" (decodeName? ErrorCode.ofName?)
  let errorMessage ← r.optional? "error_message" Document.toText?
  some ⟨value, variant, reason, metadata, errorCode, errorMessage⟩

/-- A result whose value is read by the given reader, one level down. -/
def EvaluationDetails.decode? {α : Type} (read : Nat → Document → Option α) (levels : Nat)
    (d : Document) : Option (EvaluationDetails α) := do
  let r ← Record.ofDocument?
    ["flag_key", "value", "variant", "flag_metadata", "reason", "error_code",
      "error_message"] d
  let flagKey ← r.required? "flag_key" Document.toText?
  let value ← r.required? "value" (read (levels - 1))
  let variant ← r.optional? "variant" Document.toText?
  let metadata ← r.defaulted? "flag_metadata" .empty FlagMetadata.decode?
  let reason ← r.optional? "reason" (decodeName? Reason.ofName?)
  let errorCode ← r.optional? "error_code" (decodeName? ErrorCode.ofName?)
  let errorMessage ← r.optional? "error_message" Document.toText?
  some ⟨flagKey, value, variant, metadata, reason, errorCode, errorMessage⟩

/-- The name of a provider from its record. -/
def decodeProviderName? (d : Document) : Option String := do
  let r ← Record.ofDocument? ["name"] d
  r.required? "name" Document.toText?

/-- The domain of a client from its record. -/
def decodeDomain? (d : Document) : Option (Option String) := do
  let r ← Record.ofDocument? ["domain"] d
  r.optional? "domain" Document.toText?

/-! ### Whole texts -/

/-- Applies a reader to a whole text, with the full nesting allowed. -/
def decodeText? {α : Type} (read : Nat → Document → Option α) (text : String) : Option α :=
  (Document.parse? text).bind (read Json.maxNesting)

end FeatureFlags
