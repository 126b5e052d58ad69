import FeatureFlags.EvaluationError
import FeatureFlags.Json.Printer

/-!
# Flag values

A value that a flag resolves to, or the default a caller passes in.  An object flag
carries JSON data, of which only arrays and objects are valid object values.  Values are
never converted: an integer is no float.

## Main definitions

* `FlagValue` — a value of one of the five types.
* `FlagValue.check` — whether a value is valid for a flag type.
* `FlagValue.ofCarrier`, `FlagValue.toCarrier` — between values and the carriers of the
  flag types.
* `MetadataValue`, `FlagMetadata` — the scalars attached to a resolution.

## Main results

* `FlagValue.ofCarrier_payload` — a value is its payload, put back.
-/

namespace FeatureFlags

/-- A resolved or default value. -/
inductive FlagValue where
  | bool (b : Bool)
  | int (i : Int64)
  | float (x : Binary64)
  | string (s : String)
  | object (j : Json)
deriving Inhabited

namespace FlagValue

/-- The flag type of a value's kind. -/
def type : FlagValue → FlagType
  | bool _ => .boolean
  | int _ => .integer
  | float _ => .float
  | string _ => .string
  | object _ => .object

/-- The kind of a value as an error message names it. -/
def kindName : FlagValue → String
  | object j => if j.isContainer then FlagType.object.name else "non-object JSON"
  | v => v.type.name

/-- Whether a value is valid for a flag type: of its kind, and an array or object if that
is the object kind. -/
def isValidFor : FlagValue → FlagType → Bool
  | object j, .object => j.isContainer
  | v, t => v.type == t

/-- Refuses a value that is not valid for a flag type. -/
def check (v : FlagValue) (expected : FlagType) : Except EvaluationError Unit :=
  if v.isValidFor expected then .ok () else .error (.typeMismatch expected v.kindName)

/-- The text of a value: floats in full, strings bare, objects as JSON. -/
def render : FlagValue → String
  | bool true => "true"
  | bool false => "false"
  | int i => toString i.toInt
  | float x => NumberLayout.plain.render x
  | string s => s
  | object j => j.render

/-! ### Carriers -/

/-- The value of a flag type's carrier. -/
def ofCarrier : (t : FlagType) → t.Carrier → FlagValue
  | .boolean, b => .bool b
  | .string, s => .string s
  | .integer, i => .int i
  | .float, x => .float x
  | .object, j => .object j

/-- What a value holds, in the carrier of its own type. -/
def payload : (v : FlagValue) → v.type.Carrier
  | bool b => b
  | int i => i
  | float x => x
  | string s => s
  | object j => j

/-- What a value holds, if it is of the kind of a flag type; JSON data need not be an array
or an object. -/
def payloadAs? : (t : FlagType) → FlagValue → Option t.Carrier
  | .boolean, bool b => some b
  | .string, string s => some s
  | .integer, int i => some i
  | .float, float x => some x
  | .object, object j => some j
  | _, _ => none

/-- What a value holds, if it is valid for the flag type asked for. -/
def toCarrier : (t : FlagType) → FlagValue → Except EvaluationError t.Carrier
  | .boolean, bool b => .ok b
  | .string, string s => .ok s
  | .integer, int i => .ok i
  | .float, float x => .ok x
  | .object, object j =>
    if j.isContainer then .ok j else .error (.typeMismatch .object (object j).kindName)
  | t, v => .error (.typeMismatch t v.kindName)

theorem ofCarrier_payload (v : FlagValue) : ofCarrier v.type v.payload = v := by
  cases v <;> rfl

end FlagValue

/-- A scalar attached to a resolution. -/
inductive MetadataValue where
  | bool (b : Bool)
  | int (i : Int64)
  | float (x : Binary64)
  | string (s : String)
deriving DecidableEq, Inhabited

/-- Equality: kinds are never equal across, and floats are compared as numbers. -/
def MetadataValue.equal : MetadataValue → MetadataValue → Bool
  | .bool a, .bool b => a == b
  | .int a, .int b => a == b
  | .float a, .float b => a.equal b
  | .string a, .string b => a == b
  | _, _ => false

/-- The scalars attached to a resolution, by name. -/
abbrev FlagMetadata := SortedMap MetadataValue

/-- Equality of scalars under the same names. -/
def FlagMetadata.equal (a b : FlagMetadata) : Bool :=
  a.keys == b.keys &&
    (a.entries.zip b.entries).all fun (x, y) => x.2.equal y.2

end FeatureFlags
