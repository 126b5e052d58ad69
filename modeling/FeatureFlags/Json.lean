import FeatureFlags.Binary64
import FeatureFlags.SortedMap

/-!
# JSON documents

The data model of JSON as object flags carry it: a number is an integer if it is one
within the range of 64-bit words, signed or unsigned, and a binary64 value otherwise.
The members of an object are kept sorted by key, each key once.

## Main definitions

* `Json.Number` — an exact integer or a binary64 value.
* `Json` — a document.
* `Json.Canonical` — the members of every object in it are sorted by key.
-/

namespace FeatureFlags

/-- An integer that fits a 64-bit word, signed or unsigned. -/
structure Json.Integer where
  val : Int
  lower : -0x8000000000000000 ≤ val
  upper : val < 0x10000000000000000
deriving DecidableEq

namespace Json.Integer

instance : Inhabited Json.Integer := ⟨⟨0, by decide, by decide⟩⟩

/-- The integer of a signed 64-bit word. -/
def ofInt64 (i : Int64) : Json.Integer :=
  ⟨i.toInt, by have := i.le_toInt; omega, by have := i.toInt_lt; omega⟩

/-- The integer as a JSON integer, if it is in range. -/
def ofInt? (i : Int) : Option Json.Integer :=
  if h : -0x8000000000000000 ≤ i ∧ i < 0x10000000000000000 then some ⟨i, h.1, h.2⟩ else none

/-- The integer as a signed 64-bit word, if it is in range. -/
def toInt64? (i : Json.Integer) : Option Int64 :=
  if i.val < 0x8000000000000000 then some (Int64.ofInt i.val) else none

/-- The binary64 value nearest to the integer. -/
def toBinary64 (i : Json.Integer) : Binary64 := Binary64.ofInt i.val

end Json.Integer

/-- A JSON number. -/
inductive Json.Number where
  | integer (i : Json.Integer)
  | float (x : Binary64)
deriving DecidableEq, Inhabited

/-- A JSON document. -/
inductive Json where
  | null
  | bool (b : Bool)
  | number (n : Json.Number)
  | string (s : String)
  | array (items : List Json)
  | object (members : List (String × Json))
deriving Inhabited

namespace Json

/-- The document of a signed 64-bit word. -/
def ofInt64 (i : Int64) : Json := .number (.integer (.ofInt64 i))

/-- The document of a binary64 value; one that is not finite has no JSON form and is
`null`. -/
def ofBinary64 (x : Binary64) : Json := if x.isFinite then .number (.float x) else .null

/-- The document of a text that may be absent. -/
def ofText? : Option String → Json
  | none => .null
  | some s => .string s

/-- Arrays and objects. -/
def isContainer : Json → Bool
  | .array _ => true
  | .object _ => true
  | _ => false

mutual

/-- The members of every object are in strictly ascending key order. -/
def Canonical : Json → Prop
  | .array items => CanonicalItems items
  | .object members => Entries.Sorted members ∧ CanonicalMembers members
  | _ => True

def CanonicalItems : List Json → Prop
  | [] => True
  | item :: rest => Canonical item ∧ CanonicalItems rest

def CanonicalMembers : List (String × Json) → Prop
  | [] => True
  | (_, value) :: rest => Canonical value ∧ CanonicalMembers rest

end

end Json

end FeatureFlags
