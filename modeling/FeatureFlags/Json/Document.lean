import FeatureFlags.Json

/-!
# What a JSON text says before it is given a meaning

A text that follows the grammar is first taken apart as it is written: the digits of a
number, the escapes of a string, the members of an object in their order and with
repeated keys.  What it means is decided afterwards, because a part that is skipped need
only follow the grammar, while a part that is read has limits: numbers in range, no lone
surrogates, and a bounded nesting of arrays and objects.

## Main definitions

* `NumberText`, `StringText`, `Document` — a text taken apart.
* `NumberText.value?` — the number, unless it is beyond every binary64 value.
* `StringText.value?` — the string, unless it holds a lone surrogate.
* `Document.readable` — whether everything in a document has a meaning.
* `Document.toJson?` — the document as JSON data, a repeated key taking its last value.
-/

namespace FeatureFlags

/-! ### Numbers -/

/-- A number as it is written. -/
structure NumberText where
  negative : Bool
  whole : List Nat
  fraction : Option (List Nat)
  exponent : Option (Bool × List Nat)
deriving DecidableEq, Inhabited

namespace NumberText

/-- Appends digits to a significand as long as it fits a 64-bit word; gives the
significand and the digits left over. -/
def absorb (significand : Nat) : List Nat → Nat × List Nat
  | [] => (significand, [])
  | d :: rest =>
    if significand * 10 + d < 0x10000000000000000 then absorb (significand * 10 + d) rest
    else (significand, d :: rest)

/-- Multiplies a value that is not negative by a power of ten, in one rounding step when
the power is at most `10 ^ 308` and otherwise after dividing by `10 ^ 308`.  Two such
divisions take every 64-bit significand to zero, so two levels are enough. -/
def scale : Nat → Binary64 → Int → Option Binary64
  | fuel, x, e =>
    if e.natAbs ≤ 308 then
      if 0 ≤ e then
        let y := x.mul (.powerOfTen e.natAbs)
        if y.isInfinite then none else some y
      else some (x.div (.powerOfTen e.natAbs))
    else if x.isZero then some x
    else if 0 ≤ e then none
    else
      match fuel with
      | 0 => some ⟨0⟩
      | fuel + 1 => scale fuel (x.div (.powerOfTen 308)) (e + 308)

/-- The value of digits read as a decimal number. -/
def ofDigits (digits : List Nat) : Nat := digits.foldl (fun n d => n * 10 + d) 0

/-- The number with the sign put on. -/
def signed (negative : Bool) (x : Binary64) : Binary64 := if negative then x.neg else x

/-- A number with fraction, exponent or more digits than a word holds: the digits that fit
a word times a power of ten.  An exponent beyond 32 bits is out of range unless it is
negative or the digits are all zero, and then the number is a zero. -/
def floatValue? (t : NumberText) : Option Binary64 :=
  let (significand, left) := absorb 0 t.whole
  let fraction := t.fraction.getD []
  let (significand, unused) := absorb significand fraction
  let shift : Int := left.length - (fraction.length - unused.length : Nat)
  match t.exponent with
  | none => (scale 3 (.ofNat significand) shift).map (signed t.negative)
  | some (negativeExponent, digits) =>
    let e := ofDigits digits
    if 0x80000000 ≤ e then
      if significand ≠ 0 ∧ ¬ negativeExponent then none else some (signed t.negative ⟨0⟩)
    else
      (scale 3 (.ofNat significand) (shift + if negativeExponent then -(e : Int) else e)).map
        (signed t.negative)

/-- The number that is meant.  Whole numbers stay exact within the signed range, or the
unsigned one without a minus; `-0` is the binary64 negative zero. -/
def value? (t : NumberText) : Option Json.Number :=
  let n := ofDigits t.whole
  let i : Int := if t.negative then -n else n
  if t.fraction.isNone ∧ t.exponent.isNone ∧ ¬ (t.negative ∧ n = 0) then
    match Json.Integer.ofInt? i with
    | some i => some (.integer i)
    | none => t.floatValue?.map .float
  else t.floatValue?.map .float

end NumberText

/-! ### Strings -/

/-- One element of a string as it is written: a character, or an escaped UTF-16 unit. -/
inductive StringPiece where
  | char (c : Char)
  | unit (n : Nat)
deriving DecidableEq, Inhabited

/-- The inside of a string as it is written. -/
abbrev StringText := List StringPiece

namespace StringText

/-- The characters meant: an escaped high surrogate must be followed at once by an escaped
low one, and together they are one character. -/
def chars? : StringText → Option (List Char)
  | [] => some []
  | .char c :: rest => (chars? rest).map (c :: ·)
  | [.unit n] => if n < 0xD800 ∨ 0xE000 ≤ n then some [Char.ofNat n] else none
  | .unit n :: .unit m :: rest =>
    if n < 0xD800 ∨ 0xE000 ≤ n then (chars? (.unit m :: rest)).map (Char.ofNat n :: ·)
    else if n < 0xDC00 ∧ 0xDC00 ≤ m ∧ m < 0xE000 then
      (chars? rest).map (Char.ofNat (0x10000 + (n - 0xD800) * 0x400 + (m - 0xDC00)) :: ·)
    else none
  | .unit n :: .char c :: rest =>
    if n < 0xD800 ∨ 0xE000 ≤ n then (chars? rest).map (Char.ofNat n :: c :: ·) else none

/-- The string that is meant. -/
def value? (t : StringText) : Option String := (chars? t).map String.ofList

end StringText

/-! ### Documents -/

/-- A JSON text taken apart. -/
inductive Document where
  | null
  | bool (b : Bool)
  | number (t : NumberText)
  | string (t : StringText)
  | array (items : List Document)
  | object (members : List (StringText × Document))
deriving Inhabited

namespace Document

mutual

/-- Whether every number and string has a value and arrays and objects nest at most
`levels` deep. -/
def readable (levels : Nat) : Document → Bool
  | .null => true
  | .bool _ => true
  | .number t => t.value?.isSome
  | .string t => t.value?.isSome
  | .array items => levels != 0 && readableItems (levels - 1) items
  | .object members => levels != 0 && readableMembers (levels - 1) members

def readableItems (levels : Nat) : List Document → Bool
  | [] => true
  | item :: rest => readable levels item && readableItems levels rest

def readableMembers (levels : Nat) : List (StringText × Document) → Bool
  | [] => true
  | (key, value) :: rest =>
    key.value?.isSome && readable levels value && readableMembers levels rest

end

mutual

/-- The document as JSON data, without a limit on nesting. -/
def toJson? : Document → Option Json
  | .null => some .null
  | .bool b => some (.bool b)
  | .number t => t.value?.map .number
  | .string t => t.value?.map .string
  | .array items => (toItems? items).map .array
  | .object members => (toMembers? members).map fun ms => .object (Entries.union [] ms)

def toItems? : List Document → Option (List Json)
  | [] => some []
  | item :: rest =>
    match toJson? item, toItems? rest with
    | some j, some js => some (j :: js)
    | _, _ => none

/-- The members in their order, repeated keys kept. -/
def toMembers? : List (StringText × Document) → Option (List (String × Json))
  | [] => some []
  | (key, value) :: rest =>
    match key.value?, toJson? value, toMembers? rest with
    | some k, some j, some ms => some ((k, j) :: ms)
    | _, _, _ => none

end

end Document

end FeatureFlags
