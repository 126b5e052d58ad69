import FeatureFlags.Json.Document

/-!
# Reading JSON text

The strict grammar of JSON: blanks between tokens, no leading zeros, no comma before a
closing bracket, no control characters inside strings, nothing after the document.

Every function takes the characters in front of it and gives what it read with the
characters left.  Nested documents are read with a bound on the number of calls; a call
is paid for by a character, so the length of the text is enough.

## Main definitions

* `Json.scanNumber?`, `Json.scanString?` — the tokens.
* `Document.parse?` — a whole text.
* `Json.parse?` — a whole text as JSON data.
-/

namespace FeatureFlags

namespace Json

/-! ### Tokens -/

/-- Blanks between tokens. -/
def isBlank (c : Char) : Bool := c == ' ' || c == '\n' || c == '\t' || c == '\r'

/-- The characters from the first on that is no blank. -/
def skipBlanks (cs : List Char) : List Char := cs.dropWhile isBlank

/-- The value of a decimal digit. -/
def digitValue (c : Char) : Nat := c.toNat - '0'.toNat

/-- The decimal digits at the front. -/
def scanDigits (cs : List Char) : List Nat × List Char :=
  ((cs.takeWhile Char.isDigit).map digitValue, cs.dropWhile Char.isDigit)

/-- The digits after a point, at least one. -/
def scanFraction? : List Char → Option (Option (List Nat) × List Char)
  | '.' :: cs =>
    match scanDigits cs with
    | ([], _) => none
    | (digits, rest) => some (some digits, rest)
  | cs => some (none, cs)

/-- The sign and the digits of an exponent, at least one. -/
def scanExponent? (cs : List Char) : Option (Option (Bool × List Nat) × List Char) :=
  match cs with
  | c :: rest =>
    if c = 'e' ∨ c = 'E' then
      let (negative, rest) := match rest with
        | '-' :: rest => (true, rest)
        | '+' :: rest => (false, rest)
        | rest => (false, rest)
      match scanDigits rest with
      | ([], _) => none
      | (digits, rest) => some (some (negative, digits), rest)
    else some (none, cs)
  | [] => some (none, [])

/-- A number: a zero is not followed by a digit. -/
def scanNumber? (cs : List Char) : Option (NumberText × List Char) := do
  let (negative, cs) := match cs with
    | '-' :: rest => (true, rest)
    | cs => (false, cs)
  let (whole, cs) ← match scanDigits cs with
    | ([], _) => none
    | (0 :: _ :: _, _) => none
    | (digits, rest) => some (digits, rest)
  let (fraction, cs) ← scanFraction? cs
  let (exponent, cs) ← scanExponent? cs
  some (⟨negative, whole, fraction, exponent⟩, cs)

/-- The value of a hexadecimal digit of either case. -/
def hexValue? (c : Char) : Option Nat :=
  if '0' ≤ c ∧ c ≤ '9' then some (c.toNat - '0'.toNat)
  else if 'a' ≤ c ∧ c ≤ 'f' then some (c.toNat - 'a'.toNat + 10)
  else if 'A' ≤ c ∧ c ≤ 'F' then some (c.toNat - 'A'.toNat + 10)
  else none

/-- The UTF-16 unit of four hexadecimal digits. -/
def hexUnit? (a b c d : Char) : Option Nat := do
  let a ← hexValue? a
  let b ← hexValue? b
  let c ← hexValue? c
  let d ← hexValue? d
  some (((a * 16 + b) * 16 + c) * 16 + d)

/-- The character of a short escape. -/
def shortEscape? : Char → Option Char
  | '"' => some '"'
  | '\\' => some '\\'
  | '/' => some '/'
  | 'b' => some '\x08'
  | 'f' => some '\x0c'
  | 'n' => some '\n'
  | 'r' => some '\r'
  | 't' => some '\t'
  | _ => none

/-- The inside of a string and the closing quote. -/
def scanString? : List Char → Option (StringText × List Char)
  | [] => none
  | '"' :: rest => some ([], rest)
  | '\\' :: 'u' :: a :: b :: c :: d :: rest =>
    match hexUnit? a b c d, scanString? rest with
    | some n, some (t, rest) => some (.unit n :: t, rest)
    | _, _ => none
  | '\\' :: e :: rest =>
    match shortEscape? e, scanString? rest with
    | some c, some (t, rest) => some (.char c :: t, rest)
    | _, _ => none
  | c :: rest =>
    if c.toNat < 32 ∨ c = '\\' then none
    else
      match scanString? rest with
      | some (t, rest) => some (.char c :: t, rest)
      | none => none

end Json

/-! ### Documents -/

namespace Document

open Json

mutual

/-- A document, after blanks. -/
def scan? : Nat → List Char → Option (Document × List Char)
  | 0, _ => none
  | fuel + 1, cs =>
    match skipBlanks cs with
    | 'n' :: 'u' :: 'l' :: 'l' :: rest => some (.null, rest)
    | 't' :: 'r' :: 'u' :: 'e' :: rest => some (.bool true, rest)
    | 'f' :: 'a' :: 'l' :: 's' :: 'e' :: rest => some (.bool false, rest)
    | '"' :: rest => (scanString? rest).map fun (t, rest) => (.string t, rest)
    | '[' :: rest =>
      match skipBlanks rest with
      | ']' :: rest => some (.array [], rest)
      | rest => (scanItems? fuel rest).map fun (items, rest) => (.array items, rest)
    | '\x7b' :: rest =>
      match skipBlanks rest with
      | '\x7d' :: rest => some (.object [], rest)
      | rest => (scanMembers? fuel rest).map fun (members, rest) => (.object members, rest)
    | cs => (scanNumber? cs).map fun (t, rest) => (.number t, rest)

/-- The items of an array from the next one on, and the closing bracket. -/
def scanItems? : Nat → List Char → Option (List Document × List Char)
  | 0, _ => none
  | fuel + 1, cs => do
    let (item, cs) ← scan? fuel cs
    match skipBlanks cs with
    | ',' :: rest =>
      let (items, rest) ← scanItems? fuel rest
      some (item :: items, rest)
    | ']' :: rest => some ([item], rest)
    | _ => none

/-- The members of an object from the next one on, and the closing brace. -/
def scanMembers? : Nat → List Char → Option (List (StringText × Document) × List Char)
  | 0, _ => none
  | fuel + 1, cs => do
    let (key, cs) ← match skipBlanks cs with
      | '"' :: rest => scanString? rest
      | _ => none
    let (value, cs) ← match skipBlanks cs with
      | ':' :: rest => scan? fuel rest
      | _ => none
    match skipBlanks cs with
    | ',' :: rest =>
      let (members, rest) ← scanMembers? fuel rest
      some ((key, value) :: members, rest)
    | '\x7d' :: rest => some ([(key, value)], rest)
    | _ => none

end

/-- A whole text. -/
def parse? (text : String) : Option Document :=
  match scan? (text.length + 1) text.toList with
  | some (d, rest) => if skipBlanks rest = [] then some d else none
  | none => none

end Document

/-- The number of arrays and objects that may stand inside each other. -/
def Json.maxNesting : Nat := 127

/-- A whole text as JSON data. -/
def Json.parse? (text : String) : Option Json := do
  let d ← Document.parse? text
  if d.readable Json.maxNesting then d.toJson? else none

end FeatureFlags
