import FeatureFlags.Json
import FeatureFlags.Binary64.Layout

/-!
# JSON text

The compact text of a document: no blanks, the members of an object in their order,
strings with the short escapes and `\u` only for the other characters below a blank.

## Main definitions

* `Json.quote` — the text of a string.
* `Json.render` — the text of a document.
-/

namespace FeatureFlags

namespace Json

/-! ### Strings -/

/-- The lower-case hexadecimal digit of a number below 16. -/
def hexDigit (n : Nat) : Char := Nat.digitChar n

/-- How a character is written inside a string. -/
def quoteChar (c : Char) : List Char :=
  if c = '"' then ['\\', '"']
  else if c = '\\' then ['\\', '\\']
  else if c = '\x08' then ['\\', 'b']
  else if c = '\x0c' then ['\\', 'f']
  else if c = '\n' then ['\\', 'n']
  else if c = '\r' then ['\\', 'r']
  else if c = '\t' then ['\\', 't']
  else if c.toNat < 32 then
    ['\\', 'u', '0', '0', hexDigit (c.toNat / 16), hexDigit (c.toNat % 16)]
  else [c]

/-- The text of a string, as characters. -/
def quoteChars (s : List Char) : List Char := '"' :: s.flatMap quoteChar ++ ['"']

/-- The text of a string. -/
def quote (s : String) : String := String.ofList (quoteChars s.toList)

/-! ### Documents -/

/-- The text of a number. -/
def Number.render : Number → String
  | .integer i => toString i.val
  | .float x => NumberLayout.json.render x

mutual

/-- The compact text of a document. -/
def render : Json → String
  | .null => "null"
  | .bool true => "true"
  | .bool false => "false"
  | .number n => n.render
  | .string s => quote s
  | .array [] => "[]"
  | .array (item :: rest) => "[" ++ render item ++ renderItems rest ++ "]"
  | .object [] => "\x7b\x7d"
  | .object ((key, value) :: rest) =>
    "\x7b" ++ quote key ++ ":" ++ render value ++ renderMembers rest ++ "\x7d"

/-- The items of an array after the first. -/
def renderItems : List Json → String
  | [] => ""
  | item :: rest => "," ++ render item ++ renderItems rest

/-- The members of an object after the first. -/
def renderMembers : List (String × Json) → String
  | [] => ""
  | (key, value) :: rest => "," ++ quote key ++ ":" ++ render value ++ renderMembers rest

end

end Json

end FeatureFlags
