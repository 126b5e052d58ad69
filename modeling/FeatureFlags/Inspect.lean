import FeatureFlags.EvaluationContext
import FeatureFlags.Inspect.Glyphless
import FeatureFlags.Json.Printer
import FeatureFlags.Resolution

/-!
# Inspection text

How values look when they are shown to a developer: strings quoted, with characters that
leave no mark written as numbers, an optional value as `Some(…)` or `None`, kinds named,
records with their fields.
-/

namespace FeatureFlags

namespace Inspect

/-- Lower-case hexadecimal digits. -/
def hex (n : Nat) : List Char := Nat.toDigits 16 n

/-- How a character stands inside quotes. -/
def quoteChar (c : Char) : List Char :=
  if c = '"' then ['\\', '"']
  else if c = '\\' then ['\\', '\\']
  else if c = '\n' then ['\\', 'n']
  else if c = '\r' then ['\\', 'r']
  else if c = '\t' then ['\\', 't']
  else if c = '\x00' then ['\\', '0']
  else if Glyphless.contains c then
    ['\\', 'u', '\x7b'] ++ hex c.toNat ++ ['\x7d']
  else [c]

/-- A quoted string. -/
def text (s : String) : String := String.ofList ('"' :: s.toList.flatMap quoteChar ++ ['"'])

/-- A value that may be absent. -/
def optional {α : Type} (render : α → String) : Option α → String
  | none => "None"
  | some a => "Some(" ++ render a ++ ")"

/-- A list in square brackets. -/
def list {α : Type} (render : α → String) (items : List α) : String :=
  "[" ++ String.intercalate ", " (items.map render) ++ "]"

/-- Entries in braces. -/
def entries {α : Type} (render : α → String) (items : List (String × α)) : String :=
  "\x7b" ++ String.intercalate ", " (items.map fun (k, v) => text k ++ ": " ++ render v) ++ "\x7d"

/-- A record with the texts of its fields. -/
def record (name : String) (fields : List (String × String)) : String :=
  name ++ " \x7b " ++ String.intercalate ", " (fields.map fun (k, v) => k ++ ": " ++ v) ++
    " \x7d"

/-- A record of which only some fields are shown. -/
def openRecord (name : String) (fields : List (String × String)) : String :=
  name ++ " \x7b " ++ String.join (fields.map fun (k, v) => k ++ ": " ++ v ++ ", ") ++
    ".. \x7d"

def bool (b : Bool) : String := if b then "true" else "false"

/-- The name of a reason as inspection shows it. -/
def reason : Reason → String
  | .static => "Static"
  | .default => "Default"
  | .targetingMatch => "TargetingMatch"
  | .split => "Split"
  | .cached => "Cached"
  | .disabled => "Disabled"
  | .unknown => "Unknown"
  | .error => "Error"

mutual

/-- JSON data with the kinds of its parts named. -/
def json : Json → String
  | .null => "Null"
  | .bool b => "Bool(" ++ bool b ++ ")"
  | .number n => "Number(" ++ n.render ++ ")"
  | .string s => "String(" ++ text s ++ ")"
  | .array [] => "Array []"
  | .array (item :: rest) => "Array [" ++ json item ++ jsonItems rest ++ "]"
  | .object [] => "Object \x7b\x7d"
  | .object ((key, value) :: rest) =>
    "Object \x7b" ++ text key ++ ": " ++ json value ++ jsonMembers rest ++ "\x7d"

def jsonItems : List Json → String
  | [] => ""
  | item :: rest => ", " ++ json item ++ jsonItems rest

def jsonMembers : List (String × Json) → String
  | [] => ""
  | (key, value) :: rest => ", " ++ text key ++ ": " ++ json value ++ jsonMembers rest

end

def flagValue : FlagValue → String
  | .bool b => "Bool(" ++ bool b ++ ")"
  | .int i => "Int(" ++ toString i.toInt ++ ")"
  | .float x => "Float(" ++ NumberLayout.inspect.render x ++ ")"
  | .string s => "String(" ++ text s ++ ")"
  | .object j => "Object(" ++ json j ++ ")"

def metadataValue : MetadataValue → String
  | .bool b => flagValue (.bool b)
  | .int i => flagValue (.int i)
  | .float x => flagValue (.float x)
  | .string s => flagValue (.string s)

mutual

def contextValue : ContextValue → String
  | .bool b => "Bool(" ++ bool b ++ ")"
  | .int i => "Int(" ++ toString i.toInt ++ ")"
  | .float x => "Float(" ++ NumberLayout.inspect.render x ++ ")"
  | .string s => "String(" ++ text s ++ ")"
  | .timestamp t => "DateTime(" ++ t.render ++ ")"
  | .list [] => "List([])"
  | .list (item :: rest) => "List([" ++ contextValue item ++ contextItems rest ++ "])"
  | .struct [] => "Struct(\x7b\x7d)"
  | .struct ((name, value) :: rest) =>
    "Struct(\x7b" ++ text name ++ ": " ++ contextValue value ++ contextFields rest ++ "\x7d)"

def contextItems : List ContextValue → String
  | [] => ""
  | item :: rest => ", " ++ contextValue item ++ contextItems rest

def contextFields : List (String × ContextValue) → String
  | [] => ""
  | (name, value) :: rest => ", " ++ text name ++ ": " ++ contextValue value ++ contextFields rest

end

end Inspect

end FeatureFlags
