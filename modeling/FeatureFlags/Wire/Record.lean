import FeatureFlags.Json.Document

/-!
# Records in JSON text

A record is written as an object of its fields or as an array of them in declared order.
In an object a field may stand once; members of other names are skipped, whatever they
hold.  In an array nothing may stand after the last field.

## Main definitions

* `Record` — the fields that are there.
* `Record.ofDocument?` — reads either form.
* `Record.required?`, `Record.optional?`, `Record.defaulted?` — one field.
-/

namespace FeatureFlags

/-- The fields of a record that are there, by name. -/
structure Record where
  /-- Written as an object. -/
  named : Bool
  fields : List (String × Document)
deriving Inhabited

namespace Record

/-- The members of the given names, each at most once; the others are skipped. -/
def select? (names : List String) :
    List (StringText × Document) → Option (List (String × Document))
  | [] => some []
  | (key, value) :: rest =>
    match key.value?, select? names rest with
    | some name, some fields =>
      if names.contains name then
        if fields.any (·.1 == name) then none else some ((name, value) :: fields)
      else some fields
    | _, _ => none

/-- Reads a record with the given field names, in either form. -/
def ofDocument? (names : List String) : Document → Option Record
  | .object members => (select? names members).map fun fields => ⟨true, fields⟩
  | .array items =>
    if items.length ≤ names.length then some ⟨false, names.zip items⟩ else none
  | _ => none

variable {α : Type}

/-- The document of a field. -/
def find? (r : Record) (name : String) : Option Document :=
  (r.fields.find? (·.1 == name)).map (·.2)

/-- A field that must be there. -/
def required? (r : Record) (name : String) (read : Document → Option α) : Option α :=
  (r.find? name).bind read

/-- A field that may be `null`, or missing from an object. -/
def optional? (r : Record) (name : String) (read : Document → Option α) :
    Option (Option α) :=
  match r.find? name with
  | none => if r.named then some none else none
  | some .null => some none
  | some d => (read d).map some

/-- A field that may be missing and then has a default; `null` is no value for it. -/
def defaulted? (r : Record) (name : String) (fallback : α) (read : Document → Option α) :
    Option α :=
  match r.find? name with
  | none => some fallback
  | some d => read d

end Record

end FeatureFlags
