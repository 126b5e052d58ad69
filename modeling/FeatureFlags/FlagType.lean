import FeatureFlags.Json

/-!
# Flag types

The five types a flag can be evaluated as, each with its name on the wire and the type
of the values it carries.
-/

namespace FeatureFlags

/-- The type a flag is evaluated as. -/
inductive FlagType where
  | boolean
  | string
  | integer
  | float
  | object
deriving DecidableEq, Inhabited

namespace FlagType

/-- The name on the wire. -/
def name : FlagType → String
  | boolean => "BOOLEAN"
  | string => "STRING"
  | integer => "INTEGER"
  | float => "FLOAT"
  | object => "OBJECT"

/-- The name in running text. -/
def word : FlagType → String
  | boolean => "boolean"
  | string => "string"
  | integer => "integer"
  | float => "float"
  | object => "object"

def all : List FlagType := [boolean, string, integer, float, object]

/-- The type with a name. -/
def ofName? (s : String) : Option FlagType := all.find? (·.name == s)

/-- The values of a flag type. -/
def Carrier : FlagType → Type
  | boolean => Bool
  | string => String
  | integer => Int64
  | float => Binary64
  | object => Json

end FlagType

end FeatureFlags
