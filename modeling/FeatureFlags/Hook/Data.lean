import FeatureFlags.EvaluationContext

/-!
# Scratch space of a hook

What one hook keeps from stage to stage of one evaluation, by name.  Every entry has a
kind, and is found only by who asks for that kind.
-/

namespace FeatureFlags

/-- An entry of a hook's scratch space. -/
inductive HookDatum where
  | bool (b : Bool)
  | int (i : Int64)
  | float (x : Binary64)
  | string (s : String)
  | value (v : ContextValue)
deriving Inhabited

namespace HookDatum

/-- An attribute value as an entry: a plain scalar is kept as such. -/
def ofValue : ContextValue → HookDatum
  | .bool b => bool b
  | .int i => int i
  | .float x => float x
  | .string s => string s
  | v => value v

def bool? : HookDatum → Option Bool
  | bool b => some b
  | _ => none

def int? : HookDatum → Option Int64
  | int i => some i
  | _ => none

def float? : HookDatum → Option Binary64
  | float x => some x
  | _ => none

def string? : HookDatum → Option String
  | string s => some s
  | _ => none

def value? : HookDatum → Option ContextValue
  | value v => some v
  | _ => none

end HookDatum

/-- The scratch space of one hook in one evaluation. -/
abbrev HookData := SortedMap HookDatum

end FeatureFlags
