import FeatureFlags.EvaluationError

/-!
# How callbacks end

A callback of the application returns a value, fails with an error, or panics.  All three
are data here: nothing unwinds past its caller.
-/

namespace FeatureFlags

/-- How a callback ended. -/
inductive Outcome (α : Type) where
  | returned (a : α)
  | failed (e : EvaluationError)
  | panicked (p : Panic)
deriving Inhabited

namespace Outcome

variable {α β : Type}

def map (f : α → β) : Outcome α → Outcome β
  | returned a => returned (f a)
  | failed e => failed e
  | panicked p => panicked p

/-- The value or an error; a panic is an error of no special kind with a text in front of
its own. -/
def toExceptWith (text : String) : Outcome α → Except EvaluationError α
  | returned a => .ok a
  | failed e => .error e
  | panicked p => .error (.general (text ++ p.message))

/-- The value or an error; a panic is an error of no special kind with its text. -/
def toExcept (o : Outcome α) : Except EvaluationError α := o.toExceptWith ""

/-- A result that was computed without a panic. -/
def ofExcept : Except EvaluationError α → Outcome α
  | .ok a => returned a
  | .error e => failed e

@[simp] theorem toExcept_returned (a : α) : (returned a).toExcept = .ok a := rfl

@[simp] theorem toExcept_failed (e : EvaluationError) :
    (failed e : Outcome α).toExcept = .error e := rfl

end Outcome

end FeatureFlags
