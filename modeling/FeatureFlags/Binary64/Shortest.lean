import FeatureFlags.Binary64

/-!
# The shortest decimal that reads back

For each number of digits from 1 to 17 the two points of that decimal grid beside the
value are tried; the first grid with a point that rounds to the value gives the
digits, the nearer of its two points if both do.  A value halfway between two points
that both do is decided by a `Tie`.

## Main definitions

* `Binary64.Decimal` — a whole number times a power of ten.
* `Binary64.Tie` — which of two equally near points is taken.
* `Binary64.readsBack` — whether a decimal lies among the reals that round to a value.
* `Binary64.shortest` — the shortest decimal that does.
-/

namespace FeatureFlags

namespace Binary64

/-- The number `coefficient * 10 ^ exponent`. -/
structure Decimal where
  coefficient : Nat
  exponent : Int
deriving DecidableEq, Inhabited

namespace Decimal

/-- The decimal digits of the coefficient. -/
def digits (d : Decimal) : List Char := Nat.toDigits 10 d.coefficient

/-- The decimal exponent of the first digit. -/
def leadingExponent (d : Decimal) : Int := d.exponent + d.digits.length - 1

/-- Compares `d * s` with `n`, both in units that leave no fraction: the decimal is
`coefficient * 10 ^ exponent`, so one side takes the power of ten. -/
def compareScaled (d : Decimal) (s n : Nat) : Ordering :=
  if 0 ≤ d.exponent then compare (d.coefficient * Nat.pow 10 d.exponent.toNat * s) n
  else compare (d.coefficient * s) (n * Nat.pow 10 (-d.exponent).toNat)

/-- The same number with no zero at the end of the coefficient. -/
def trimmed : Nat → Decimal → Decimal
  | 0, d => d
  | fuel + 1, d =>
    if d.coefficient % 10 = 0 ∧ d.coefficient ≠ 0 then
      trimmed fuel ⟨d.coefficient / 10, d.exponent + 1⟩
    else d

end Decimal

/-- Which of the two neighbours on a grid stands for a value halfway between them. -/
inductive Tie where
  /-- The one with the even last digit. -/
  | toEven
  /-- The one farther from zero. -/
  | away
deriving DecidableEq, Inhabited

/-- The choice between two neighbours, the lower one given by its coefficient. -/
def Tie.takesUpper : Tie → Nat → Bool
  | toEven, lower => lower % 2 == 1
  | away, _ => true

/-- The least real that rounds to a finite value, in units of `2 ^ -1076`: halfway to the
value below, which is nearer just above a power of two. -/
def lowerBound (x : Binary64) : Nat :=
  4 * x.magnitude -
    if x.fraction = 0 ∧ 1 < x.exponentField then Nat.pow 2 x.unitExponent
    else 2 * Nat.pow 2 x.unitExponent

/-- The greatest real that rounds to a finite value, in units of `2 ^ -1076`. -/
def upperBound (x : Binary64) : Nat := 4 * x.magnitude + 2 * Nat.pow 2 x.unitExponent

/-- Whether a decimal rounds to the value: it lies between the bounds, which themselves
round to the value exactly when its significand is even. -/
def readsBack (x : Binary64) (d : Decimal) : Bool :=
  let scale := Nat.pow 2 1076
  match d.compareScaled scale x.lowerBound, d.compareScaled scale x.upperBound with
  | .lt, _ => false
  | _, .gt => false
  | .gt, .lt => true
  | _, _ => x.significand % 2 == 0

/-- The decimal exponent of the first digit of `n / d`, for a positive ratio. -/
def leadingExponentOf (n d : Nat) : Int :=
  if d ≤ n then (Nat.toDigits 10 (n / d)).length - 1
  else -((Nat.toDigits 10 ((d + n - 1) / n - 1)).length : Int)

/-- The point of the grid `10 ^ k` just below the value. -/
def pointBelow (x : Binary64) (k : Int) : Decimal :=
  if 0 ≤ k then ⟨x.magnitude / (Nat.pow 2 1074 * Nat.pow 10 k.toNat), k⟩
  else ⟨x.magnitude * Nat.pow 10 (-k).toNat / Nat.pow 2 1074, k⟩

/-- The decimal on the grid `10 ^ k` that reads back and lies nearest to the value. -/
def onGrid? (tie : Tie) (x : Binary64) (k : Int) : Option Decimal :=
  let below := x.pointBelow k
  let above : Decimal := ⟨below.coefficient + 1, k⟩
  match x.readsBack below, x.readsBack above with
  | false, false => none
  | true, false => some below
  | false, true => some above
  | true, true =>
    let middle : Decimal := ⟨below.coefficient + above.coefficient, k⟩
    match middle.compareScaled (Nat.pow 2 1074) (2 * x.magnitude) with
    | .lt => some above
    | .gt => some below
    | .eq => some (if tie.takesUpper below.coefficient then above else below)

/-- The shortest decimal that rounds to a finite value, and the nearest of those to it;
zero for a zero. -/
def shortest (tie : Tie) (x : Binary64) : Decimal :=
  if x.magnitude = 0 then ⟨0, 0⟩
  else
    let leading := leadingExponentOf x.magnitude (Nat.pow 2 1074)
    let found := (List.range 17).findSome? fun (p : Nat) => x.onGrid? tie (leading - p)
    (found.getD ⟨0, 0⟩).trimmed 17

end Binary64

end FeatureFlags
