/-!
# Binary64 numbers

An IEEE 754 binary64 value held as its 64 bits, so that the sign of zero and the
payload of a NaN are kept and every operation is exact integer arithmetic.  A
finite value is `magnitude / 2 ^ 1074` with its sign: the unit `2 ^ -1074` is the
least positive value, and every finite magnitude is a whole number of units.

## Main definitions

* `Binary64.magnitude` — the size of a finite value, in units of `2 ^ -1074`.
* `Binary64.round` — the value nearest to a ratio, ties to even.
* `Binary64.ofInt`, `Binary64.mul`, `Binary64.div` — correctly rounded.
* `Binary64.equal` — the numeric comparison: a NaN differs from itself and the two
  zeros are equal.
-/

namespace FeatureFlags

/-- A binary64 value, by its bits. -/
structure Binary64 where
  bits : UInt64
deriving DecidableEq, Inhabited

namespace Binary64

/-! ### Fields -/

/-- The bits as a natural number. -/
def word (x : Binary64) : Nat := x.bits.toNat

/-- The sign bit. -/
def isNegative (x : Binary64) : Bool := Nat.pow 2 63 ≤ x.word

/-- The biased exponent, bits 52 to 62. -/
def exponentField (x : Binary64) : Nat := x.word / Nat.pow 2 52 % Nat.pow 2 11

/-- The trailing significand, bits 0 to 51. -/
def fraction (x : Binary64) : Nat := x.word % Nat.pow 2 52

def isFinite (x : Binary64) : Bool := x.exponentField != 2047

def isInfinite (x : Binary64) : Bool := x.exponentField == 2047 && x.fraction == 0

def isNaN (x : Binary64) : Bool := x.exponentField == 2047 && x.fraction != 0

/-- The significand of a finite value as a whole number, with the hidden bit of a
normal value. -/
def significand (x : Binary64) : Nat :=
  if x.exponentField = 0 then x.fraction else Nat.pow 2 52 + x.fraction

/-- The binary exponent of the significand, counted in units of `2 ^ -1074`. -/
def unitExponent (x : Binary64) : Nat := x.exponentField - 1

/-- The size of a finite value, in units of `2 ^ -1074`. -/
def magnitude (x : Binary64) : Nat := x.significand * Nat.pow 2 x.unitExponent

def isZero (x : Binary64) : Bool := x.word % Nat.pow 2 63 == 0

/-! ### Building values -/

/-- The value with the given sign and the 63 bits of `size` below it. -/
def ofFields (negative : Bool) (size : Nat) : Binary64 :=
  ⟨UInt64.ofNat (size + if negative then Nat.pow 2 63 else 0)⟩

/-- The bits below the sign of an infinity. -/
def infinitySize : Nat := 2047 * Nat.pow 2 52

/-- The value with the other sign. -/
def neg (x : Binary64) : Binary64 := ofFields (!x.isNegative) (x.word % Nat.pow 2 63)

/-- The whole number nearest to `a / d`, a half going to the even neighbour. -/
def nearestEven (a d : Nat) : Nat :=
  let quotient := a / d
  let twice := 2 * (a % d)
  if twice < d then quotient
  else if d < twice then quotient + 1
  else quotient + quotient % 2

/-- The value nearest to `± n / d`, ties to even, and an infinity from half a unit above
the largest finite value on.

With `p` the exponent that leaves at most 53 bits, a significand `m` and `p` are encoded
as `m + p * 2 ^ 52`: the hidden bit of `m` adds the one that the exponent field is above
`p`, and a significand rounded up to `2 ^ 53` carries into the field. -/
def round (negative : Bool) (n d : Nat) : Binary64 :=
  let units := n * Nat.pow 2 1074
  let p := Nat.log2 (units / d) - 52
  ofFields negative (min infinitySize (nearestEven units (d * Nat.pow 2 p) + p * Nat.pow 2 52))

/-- The value nearest to a whole number. -/
def ofNat (n : Nat) : Binary64 := round false n 1

/-- The value nearest to an integer; zero is positive. -/
def ofInt (i : Int) : Binary64 := round (decide (i < 0)) i.natAbs 1

/-- The product of two finite values. -/
def mul (x y : Binary64) : Binary64 :=
  round (x.isNegative != y.isNegative) (x.magnitude * y.magnitude) (Nat.pow 2 2148)

/-- The quotient of two finite values, the second not zero. -/
def div (x y : Binary64) : Binary64 :=
  round (x.isNegative != y.isNegative) x.magnitude y.magnitude

/-- The value nearest to `10 ^ k`. -/
def powerOfTen (k : Nat) : Binary64 := ofNat (Nat.pow 10 k)

/-! ### Comparison -/

/-- Numeric equality: false when a NaN takes part, true of two zeros of either sign. -/
def equal (x y : Binary64) : Bool :=
  !x.isNaN && !y.isNaN && (x == y || x.isZero && y.isZero)

end Binary64

end FeatureFlags
