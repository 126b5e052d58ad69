import FeatureFlags.Binary64.Shortest

/-!
# Writing binary64 numbers

The digits of a number are always the shortest that read back; what differs from one
kind of text to another is said by a `NumberLayout`.

## Main definitions

* `NumberLayout` — which digits stand for a tie, where positional notation ends and how
  an exponent is written.
* `NumberLayout.render` — the text of a value.
* `NumberLayout.json`, `NumberLayout.plain`, `NumberLayout.inspect` — the three layouts
  in use.
-/

namespace FeatureFlags

/-- The choices that fix the text of a number. -/
structure NumberLayout where
  /-- Which of two equally near and equally short decimals is written. -/
  tie : Binary64.Tie
  /-- Whether a number whose first digit has this decimal exponent is written
  positionally. -/
  positional : Int → Bool
  /-- What follows a whole number written positionally. -/
  wholeSuffix : String
  /-- The sign written before an exponent that is not negative. -/
  exponentPlus : String

namespace NumberLayout

/-- JSON text: positional from `10 ^ -5` to below `10 ^ 16`, whole numbers with `.0`, and
exponents always signed, ties to the even digit. -/
def json : NumberLayout where
  tie := .toEven
  positional e := -5 ≤ e && e ≤ 15
  wholeSuffix := ".0"
  exponentPlus := "+"

/-- Display text: always positional, whole numbers without a point, ties away from
zero. -/
def plain : NumberLayout where
  tie := .away
  positional _ := true
  wholeSuffix := ""
  exponentPlus := ""

/-- Inspection text: positional from `10 ^ -4` to below `10 ^ 16`, whole numbers with
`.0`, ties away from zero. -/
def inspect : NumberLayout where
  tie := .away
  positional e := -4 ≤ e && e ≤ 15
  wholeSuffix := ".0"
  exponentPlus := ""

/-- Digits with the point placed so that the first digit has decimal exponent `e`. -/
def positionalText (layout : NumberLayout) (digits : List Char) (e : Int) : String :=
  if e < 0 then "0." ++ String.ofList (List.replicate (-e - 1).toNat '0' ++ digits)
  else
    let whole := e.toNat + 1
    if digits.length ≤ whole then
      String.ofList (digits ++ List.replicate (whole - digits.length) '0') ++ layout.wholeSuffix
    else
      String.ofList (digits.take whole) ++ "." ++ String.ofList (digits.drop whole)

/-- Digits with the point after the first of them and an exponent. -/
def scientificText (layout : NumberLayout) (digits : List Char) (e : Int) : String :=
  let point := if digits.length ≤ 1 then "" else "."
  let sign := if e < 0 then "-" else layout.exponentPlus
  String.ofList (digits.take 1) ++ point ++ String.ofList (digits.drop 1) ++ "e" ++ sign ++
    toString e.natAbs

/-- The text of a finite size. -/
def sizeText (layout : NumberLayout) (d : Binary64.Decimal) : String :=
  if layout.positional d.leadingExponent then layout.positionalText d.digits d.leadingExponent
  else layout.scientificText d.digits d.leadingExponent

/-- The text of a value: a sign when the sign bit is set, also for a zero. -/
def render (layout : NumberLayout) (x : Binary64) : String :=
  if x.isNaN then "NaN"
  else
    let sign := if x.isNegative then "-" else ""
    sign ++ if x.isInfinite then "inf" else layout.sizeText (x.shortest layout.tie)

end NumberLayout

end FeatureFlags
