/-!
# Points in time

A point in time counts seconds and nanoseconds from the start of 1970, UTC, and is
written in the RFC 3339 form of the proleptic Gregorian calendar.  A leap second has no
count of its own: it lengthens the last second of a minute, so that within this second
the nanoseconds may reach two thousand million.

## Main definitions

* `Timestamp` — seconds and nanoseconds since 1970.
* `Timestamp.ofUnix?` — the point in time of two counts, if there is one.
* `CivilDate.ofDays` — the calendar date of a day number.
* `Timestamp.render` — `YYYY-MM-DDTHH:MM:SS`, the fewest of 0, 3, 6 or 9 decimals that
  are exact, and `Z`.
-/

namespace FeatureFlags

/-- A point in time. -/
structure Timestamp where
  seconds : Int
  nanoseconds : Nat
  /-- A second has less than a thousand million nanoseconds, the last second of a minute
  less than twice as many. -/
  bound : nanoseconds < if seconds % 60 = 59 then 2000000000 else 1000000000
deriving DecidableEq

instance : Inhabited Timestamp := ⟨⟨0, 0, by decide⟩⟩

/-- A date of the proleptic Gregorian calendar; the year before 1 is 0. -/
structure CivilDate where
  year : Int
  month : Nat
  day : Nat
deriving DecidableEq, Inhabited

/-- The date of a day counted from the first of January 1970.

Years are counted from March, so that the leap day is the last of its year; an era is
the 400 years, 146097 days, after which the calendar repeats. -/
def CivilDate.ofDays (days : Int) : CivilDate :=
  let shifted := days + 719468
  let era := shifted / 146097
  let dayOfEra := (shifted % 146097).toNat
  let yearOfEra := (dayOfEra - dayOfEra / 1460 + dayOfEra / 36524 - dayOfEra / 146096) / 365
  let dayOfYear := dayOfEra - (365 * yearOfEra + yearOfEra / 4 - yearOfEra / 100)
  let marchMonth := (5 * dayOfYear + 2) / 153
  let month := if marchMonth < 10 then marchMonth + 3 else marchMonth - 9
  { year := yearOfEra + era * 400 + if month ≤ 2 then 1 else 0
    month
    day := dayOfYear - (153 * marchMonth + 2) / 5 + 1 }

namespace Timestamp

/-- The point in time of two counts, none when the nanoseconds are too many. -/
def ofUnix? (seconds : Int) (nanoseconds : Nat) : Option Timestamp :=
  if h : nanoseconds < if seconds % 60 = 59 then 2000000000 else 1000000000 then
    some ⟨seconds, nanoseconds, h⟩
  else none

/-- Whether the point lies in a leap second. -/
def isLeap (t : Timestamp) : Bool := 1000000000 ≤ t.nanoseconds

/-- A number with zeros in front up to a width. -/
def padded (width n : Nat) : String :=
  let digits := Nat.toDigits 10 n
  String.ofList (List.replicate (width - digits.length) '0' ++ digits)

/-- Four digits from 0 to 9999, and otherwise a sign and at least four digits. -/
def yearText (year : Int) : String :=
  if 0 ≤ year ∧ year ≤ 9999 then padded 4 year.natAbs
  else (if year < 0 then "-" else "+") ++ padded 4 year.natAbs

/-- The decimals of a second: none, or three, six or nine after a point. -/
def fractionText (nanoseconds : Nat) : String :=
  if nanoseconds = 0 then ""
  else if nanoseconds % 1000000 = 0 then "." ++ padded 3 (nanoseconds / 1000000)
  else if nanoseconds % 1000 = 0 then "." ++ padded 6 (nanoseconds / 1000)
  else "." ++ padded 9 nanoseconds

/-- The RFC 3339 text in UTC; a leap second is second 60 of its minute. -/
def render (t : Timestamp) : String :=
  let date := CivilDate.ofDays (t.seconds / 86400)
  let second := (t.seconds % 86400).toNat
  yearText date.year ++ "-" ++ padded 2 date.month ++ "-" ++ padded 2 date.day ++ "T" ++
    padded 2 (second / 3600) ++ ":" ++ padded 2 (second / 60 % 60) ++ ":" ++
    padded 2 (second % 60 + if t.isLeap then 1 else 0) ++
    fractionText (t.nanoseconds % 1000000000) ++ "Z"

end Timestamp

end FeatureFlags
