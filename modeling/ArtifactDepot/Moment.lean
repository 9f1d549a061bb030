/-!
# Moments

A moment of the civil calendar with its offset from universal time, and the
nanoseconds that the depot reports for it.  The whole seconds are read from a
binary fraction of 53 significant bits and cut off towards zero; the
microseconds are added as they stand in the calendar.
-/

namespace ArtifactDepot

/-- A date and a time of day, at an offset in minutes from universal time. -/
structure Moment where
  year : Nat
  month : Nat
  day : Nat
  hour : Nat
  minute : Nat
  second : Nat
  microsecond : Nat
  offset : Int := 0
  deriving DecidableEq, Repr

namespace Moment

/-- A leap year. -/
def isLeap (year : Nat) : Bool := year % 4 == 0 && (year % 100 != 0 || year % 400 == 0)

/-- The days of a month. -/
def daysInMonth (year month : Nat) : Nat :=
  if month = 2 then (if isLeap year then 29 else 28)
  else if month = 4 ∨ month = 6 ∨ month = 9 ∨ month = 11 then 30
  else 31

/-- The days of a year that precede a month. -/
def daysBeforeMonth (year month : Nat) : Nat :=
  (List.range (month - 1)).foldl (fun days m => days + daysInMonth year (m + 1)) 0

/-- The days that precede a year, counted from the year one. -/
def daysBeforeYear (year : Nat) : Nat :=
  let past := year - 1
  past * 365 + past / 4 - past / 100 + past / 400

/-- The days that precede the first of January 1970. -/
def epochDays : Nat := daysBeforeYear 1970

/-- The seconds from the epoch to the start of the moment's second. -/
def wholeSeconds (moment : Moment) : Int :=
  let days : Int :=
    (daysBeforeYear moment.year + daysBeforeMonth moment.year moment.month + (moment.day - 1) : Nat)
  let clock : Int := (moment.hour * 3600 + moment.minute * 60 + moment.second : Nat)
  (days - epochDays) * 86400 + clock - moment.offset * 60

/-- The exact microseconds from the epoch to the moment. -/
def microseconds (moment : Moment) : Int :=
  moment.wholeSeconds * 1000000 + moment.microsecond

/-! ## Binary rounding -/

/-- The quotient rounded to the nearest whole number, a half to the even one. -/
def roundQuotient (numerator denominator : Nat) : Nat :=
  let quotient := numerator / denominator
  let rest := numerator % denominator
  if 2 * rest < denominator then quotient
  else if denominator < 2 * rest then quotient + 1
  else quotient + quotient % 2

/-- The significant bits of a binary fraction. -/
def significantBits : Nat := 53

/--
The whole part of the binary fraction nearest to a quotient.  Below one no
quotient with a denominator under `2 ^ 53` rounds up to one.
-/
def binaryWhole (numerator denominator : Nat) : Nat :=
  let whole := numerator / denominator
  let places := whole.log2 + 1
  if whole = 0 then 0
  else if places ≤ significantBits then
    let scale := Nat.pow 2 (significantBits - places)
    roundQuotient (numerator * scale) denominator / scale
  else
    let scale := Nat.pow 2 (places - significantBits)
    roundQuotient numerator (denominator * scale) * scale

/-- The seconds that a count of microseconds is read as. -/
def binarySeconds (microseconds : Int) : Int :=
  let size : Int := binaryWhole microseconds.natAbs 1000000
  if microseconds < 0 then -size else size

/-- The nanoseconds reported for the moment. -/
def nanoseconds (moment : Moment) : Int :=
  binarySeconds moment.microseconds * 1000000000 + moment.microsecond * 1000

end Moment

end ArtifactDepot
