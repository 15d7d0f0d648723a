/-
StripeTransfer/Signature/Instant.lean

Instants as calendar dates and times of day.  An instant counts the seconds since
the start of the year 1970; the calendar is the Gregorian one, carried on into
the past and the future.
-/

namespace StripeTransfer

/-- Seconds since the start of 1970. -/
abbrev Instant : Type := Int

namespace Instant

/-- Days since the start of 1970. -/
def days (t : Instant) : Int := t / 86400

/-- Seconds since midnight. -/
def secondOfDay (t : Instant) : Nat := (t % 86400).toNat

/-- Year, month and day of a number of days since the start of 1970.  Years are counted from March
on, so that the day that may be missing is the last one of the year; 400 years have a whole number
of days. -/
def civil (days : Int) : Int × Nat × Nat :=
  let shifted := days + 719468
  let era := shifted / 146097
  let dayOfEra := (shifted % 146097).toNat
  let yearOfEra := (dayOfEra - dayOfEra / 1460 + dayOfEra / 36524 - dayOfEra / 146096) / 365
  let dayOfYear := dayOfEra - (365 * yearOfEra + yearOfEra / 4 - yearOfEra / 100)
  let monthFromMarch := (5 * dayOfYear + 2) / 153
  let day := dayOfYear - (153 * monthFromMarch + 2) / 5 + 1
  let month := if monthFromMarch < 10 then monthFromMarch + 3 else monthFromMarch - 9
  let year := (yearOfEra : Int) + era * 400
  (if month ≤ 2 then year + 1 else year, month, day)

/-- A number with zeros in front until it has `width` digits. -/
def zeroFilled (width n : Nat) : String :=
  let ds := Nat.toDigits 10 n
  String.ofList (List.replicate (width - ds.length) '0' ++ ds)

/-- A year in four digits; with a sign if it is negative or has more. -/
def yearText (year : Int) : String :=
  let sign := if year < 0 then "-" else if 9999 < year then "+" else ""
  sign ++ zeroFilled 4 year.natAbs

/-- The date as year, month and day without separators. -/
def dateText (t : Instant) : String :=
  let (year, month, day) := civil t.days
  yearText year ++ zeroFilled 2 month ++ zeroFilled 2 day

/-- Date and time of day without separators. -/
def text (t : Instant) : String :=
  let s := t.secondOfDay
  t.dateText ++ "T" ++ zeroFilled 2 (s / 3600) ++ zeroFilled 2 (s / 60 % 60) ++ zeroFilled 2 (s % 60) ++
    "Z"

end Instant

end StripeTransfer
