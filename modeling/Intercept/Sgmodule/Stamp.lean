import Intercept.Text.Basic

/-!
# Intercept.Sgmodule.Stamp -- dates with times

The time at which a module was made is written as a date and a time of day. Years from 0 to 9999
have four digits, others a sign as well.
-/

namespace Intercept

/-- A date with a time of day, as a clock on the wall shows it. -/
structure Stamp where
  year : Int
  month : Nat
  day : Nat
  hour : Nat
  minute : Nat
  second : Nat
deriving Repr, DecidableEq, Inhabited

namespace Stamp

/-- A number with zeros in front, up to a width. -/
def padded (width n : Nat) : List Char :=
  let ds := Text.decimal n
  List.replicate (width - ds.length) '0' ++ ds

/-- The year. -/
def writeYear (year : Int) : List Char :=
  if 0 ≤ year ∧ year ≤ 9999 then padded 4 year.natAbs
  else (if year < 0 then '-' else '+') :: padded 4 year.natAbs

/-- The date and the time, with a blank between them. -/
def write (s : Stamp) : List Char :=
  writeYear s.year ++ '-' :: padded 2 s.month ++ '-' :: padded 2 s.day
    ++ ' ' :: padded 2 s.hour ++ ':' :: padded 2 s.minute ++ ':' :: padded 2 s.second

/-- How many seconds the clock by which modules are stamped is ahead. -/
def clockOffset : Nat := 8 * 3600

/-- The stamp of a number of seconds since the beginning of 1970, on a clock that is `offset`
seconds ahead. Years are counted from March, so that the leap day is the last one. -/
def ofSeconds (seconds : Nat) (offset : Nat) : Stamp :=
  let local_ := seconds + offset
  let days := local_ / 86400 + 719468
  let rest := local_ % 86400
  let era := days / 146097
  let dayOfEra := days % 146097
  let yearOfEra := (dayOfEra - dayOfEra / 1460 + dayOfEra / 36524 - dayOfEra / 146096) / 365
  let dayOfYear := dayOfEra - (365 * yearOfEra + yearOfEra / 4 - yearOfEra / 100)
  let shifted := (5 * dayOfYear + 2) / 153
  let month := if shifted < 10 then shifted + 3 else shifted - 9
  let year := yearOfEra + era * 400 + (if month ≤ 2 then 1 else 0)
  { year := year
    month
    day := dayOfYear - (153 * shifted + 2) / 5 + 1
    hour := rest / 3600
    minute := rest % 3600 / 60
    second := rest % 60 }

end Stamp

end Intercept
