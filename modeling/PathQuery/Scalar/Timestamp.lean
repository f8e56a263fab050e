import PathQuery.Text.Numeral

/-!
Instants with an offset from UTC, and their text `yyyy-mm-ddThh:mm:ss[.fffffff]±hh:mm`. The fields are
local to the exact offset; the offset itself is written to the nearest minute. A leap second is
carried by nanoseconds of one billion and more and is written as one second later.
-/
namespace PathQuery

/-- A day of the proleptic Gregorian calendar. -/
structure CivilDate where
  year : Int
  month : Nat
  day : Nat
deriving DecidableEq, Repr

/-- The day that comes `n` days after 1970-01-01. Years are counted from March, so that a leap day is
the last day of its year, in eras of 400 years or 146097 days. -/
def CivilDate.ofDayNumber (n : Int) : CivilDate :=
  let shifted := n + 719468
  let era := shifted.fdiv 146097
  let dayOfEra := (shifted.fmod 146097).toNat
  let yearOfEra := (dayOfEra - dayOfEra / 1460 + dayOfEra / 36524 - dayOfEra / 146096) / 365
  let dayOfYear := dayOfEra - (365 * yearOfEra + yearOfEra / 4 - yearOfEra / 100)
  let monthFromMarch := (5 * dayOfYear + 2) / 153
  let month := if monthFromMarch < 10 then monthFromMarch + 3 else monthFromMarch - 9
  { year := yearOfEra + era * 400 + (if month ≤ 2 then 1 else 0)
    month
    day := dayOfYear - (153 * monthFromMarch + 2) / 5 + 1 }

/-- Four digits at least, with a sign outside the years 0 to 9999. -/
def CivilDate.yearText (d : CivilDate) : String :=
  let sign := if d.year < 0 then "-" else if 9999 < d.year then "+" else ""
  sign ++ Numeral.padded 4 d.year.natAbs

def CivilDate.text (d : CivilDate) : String :=
  d.yearText ++ "-" ++ Numeral.padded 2 d.month ++ "-" ++ Numeral.padded 2 d.day

/-- The instant `seconds` after 1970-01-01T00:00:00 UTC, shown `offset` seconds east of UTC. -/
structure Timestamp where
  seconds : Int
  nanos : Nat
  offset : Int
deriving DecidableEq, Repr

namespace Timestamp

/-- Instants are compared whatever their offsets. -/
def compare (a b : Timestamp) : Ordering :=
  (Ord.compare a.seconds b.seconds).then (Ord.compare a.nanos b.nanos)

/-- Seven fraction digits without the zeros at their end, or nothing. -/
def fractionText (ticks : Nat) : String :=
  if ticks = 0 then ""
  else
    let ds := (Numeral.padded 7 ticks).toList
    "." ++ String.ofList (ds.reverse.dropWhile (· == '0')).reverse

def offsetText (offset : Int) : String :=
  let minutes := (offset.natAbs + 30) / 60
  (if offset < 0 then "-" else "+") ++ Numeral.padded 2 (minutes / 60) ++ ":" ++
    Numeral.padded 2 (minutes % 60)

def text (t : Timestamp) : String :=
  let shown := t.seconds + t.offset
  let secondOfDay := (shown.fmod 86400).toNat
  (CivilDate.ofDayNumber (shown.fdiv 86400)).text ++ "T" ++
    Numeral.padded 2 (secondOfDay / 3600) ++ ":" ++ Numeral.padded 2 (secondOfDay / 60 % 60) ++ ":" ++
    Numeral.padded 2 (secondOfDay % 60 + t.nanos / 1000000000) ++
    fractionText (t.nanos % 1000000000 / 100) ++ offsetText t.offset

end Timestamp
end PathQuery
