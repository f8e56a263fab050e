import PathQuery.Text.Numeral

/-!
Spans of time in seconds and nanoseconds, and their text `[-][d.]hh:mm:ss[.fffffff]`. The text keeps
seven fraction digits, so it rounds toward zero to a multiple of 100 ns.
-/
namespace PathQuery

/-- The span of `seconds` plus `nanos` billionths of a second. -/
structure TimeSpan where
  seconds : Int
  nanos : Nat
  nanos_lt : nanos < 1000000000
deriving DecidableEq, Repr

namespace TimeSpan

def total (t : TimeSpan) : Int := t.seconds * 1000000000 + t.nanos

def compare (a b : TimeSpan) : Ordering := Ord.compare a.total b.total

def isNegative (t : TimeSpan) : Bool := t.seconds < 0

/-- Whole seconds of the length without its sign. -/
def wholeSeconds (t : TimeSpan) : Nat := t.total.natAbs / 1000000000

/-- Units of 100 ns beyond the whole seconds. -/
def ticks (t : TimeSpan) : Nat := t.total.natAbs % 1000000000 / 100

def text (t : TimeSpan) : String :=
  let sign := if t.isNegative then "-" else ""
  let days := t.wholeSeconds / 86400
  let day := if 0 < days then Numeral.text days ++ "." else ""
  let hours := Numeral.padded 2 (t.wholeSeconds / 3600 % 24)
  let minutes := Numeral.padded 2 (t.wholeSeconds / 60 % 60)
  let seconds := Numeral.padded 2 (t.wholeSeconds % 60)
  let fraction := if 0 < t.ticks then "." ++ Numeral.padded 7 t.ticks else ""
  sign ++ day ++ hours ++ ":" ++ minutes ++ ":" ++ seconds ++ fraction

end TimeSpan
end PathQuery
