import PathQuery.Decimal.Double

/-!
Decimal numbers of any length and the binary number nearest to one. `toDouble` never computes a
power of ten that cannot matter: what is above 10^400 is infinite and what is below 10^-1199 is zero.
-/
namespace PathQuery

/-- The number digits · 10^exponent. -/
structure Decimal where
  digits : Nat
  exponent : Int
deriving DecidableEq, Repr

namespace Decimal

def value (d : Decimal) : Rat := scaledByTen d.digits d.exponent

def toDouble (negative : Bool) (d : Decimal) : Double :=
  if d.digits = 0 then .zero negative
  else if 400 < d.exponent then .infinity negative
  else if d.exponent + d.digits.log2 < -1200 then .zero negative
  else .ofMagnitude negative d.value

end Decimal
end PathQuery
