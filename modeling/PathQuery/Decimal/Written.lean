import PathQuery.Decimal.Basic
import PathQuery.Text.Numeral

/-!
A number as it stands in a text: sign, whole digits, and a fraction and an exponent where they are
written. Its value as an integer of 64 bits or as the nearest double.
-/
namespace PathQuery

structure WrittenNumber where
  negative : Bool
  whole : List Char
  fraction : Option (List Char)
  exponent : Option Int
deriving Repr

namespace WrittenNumber

def isWhole (w : WrittenNumber) : Bool := w.fraction.isNone && w.exponent.isNone

def signedWhole (w : WrittenNumber) : Int :=
  let n : Int := Numeral.ofDigits w.whole
  if w.negative then -n else n

def decimal (w : WrittenNumber) : Decimal :=
  let fraction := w.fraction.getD []
  ⟨Numeral.ofDigits (w.whole ++ fraction), w.exponent.getD 0 - fraction.length⟩

def nearestDouble (w : WrittenNumber) : Double := w.decimal.toDouble w.negative

end WrittenNumber

/-- The integer of 64 bits that an integer is, if it is in their range. -/
def int64? (i : Int) : Option Int64 :=
  if -power 2 63 ≤ i ∧ i < power 2 63 then some (.ofInt i) else none

/-- The integer of 32 bits that an integer is, if it is in their range. -/
def int32? (i : Int) : Option Int32 :=
  if -power 2 31 ≤ i ∧ i < power 2 31 then some (.ofInt i) else none

end PathQuery
