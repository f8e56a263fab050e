import PathQuery.Decimal.Basic

/-!
The fewest decimal digits that identify a binary number. On the grid of n digits only the two
neighbours of the exact value can be nearest, so for n = 1, 2, … these two are read back; the first
grid with a hit wins, and of two hits the nearer. If seventeen digits were not enough, the exact
value would be taken. What is chosen therefore always reads back.
-/
namespace PathQuery

/-- What to choose of two candidates that are equally near. -/
inductive Tie where
  | toEven
  | up
deriving DecidableEq, Repr

namespace Decimal

def exact (rank : Nat) : Decimal :=
  let m := Double.significand rank
  let q := Double.binaryExponent rank
  if 0 ≤ q then ⟨m * power 2 q.toNat, 0⟩ else ⟨m * power 5 (-q).toNat, q⟩

/-- The least k with x < 10^k, for a positive x. -/
def scale (x : Rat) : Int :=
  let k := ((x.num.natAbs.log2 : Int) - x.den.log2 - 1) * 30103 / 100000
  ([k, k + 1, k + 2].find? fun k => x < scaledByTen 1 k).getD (k + 3)

def readsBack (rank : Nat) (d : Decimal) : Bool :=
  d.toDouble false = .ofMagnitude false (Double.magnitude rank)

/-- The better of the two neighbours of x on the grid 10^unit, among those that read back. -/
def onGrid? (tie : Tie) (rank : Nat) (x : Rat) (unit : Int) : Option Decimal :=
  let low := (x / scaledByTen 1 unit).floor.toNat
  let below : Decimal := ⟨low, unit⟩
  let above : Decimal := ⟨low + 1, unit⟩
  match readsBack rank below, readsBack rank above with
  | false, false => none
  | true, false => some below
  | false, true => some above
  | true, true =>
    let middle := scaledByTen (2 * low + 1) unit
    if 2 * x < middle then some below
    else if middle < 2 * x then some above
    else match tie with
      | .up => some above
      | .toEven => some (if low % 2 = 0 then below else above)

def shortest (tie : Tie) (rank : Nat) : Decimal :=
  let x := Double.magnitude rank
  let k := scale x
  ((List.range 17).findSome? fun (n : Nat) => onGrid? tie rank x (k - (n + 1))).getD (exact rank)

end Decimal
end PathQuery
