import PathQuery.Decimal.Written
import PathQuery.Json.Basic

/-!
The value of a number in JSON text. A whole number that fits 64 bits, with its sign or without one, is
kept as it is. Every other number is a double, computed in two roundings: the leading digits, as many as fit 64
unsigned bits, are rounded to a double, and the power of ten is multiplied or divided into it. For up
to fifteen digits and powers up to 10^22 this is the nearest double; beyond, it may be its neighbour.
-/
namespace PathQuery.Json

/-- Digits kept so far and the power of ten that dropped digits leave. -/
structure Kept where
  significand : Nat
  exponent : Int

def Kept.fits (k : Kept) (digit : Nat) : Bool := k.significand * 10 + digit < power 2 64

/-- Whole digits are kept up to the first that does not fit; each later one counts as a factor ten. -/
def keepWhole (k : Kept) : List Char → Kept
  | [] => k
  | c :: cs =>
    if k.fits (Numeral.digitValue c) then
      keepWhole ⟨k.significand * 10 + Numeral.digitValue c, k.exponent⟩ cs
    else ⟨k.significand, k.exponent + (cs.length + 1)⟩

/-- Fraction digits are kept up to the first that does not fit; the rest is dropped. -/
def keepFraction (k : Kept) : List Char → Kept
  | [] => k
  | c :: cs =>
    if k.fits (Numeral.digitValue c) then
      keepFraction ⟨k.significand * 10 + Numeral.digitValue c, k.exponent - 1⟩ cs
    else k

/-- The rank of the magnitude nearest to a non-negative rational. -/
def rankOf (x : Rat) : Nat := Double.nearestRank x.num.natAbs x.den

/-- The magnitude nearest to 10^n. -/
def powerOfTen (n : Nat) : Rat := Double.magnitude (rankOf (power 10 n))

/-- Divides by 10^n, in steps of at most 10^308, with a rounding after each. -/
def divideByTen (rank n : Nat) : Nat :=
  if n ≤ 308 then rankOf (Double.magnitude rank / powerOfTen n)
  else if rank = 0 then 0
  else divideByTen (rankOf (Double.magnitude rank / powerOfTen 308)) (n - 308)
termination_by n
decreasing_by omega

/-- The rank of significand · 10^exponent, or nothing if that is too large for a double. -/
def scaleRank? (significand : Nat) (exponent : Int) : Option Nat :=
  let rank := rankOf significand
  if exponent < 0 then some (divideByTen rank exponent.natAbs)
  else if rank = 0 then some 0
  else if 308 < exponent then none
  else
    let scaled := rankOf (Double.magnitude rank * powerOfTen exponent.toNat)
    if scaled = infinityRank then none else some scaled

def doubleOfRank (negative : Bool) (rank : Nat) : Double :=
  if h : rank < infinityRank + 1 then .number negative ⟨rank, h⟩ else .infinity negative

def kept (w : WrittenNumber) : Kept :=
  let k := keepFraction (keepWhole ⟨0, 0⟩ w.whole) (w.fraction.getD [])
  ⟨k.significand, k.exponent + w.exponent.getD 0⟩

/-- The integer that is written, if it is whole, not a negative zero, and fits 64 bits. -/
def integer? (w : WrittenNumber) : Option Int64 :=
  if w.isWhole && !(w.negative && w.signedWhole = 0) then int64? w.signedWhole else none

/-- The whole number that is written, if it is positive and fits 64 bits without a sign only. -/
def unsigned? (w : WrittenNumber) : Option Unsigned :=
  if w.isWhole && !w.negative then Unsigned.ofNat? (Numeral.ofDigits w.whole) else none

def ofWritten? (w : WrittenNumber) : Option Json :=
  match integer? w, unsigned? w with
  | some i, _ => some (.integer i)
  | none, some n => some (.unsigned n)
  | none, none =>
    let k := kept w
    (scaleRank? k.significand k.exponent).map fun rank => .double (doubleOfRank w.negative rank)

end PathQuery.Json
