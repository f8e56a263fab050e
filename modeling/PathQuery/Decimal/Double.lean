import PathQuery.Decimal.Power

/-!
Binary floating-point numbers of 64 bits as exact mathematics. A number is a sign and a rank, its
place in the ascending list of magnitudes 0, 2^-1074, …, infinity. There is no arithmetic here:
only the exact value, rounding to nearest with ties to even, and the total order.
-/
namespace PathQuery

/-- The rank of infinity: 2^52 magnitudes for each of the 2047 exponents below it. -/
def infinityRank : Nat := 2047 * power 2 52

inductive Double where
  | nan
  | number (negative : Bool) (rank : Fin (infinityRank + 1))
deriving DecidableEq, Repr

def scaledByTwo (m : Nat) (q : Int) : Rat := mkRat (m * power 2 q.toNat : Nat) (power 2 (-q).toNat)

def scaledByTen (m : Nat) (q : Int) : Rat := mkRat (m * power 10 q.toNat : Nat) (power 10 (-q).toNat)

/-- The quotient rounded to a natural number, a half going to the even neighbour. -/
def roundedQuotient (num den : Nat) : Nat :=
  if 2 * (num % den) < den ∨ (2 * (num % den) = den ∧ num / den % 2 = 0) then num / den
  else num / den + 1

namespace Double

/-- Significand and binary exponent of a magnitude below infinity. -/
def significand (rank : Nat) : Nat :=
  if rank < power 2 52 then rank else power 2 52 + rank % power 2 52

def binaryExponent (rank : Nat) : Int :=
  if rank < power 2 52 then -1074 else (rank / power 2 52 : Nat) - 1075

def magnitude (rank : Nat) : Rat := scaledByTwo (significand rank) (binaryExponent rank)

def value? : Double → Option Rat
  | nan => none
  | number negative rank =>
    if rank.val = infinityRank then none
    else some (if negative then -magnitude rank else magnitude rank)

def isFinite (x : Double) : Bool := x.value?.isSome

/-- The binary exponent at which `num / den` has a significand of at most 53 bits. -/
def targetExponent (num den : Nat) : Int :=
  let q := max ((num.log2 : Int) - den.log2 - 53) (-1074)
  if num * power 2 (-q).toNat / (den * power 2 q.toNat) < power 2 53 then q else q + 1

/-- The rank of the magnitude nearest to `num / den`. A significand that rounds up to 2^53 carries
into the exponent, because ranks are consecutive. -/
def nearestRank (num den : Nat) : Nat :=
  if num = 0 then 0
  else
    let q := targetExponent num den
    min ((q + 1074).toNat * power 2 52 +
      roundedQuotient (num * power 2 (-q).toNat) (den * power 2 q.toNat)) infinityRank

theorem nearestRank_le (num den : Nat) : nearestRank num den ≤ infinityRank := by
  unfold nearestRank
  split
  · exact Nat.zero_le _
  · exact Nat.min_le_right ..

def ofMagnitude (negative : Bool) (x : Rat) : Double :=
  number negative ⟨nearestRank x.num.natAbs x.den, Nat.lt_succ_of_le (nearestRank_le ..)⟩

/-- The number nearest to a rational; zero is positive. -/
def nearest (x : Rat) : Double := ofMagnitude (decide (x < 0)) x

def ofInt (i : Int) : Double := nearest i

def zero (negative : Bool) : Double := number negative ⟨0, Nat.succ_pos _⟩

def infinity (negative : Bool) : Double := number negative ⟨infinityRank, Nat.lt_succ_self _⟩

/-- Places every number on a line: NaN first, then by value, the two zeros together. -/
def key : Double → Int
  | nan => -(infinityRank + 1 : Nat)
  | number true rank => -(rank.val : Int)
  | number false rank => rank.val

def compare (a b : Double) : Ordering := Ord.compare a.key b.key

/-- Numeric equality: the two zeros are equal and NaN differs from itself. -/
def numericEq (a b : Double) : Bool := a ≠ nan && a.key = b.key

end Double
end PathQuery
