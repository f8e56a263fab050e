import PathQuery.Proofs.Decimal.Nearest

/-! Rounding keeps the order: a larger value never gets a smaller number. Integers that double precision
holds exactly stay apart. -/
namespace PathQuery

/-- Of two quotients the larger is not rounded lower, a half going to the even neighbour. -/
theorem roundedQuotient_mono {n d n' d' : Nat} (positive : 0 < d) (positive' : 0 < d')
    (le : n * d' ≤ n' * d) : roundedQuotient n d ≤ roundedQuotient n' d' := by
  have quotients : n / d ≤ n' / d' := by
    rw [Nat.le_div_iff_mul_le positive']
    apply Nat.le_of_mul_le_mul_right _ positive
    calc n / d * d' * d = n / d * d * d' := by ring
      _ ≤ n * d' := Nat.mul_le_mul_right d' (Nat.div_mul_le_self n d)
      _ ≤ n' * d := le
  rcases Nat.lt_or_eq_of_le quotients with less | same
  · unfold roundedQuotient
    split <;> split <;> omega
  · -- with the same quotient the remainders decide, and they are in the order of the values
    have remainders : n % d * d' ≤ n' % d' * d := by
      have whole := Nat.div_add_mod n d
      have whole' := Nat.div_add_mod n' d'
      rw [← same] at whole'
      have left : n * d' = d * (n / d) * d' + n % d * d' := by
        rw [← Nat.add_mul, whole]
      have right : n' * d = d * (n / d) * d' + n' % d' * d := by
        conv_lhs => rw [← whole']
        ring
      omega
    have down : 2 * (n' % d') ≤ d' → 2 * (n % d) ≤ d := by
      intro half
      nlinarith
    have below : 2 * (n' % d') < d' → 2 * (n % d) < d := by
      intro half
      nlinarith
    unfold roundedQuotient
    split <;> split <;> omega

namespace Double

theorem target_mono {x y : Rat} (le : x ≤ y) {q r : Int} (hq : IsTarget x q) (hr : IsTarget y r) :
    q ≤ r := by
  rcases hq.full with least | full
  · rw [least]
    exact hr.least
  · have h := lt_of_le_of_lt (full.trans le) hr.below
    rw [two_pow_mul_zpow, two_pow_mul_zpow] at h
    have := (zpow_lt_zpow_iff_right₀ (by norm_num : (1 : Rat) < 2)).mp h
    omega

section Targets

variable {n d : Nat} (positive : 0 < d) {q : Int} (target : IsTarget ((n : Rat) / d) q)
include positive target

theorem quotient_lt : n * 2 ^ (-q).toNat / (d * 2 ^ q.toNat) < 2 ^ 53 :=
  (div_lt_pow_iff positive q 53).mpr target.below

/-- Above the least exponent a significand has all its bits. -/
theorem le_quotient (large : -1074 < q) : 2 ^ 52 ≤ n * 2 ^ (-q).toNat / (d * 2 ^ q.toNat) := by
  rcases target.full with least | full
  · omega
  · exact not_lt.mp (mt (div_lt_pow_iff positive q 52).mp (not_lt.mpr full))

end Targets

theorem le_roundedQuotient (n d : Nat) : n / d ≤ roundedQuotient n d := by
  unfold roundedQuotient
  split <;> omega

/-- Of two values the larger has no lower rank. -/
theorem nearestRank_mono {n d n' d' : Nat} (positive : 0 < d) (positive' : 0 < d')
    (le : n * d' ≤ n' * d) : nearestRank n d ≤ nearestRank n' d' := by
  by_cases zero : n = 0
  · rw [nearestRank, if_pos zero]
    exact Nat.zero_le _
  have some : 0 < n := Nat.pos_of_ne_zero zero
  have some' : 0 < n' := Nat.pos_of_mul_pos_right (Nat.lt_of_lt_of_le (Nat.mul_pos some positive') le)
  have values : (n : Rat) / d ≤ n' / d' := by
    rw [div_le_div_iff₀ (by exact_mod_cast positive) (by exact_mod_cast positive')]
    exact_mod_cast le
  have target := targetExponent_isTarget some positive
  have target' := targetExponent_isTarget some' positive'
  rw [nearestRank_eq some positive target, nearestRank_eq some' positive' target']
  have exponents := target_mono values target target'
  have least := target.least
  generalize targetExponent n d = q at *
  generalize targetExponent n' d' = q' at *
  apply min_le_min_right
  rcases Int.lt_or_eq_of_le exponents with less | rfl
  · -- a significand may round up to 2^53, which is where the next exponent begins
    have high := quotient_lt positive target
    have rounded := roundedQuotient_le (n * 2 ^ (-q).toNat) (d * 2 ^ q.toNat)
    have low := le_quotient positive' target' (by omega)
    have rounded' := le_roundedQuotient (n' * 2 ^ (-q').toNat) (d' * 2 ^ q'.toNat)
    omega
  · apply Nat.add_le_add_left
    apply roundedQuotient_mono
    · positivity
    · positivity
    · calc n * 2 ^ (-q).toNat * (d' * 2 ^ q.toNat) = n * d' * (2 ^ (-q).toNat * 2 ^ q.toNat) := by ring
        _ ≤ n' * d * (2 ^ (-q).toNat * 2 ^ q.toNat) := Nat.mul_le_mul_right _ le
        _ = n' * 2 ^ (-q).toNat * (d * 2 ^ q.toNat) := by ring

/-- A natural number of at most 53 bits is not rounded. -/
theorem nearestRank_small {n : Nat} (some : 0 < n) (small : n < 2 ^ 53) {q : Int}
    (target : IsTarget ((n : Rat) / (1 : Nat)) q) :
    q ≤ 0 ∧ nearestRank n 1 = (q + 1074).toNat * 2 ^ 52 + n * 2 ^ (-q).toNat := by
  have whole : q ≤ 0 := by
    rcases target.full with least | full
    · omega
    · have h : (2 : Rat) ^ 52 * 2 ^ q < 2 ^ (53 : Int) := by
        refine lt_of_le_of_lt full ?_
        rw [Nat.cast_one, div_one]
        exact_mod_cast small
      rw [two_pow_mul_zpow] at h
      have := (zpow_lt_zpow_iff_right₀ (by norm_num : (1 : Rat) < 2)).mp h
      omega
  have unit : q.toNat = 0 := by omega
  have bits := quotient_lt Nat.one_pos target
  have exact := roundedQuotient_exact (n * 2 ^ (-q).toNat) Nat.one_pos
  rw [unit, pow_zero, Nat.mul_one, Nat.div_one] at bits
  rw [Nat.mul_one] at exact
  refine ⟨whole, ?_⟩
  rw [nearestRank_eq some Nat.one_pos target, unit, pow_zero, Nat.mul_one, exact]
  apply Nat.min_eq_left
  have := target.least
  rw [infinityRank, power_eq]
  omega

/-- Natural numbers up to 2^53 keep ranks of their own. -/
theorem nearestRank_lt {i j : Nat} (less : i < j) (small : j ≤ 2 ^ 53) :
    nearestRank i 1 < nearestRank j 1 := by
  by_cases zero : i = 0
  · calc nearestRank i 1 = 0 := by rw [nearestRank, if_pos zero]
      _ < nearestRank 1 1 := by decide +kernel
      _ ≤ nearestRank j 1 := nearestRank_mono Nat.one_pos Nat.one_pos (by omega)
  by_cases top : j = 2 ^ 53
  · calc nearestRank i 1 ≤ nearestRank (2 ^ 53 - 1) 1 :=
          nearestRank_mono Nat.one_pos Nat.one_pos (by omega)
      _ < nearestRank (2 ^ 53) 1 := by decide +kernel
      _ = nearestRank j 1 := by rw [top]
  have target := targetExponent_isTarget (Nat.pos_of_ne_zero zero) Nat.one_pos
  have target' := targetExponent_isTarget (Nat.zero_lt_of_lt less) Nat.one_pos
  have exponents := target_mono (by gcongr) target target'
  obtain ⟨whole, rank⟩ := nearestRank_small (Nat.pos_of_ne_zero zero) (by omega) target
  obtain ⟨whole', rank'⟩ := nearestRank_small (Nat.zero_lt_of_lt less) (by omega) target'
  have least := target.least
  rw [rank, rank']
  rcases Int.lt_or_eq_of_le exponents with apart | same
  · have high := quotient_lt Nat.one_pos target
    have low := le_quotient Nat.one_pos target' (by omega)
    rw [show (targetExponent i 1).toNat = 0 by omega, pow_zero, Nat.mul_one, Nat.div_one] at high
    rw [show (targetExponent j 1).toNat = 0 by omega, pow_zero, Nat.mul_one, Nat.div_one] at low
    omega
  · rw [same]
    have := Nat.mul_lt_mul_of_pos_right less (Nat.two_pow_pos (-targetExponent j 1).toNat)
    omega

theorem key_ofInt (i : Int) :
    (ofInt i).key = if i < 0 then -(nearestRank i.natAbs 1 : Int) else nearestRank i.natAbs 1 := by
  have negative : ((i : Rat) < 0) ↔ i < 0 := by exact_mod_cast Iff.rfl
  simp only [ofInt, nearest, ofMagnitude, negative, Rat.num_intCast, Rat.den_intCast]
  by_cases below : i < 0 <;> simp [below, key]

/-- Rounding integers keeps their order. -/
theorem key_ofInt_mono {i j : Int} (le : i ≤ j) : (ofInt i).key ≤ (ofInt j).key := by
  rw [key_ofInt, key_ofInt]
  have upward : i.natAbs ≤ j.natAbs → nearestRank i.natAbs 1 ≤ nearestRank j.natAbs 1 :=
    fun le => nearestRank_mono Nat.one_pos Nat.one_pos (by omega)
  have downward : j.natAbs ≤ i.natAbs → nearestRank j.natAbs 1 ≤ nearestRank i.natAbs 1 :=
    fun le => nearestRank_mono Nat.one_pos Nat.one_pos (by omega)
  split <;> split <;> omega

/-- Integers of at most 53 bits are not rounded together. -/
theorem key_ofInt_inj {i j : Int} (small : i.natAbs ≤ 2 ^ 53) (small' : j.natAbs ≤ 2 ^ 53)
    (same : (ofInt i).key = (ofInt j).key) : i = j := by
  rw [key_ofInt, key_ofInt] at same
  have upward : i.natAbs < j.natAbs → nearestRank i.natAbs 1 < nearestRank j.natAbs 1 :=
    fun less => nearestRank_lt less small'
  have downward : j.natAbs < i.natAbs → nearestRank j.natAbs 1 < nearestRank i.natAbs 1 :=
    fun less => nearestRank_lt less small
  have some : 0 < i.natAbs → 0 < nearestRank i.natAbs 1 := fun some => nearestRank_lt some small
  have some' : 0 < j.natAbs → 0 < nearestRank j.natAbs 1 := fun some => nearestRank_lt some small'
  split at same <;> split at same <;> omega

end Double
end PathQuery
