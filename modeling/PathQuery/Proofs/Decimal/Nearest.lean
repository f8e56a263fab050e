import Mathlib.Algebra.Order.Field.Power
import Mathlib.Data.Rat.Lemmas
import Mathlib.Tactic.FieldSimp
import Mathlib.Tactic.Linarith
import Mathlib.Tactic.NormNum
import Mathlib.Tactic.Positivity
import Mathlib.Tactic.Ring
import PathQuery.Decimal.Shortest

/-! Rounding of exact values. The binary exponent at which a value is rounded is determined by the
value, so rounding fixes every magnitude, and the shortcuts taken for very large and very small
decimals do not change the result. The digits chosen for a magnitude therefore read back to it. -/
namespace PathQuery

@[simp] theorem power_eq (base exponent : Nat) : power base exponent = base ^ exponent := rfl

theorem scaledByTwo_eq (m : Nat) (q : Int) : scaledByTwo m q = (m : Rat) * 2 ^ q := by
  unfold scaledByTwo
  rw [Rat.mkRat_eq_div]
  by_cases h : 0 ≤ q
  · obtain ⟨k, rfl⟩ := Int.eq_ofNat_of_zero_le h
    simp
  · obtain ⟨k, hk⟩ := Int.eq_ofNat_of_zero_le (show 0 ≤ -q by omega)
    obtain rfl : q = -(k : Int) := by omega
    simp [zpow_neg, div_eq_mul_inv]

theorem scaledByTen_eq (m : Nat) (q : Int) : scaledByTen m q = (m : Rat) * 10 ^ q := by
  unfold scaledByTen
  rw [Rat.mkRat_eq_div]
  by_cases h : 0 ≤ q
  · obtain ⟨k, rfl⟩ := Int.eq_ofNat_of_zero_le h
    simp
  · obtain ⟨k, hk⟩ := Int.eq_ofNat_of_zero_le (show 0 ≤ -q by omega)
    obtain rfl : q = -(k : Int) := by omega
    simp [zpow_neg, div_eq_mul_inv]

theorem Decimal.value_eq (d : Decimal) : d.value = (d.digits : Rat) * 10 ^ d.exponent :=
  scaledByTen_eq d.digits d.exponent

theorem roundedQuotient_exact (k : Nat) {d : Nat} (positive : 0 < d) :
    roundedQuotient (k * d) d = k := by
  simp [roundedQuotient, Nat.mul_mod_left, Nat.mul_div_left k positive, positive]

theorem roundedQuotient_small {n d : Nat} (small : 2 * n < d) : roundedQuotient n d = 0 := by
  have h : n < d := by omega
  simp [roundedQuotient, Nat.mod_eq_of_lt h, Nat.div_eq_of_lt h, small]

namespace Double

/-- The exponent at which a significand of x has at most 53 bits and, unless it is the least
exponent, all 53. -/
structure IsTarget (x : Rat) (q : Int) : Prop where
  least : -1074 ≤ q
  below : x < 2 ^ 53 * 2 ^ q
  full : q = -1074 ∨ 2 ^ 52 * 2 ^ q ≤ x

theorem two_pow_mul_zpow (b : Nat) (q : Int) : (2 : Rat) ^ b * 2 ^ q = 2 ^ ((b : Int) + q) := by
  rw [zpow_add₀ two_ne_zero, zpow_natCast]

theorem target_le {x : Rat} {q r : Int} (hq : IsTarget x q) (hr : IsTarget x r) : q ≤ r := by
  rcases hq.full with least | full
  · rw [least]
    exact hr.least
  · have h := lt_of_le_of_lt full hr.below
    rw [two_pow_mul_zpow, two_pow_mul_zpow] at h
    have := (zpow_lt_zpow_iff_right₀ (by norm_num : (1 : Rat) < 2)).mp h
    omega

theorem target_unique {x : Rat} {q r : Int} (hq : IsTarget x q) (hr : IsTarget x r) : q = r :=
  Int.le_antisymm (target_le hq hr) (target_le hr hq)

theorem log2_bounds {n : Nat} (positive : 0 < n) :
    (2 : Rat) ^ (n.log2 : Int) ≤ n ∧ (n : Rat) < 2 ^ ((n.log2 : Int) + 1) := by
  constructor
  · rw [zpow_natCast]
    exact_mod_cast Nat.log2_self_le (Nat.pos_iff_ne_zero.mp positive)
  · have h := Nat.lt_log2_self (n := n)
    rw [show (n.log2 : Int) + 1 = ((n.log2 + 1 : Nat) : Int) by push_cast; ring, zpow_natCast]
    exact_mod_cast h

/-- The two scaled numbers are in the ratio of the value to the power of two. -/
theorem scaled_ratio (num den : Nat) (q : Int) :
    ((num * 2 ^ (-q).toNat : Nat) : Rat) / (den * 2 ^ q.toNat : Nat) = num / den / 2 ^ q := by
  have h : (2 : Rat) ^ q = 2 ^ q.toNat / 2 ^ (-q).toNat := by
    rw [← zpow_natCast, ← zpow_natCast, ← zpow_sub₀ two_ne_zero]
    congr 1
    omega
  rw [h]
  push_cast
  field_simp

theorem div_lt_pow_iff {num den : Nat} (positive : 0 < den) (q : Int) (b : Nat) :
    num * 2 ^ (-q).toNat / (den * 2 ^ q.toNat) < 2 ^ b ↔ (num : Rat) / den < 2 ^ b * 2 ^ q := by
  have dpos : 0 < den * 2 ^ q.toNat := by positivity
  rw [Nat.div_lt_iff_lt_mul dpos, ← div_lt_iff₀ (by positivity : (0 : Rat) < 2 ^ q),
    ← scaled_ratio, div_lt_iff₀ (by exact_mod_cast dpos)]
  exact_mod_cast Iff.rfl

theorem targetExponent_isTarget {num den : Nat} (hn : 0 < num) (hd : 0 < den) :
    IsTarget ((num : Rat) / den) (targetExponent num den) := by
  obtain ⟨nlow, nhigh⟩ := log2_bounds hn
  obtain ⟨dlow, dhigh⟩ := log2_bounds hd
  have dpos : (0 : Rat) < den := by exact_mod_cast hd
  -- the quotient lies between the powers of two around the difference of the logarithms
  have low : (2 : Rat) ^ ((num.log2 : Int) - den.log2 - 1) ≤ num / den := by
    rw [le_div_iff₀ dpos]
    calc (2 : Rat) ^ ((num.log2 : Int) - den.log2 - 1) * den
        ≤ 2 ^ ((num.log2 : Int) - den.log2 - 1) * 2 ^ ((den.log2 : Int) + 1) := by gcongr
      _ = 2 ^ (num.log2 : Int) := by rw [← zpow_add₀ two_ne_zero]; congr 1; omega
      _ ≤ num := nlow
  have high : (num : Rat) / den < 2 ^ ((num.log2 : Int) - den.log2 + 1) := by
    rw [div_lt_iff₀ dpos]
    calc (num : Rat) < 2 ^ ((num.log2 : Int) + 1) := nhigh
      _ = 2 ^ ((num.log2 : Int) - den.log2 + 1) * 2 ^ (den.log2 : Int) := by
        rw [← zpow_add₀ two_ne_zero]; congr 1; omega
      _ ≤ 2 ^ ((num.log2 : Int) - den.log2 + 1) * den := by gcongr
  unfold targetExponent
  generalize hq : max ((num.log2 : Int) - den.log2 - 53) (-1074) = q
  simp only
  split
  · rename_i small
    refine ⟨by omega, (div_lt_pow_iff hd q 53).mp small, ?_⟩
    by_cases least : q = -1074
    · exact .inl least
    · refine .inr (le_trans (le_of_eq ?_) low)
      rw [two_pow_mul_zpow]
      congr 1
      omega
  · rename_i large
    have full := not_lt.mp (mt (div_lt_pow_iff hd q 53).mpr large)
    refine ⟨by omega, lt_of_lt_of_le high ?_, .inr ?_⟩
    · rw [two_pow_mul_zpow]
      exact zpow_le_zpow_right₀ (by norm_num) (by omega)
    · refine le_trans (le_of_eq ?_) full
      rw [zpow_add_one₀ two_ne_zero]
      ring

/-- The rank at the exponent that belongs to the value, however it was found. -/
theorem nearestRank_eq {num den : Nat} (hn : 0 < num) (hd : 0 < den) {q : Int}
    (target : IsTarget ((num : Rat) / den) q) :
    nearestRank num den = min ((q + 1074).toNat * 2 ^ 52 +
      roundedQuotient (num * 2 ^ (-q).toNat) (den * 2 ^ q.toNat)) infinityRank := by
  rw [nearestRank, if_neg (Nat.pos_iff_ne_zero.mp hn),
    target_unique (targetExponent_isTarget hn hd) target]
  rfl

theorem natAbs_div_den {x : Rat} (nonneg : 0 ≤ x) : (x.num.natAbs : Rat) / x.den = x := by
  conv_rhs => rw [← Rat.num_div_den x]
  congr 1
  have h : (x.num.natAbs : Int) = x.num := Int.natAbs_of_nonneg (Rat.num_nonneg.mpr nonneg)
  rw [← Int.cast_natCast, h]

theorem natAbs_num_pos {x : Rat} (positive : 0 < x) : 0 < x.num.natAbs :=
  Int.natAbs_pos.mpr (Rat.num_pos.mpr positive).ne'

/-- The magnitude of a significand of at most 53 bits and a fitting exponent is not rounded. -/
theorem nearestRank_of_magnitude {x : Rat} (positive : 0 < x) {m : Nat} {q : Int}
    (value : x = (m : Rat) * 2 ^ q) (target : IsTarget x q) :
    nearestRank x.num.natAbs x.den = min ((q + 1074).toNat * 2 ^ 52 + m) infinityRank := by
  have ratio := natAbs_div_den positive.le
  rw [nearestRank_eq (natAbs_num_pos positive) x.den_pos (by rwa [ratio])]
  have dpos : (0 : Rat) < (x.den * 2 ^ q.toNat : Nat) := by
    exact_mod_cast Nat.mul_pos x.den_pos (by positivity)
  have scaled : x.num.natAbs * 2 ^ (-q).toNat = m * (x.den * 2 ^ q.toNat) := by
    have h := scaled_ratio x.num.natAbs x.den q
    have quotient : x / 2 ^ q = m := by rw [value, mul_div_assoc, div_self (by positivity), mul_one]
    rw [ratio, quotient, div_eq_iff dpos.ne'] at h
    exact_mod_cast h
  rw [scaled, roundedQuotient_exact m (by exact_mod_cast dpos)]

theorem significand_eq (rank : Nat) :
    significand rank = if rank < 2 ^ 52 then rank else 2 ^ 52 + rank % 2 ^ 52 := rfl

theorem binaryExponent_eq (rank : Nat) :
    binaryExponent rank = if rank < 2 ^ 52 then (-1074 : Int) else (rank / 2 ^ 52 : Nat) - 1075 :=
  rfl

theorem significand_lt (rank : Nat) : significand rank < 2 ^ 53 := by
  rw [significand_eq]
  have := Nat.mod_lt rank (show 0 < 2 ^ 52 by decide)
  split <;> omega

theorem magnitude_eq (rank : Nat) :
    magnitude rank = (significand rank : Rat) * 2 ^ binaryExponent rank :=
  scaledByTwo_eq _ _

theorem magnitude_pos {rank : Nat} (positive : 0 < rank) : 0 < magnitude rank := by
  have h : 0 < significand rank := by
    rw [significand_eq]
    split <;> omega
  rw [magnitude_eq]
  have : (0 : Rat) < significand rank := by exact_mod_cast h
  positivity

theorem magnitude_isTarget (rank : Nat) :
    IsTarget (magnitude rank) (binaryExponent rank) := by
  rw [magnitude_eq]
  refine ⟨?_, ?_, ?_⟩
  · rw [binaryExponent_eq]
    split <;> omega
  · gcongr
    exact_mod_cast significand_lt rank
  · by_cases h : rank < 2 ^ 52
    · exact .inl (if_pos h)
    · refine .inr ?_
      gcongr
      rw [significand_eq, if_neg h]
      exact_mod_cast Nat.le_add_right _ _

theorem rank_eq (rank : Nat) :
    (binaryExponent rank + 1074).toNat * 2 ^ 52 + significand rank = rank := by
  rw [binaryExponent_eq, significand_eq]
  split <;> omega

/-- Rounding fixes every magnitude. -/
theorem nearestRank_magnitude (rank : Nat) (bounded : rank ≤ infinityRank) :
    nearestRank (magnitude rank).num.natAbs (magnitude rank).den = rank := by
  by_cases zero : rank = 0
  · subst zero
    rw [magnitude_eq]
    simp [significand, nearestRank]
  · rw [nearestRank_of_magnitude (magnitude_pos (Nat.pos_of_ne_zero zero)) (magnitude_eq rank)
      (magnitude_isTarget rank), rank_eq]
    exact Nat.min_eq_left bounded

theorem ofMagnitude_magnitude (negative : Bool) (rank : Fin (infinityRank + 1)) :
    ofMagnitude negative (magnitude rank) = number negative rank := by
  unfold ofMagnitude
  congr 1
  exact Fin.ext (nearestRank_magnitude rank (Nat.le_of_lt_succ rank.isLt))

theorem ofMagnitude_zero (negative : Bool) : ofMagnitude negative 0 = zero negative := rfl

theorem ofMagnitude_eq_infinity (negative : Bool) {x : Rat} (large : 2 ^ 1025 ≤ x) :
    ofMagnitude negative x = infinity negative := by
  have positive : 0 < x := lt_of_lt_of_le (by positivity) large
  have ratio := natAbs_div_den positive.le
  have target := targetExponent_isTarget (natAbs_num_pos positive) x.den_pos
  have high : 973 ≤ targetExponent x.num.natAbs x.den := by
    have h := lt_of_le_of_lt large (ratio ▸ target.below)
    rw [← zpow_natCast, two_pow_mul_zpow] at h
    have := (zpow_lt_zpow_iff_right₀ (by norm_num : (1 : Rat) < 2)).mp h
    push_cast at this
    omega
  unfold ofMagnitude infinity
  congr 1
  apply Fin.ext
  simp only
  rw [nearestRank_eq (natAbs_num_pos positive) x.den_pos target]
  apply Nat.min_eq_right
  have : 2047 ≤ (targetExponent x.num.natAbs x.den + 1074).toNat := by omega
  rw [infinityRank, power_eq]
  omega

theorem roundedQuotient_le (n d : Nat) : roundedQuotient n d ≤ n / d + 1 := by
  unfold roundedQuotient
  split <;> omega

/-- What lies well below the largest magnitude is not rounded to infinity. -/
theorem isFinite_ofMagnitude (negative : Bool) {x : Rat} (positive : 0 < x) (small : x < 2 ^ 1023) :
    (ofMagnitude negative x).isFinite = true := by
  have ratio := natAbs_div_den positive.le
  have target := targetExponent_isTarget (natAbs_num_pos positive) x.den_pos
  have rank := nearestRank_eq (natAbs_num_pos positive) x.den_pos target
  have quotient := (div_lt_pow_iff x.den_pos _ 53).mpr target.below
  generalize targetExponent x.num.natAbs x.den = q at target rank quotient
  have low : q < 971 := by
    rcases target.full with least | full
    · omega
    · have h := lt_of_le_of_lt full (ratio.symm ▸ small)
      rw [two_pow_mul_zpow, ← zpow_natCast] at h
      have := (zpow_lt_zpow_iff_right₀ (by norm_num : (1 : Rat) < 2)).mp h
      push_cast at this
      omega
  have rounded := roundedQuotient_le (x.num.natAbs * 2 ^ (-q).toNat) (x.den * 2 ^ q.toNat)
  have steps : (q + 1074).toNat ≤ 2044 := by omega
  have below : nearestRank x.num.natAbs x.den ≠ infinityRank := by
    rw [rank, infinityRank, power_eq]
    omega
  simp [ofMagnitude, isFinite, value?, below]

theorem ofMagnitude_eq_zero (negative : Bool) {x : Rat} (positive : 0 < x)
    (small : x < 2 ^ (-1076 : Int)) : ofMagnitude negative x = zero negative := by
  have ratio := natAbs_div_den positive.le
  have target : IsTarget x (-1074) := by
    refine ⟨le_refl _, lt_trans small ?_, .inl rfl⟩
    rw [two_pow_mul_zpow]
    exact zpow_lt_zpow_right₀ (by norm_num) (by norm_num)
  have dpos : (0 : Rat) < x.den := by exact_mod_cast x.den_pos
  unfold ofMagnitude zero
  congr 1
  apply Fin.ext
  simp only
  rw [nearestRank_eq (natAbs_num_pos positive) x.den_pos (by rwa [ratio]), roundedQuotient_small]
  · rfl
  · have h : (x.num.natAbs : Rat) < 2 ^ (-1076 : Int) * x.den := by
      rw [← div_lt_iff₀ dpos, ratio]
      exact small
    have quarter : (2 : Rat) ^ (-1076 : Int) * 2 ^ 1074 = 1 / 4 := by
      rw [mul_comm, two_pow_mul_zpow]
      norm_num
    have scaled : (x.num.natAbs : Rat) * 2 ^ 1074 < 1 / 4 * x.den := by
      rw [← quarter, mul_right_comm]
      gcongr
    have half : (2 : Rat) * (x.num.natAbs * 2 ^ 1074) < x.den := by
      generalize (x.num.natAbs : Rat) * 2 ^ 1074 = n at scaled ⊢
      linarith
    rw [show (-(-1074 : Int)).toNat = 1074 from rfl, show (-1074 : Int).toNat = 0 from rfl,
      pow_zero, mul_one]
    exact_mod_cast half

end Double

namespace Decimal

/-- The two shortcuts change nothing: a decimal is read as the number nearest to its value. -/
theorem toDouble_eq (negative : Bool) (d : Decimal) :
    d.toDouble negative = .ofMagnitude negative d.value := by
  unfold toDouble
  split
  · rename_i none
    rw [value_eq, none, Nat.cast_zero, zero_mul, Double.ofMagnitude_zero]
  · rename_i some
    have one : (1 : Rat) ≤ d.digits := by exact_mod_cast Nat.one_le_iff_ne_zero.mpr some
    split
    · rename_i large
      refine (Double.ofMagnitude_eq_infinity negative ?_).symm
      rw [value_eq]
      have tens : (2 : Rat) ^ 1025 ≤ 10 ^ 401 :=
        calc (2 : Rat) ^ 1025 ≤ 2 ^ (3 * 401) := pow_le_pow_right₀ (by norm_num) (by norm_num)
          _ = (2 ^ 3) ^ 401 := pow_mul 2 3 401
          _ ≤ 10 ^ 401 := pow_le_pow_left₀ (by norm_num) (by norm_num) 401
      calc (2 : Rat) ^ 1025 ≤ 1 * 10 ^ ((401 : Nat) : Int) := by rwa [one_mul, zpow_natCast]
        _ ≤ d.digits * 10 ^ d.exponent :=
          mul_le_mul one (zpow_le_zpow_right₀ (by norm_num) (by omega)) (by positivity)
            (by positivity)
    · split
      · rename_i small
        refine (Double.ofMagnitude_eq_zero negative ?_ ?_).symm
        · rw [value_eq]
          positivity
        · have bits := (Double.log2_bounds (Nat.pos_of_ne_zero some)).2
          have tens : (10 : Rat) ^ d.exponent ≤ 2 ^ d.exponent := by
            have e : d.exponent = -((-d.exponent).toNat : Int) := by omega
            rw [e, zpow_neg, zpow_neg, zpow_natCast, zpow_natCast]
            gcongr
            norm_num
          rw [value_eq]
          calc (d.digits : Rat) * 10 ^ d.exponent
              ≤ d.digits * 2 ^ d.exponent := by gcongr
            _ < 2 ^ ((d.digits.log2 : Int) + 1) * 2 ^ d.exponent := by gcongr
            _ = 2 ^ ((d.digits.log2 : Int) + 1 + d.exponent) := by rw [← zpow_add₀ two_ne_zero]
            _ ≤ 2 ^ (-1076 : Int) := zpow_le_zpow_right₀ (by norm_num) (by omega)
      · rfl

theorem value_exact (rank : Nat) : (exact rank).value = Double.magnitude rank := by
  rw [value_eq, Double.magnitude_eq, exact]
  split
  · rename_i h
    obtain ⟨k, hk⟩ := Int.eq_ofNat_of_zero_le h
    simp [hk]
  · rename_i h
    obtain ⟨k, hk⟩ := Int.eq_ofNat_of_zero_le (show 0 ≤ -Double.binaryExponent rank by omega)
    have e : Double.binaryExponent rank = -(k : Int) := by omega
    rw [e]
    simp only [neg_neg, Int.toNat_natCast, power_eq, Nat.cast_mul, Nat.cast_pow, Nat.cast_ofNat,
      zpow_neg, zpow_natCast]
    rw [show (10 : Rat) = 2 * 5 by norm_num, mul_pow]
    field_simp

theorem readsBack_of_onGrid {tie : Tie} {rank : Nat} {x : Rat} {unit : Int} {d : Decimal}
    (found : onGrid? tie rank x unit = some d) : readsBack rank d = true := by
  unfold onGrid? at found
  simp only at found
  split at found
  · cases found
  · rename_i below _
    cases found
    exact below
  · rename_i _ above
    cases found
    exact above
  · rename_i below above
    repeat' split at found
    all_goals
      cases found
      first
      | exact below
      | exact above

/-- The digits chosen for a magnitude have it as the nearest number. -/
theorem ofMagnitude_shortest (negative : Bool) (tie : Tie) (rank : Fin (infinityRank + 1)) :
    Double.ofMagnitude negative (shortest tie rank).value = .number negative rank := by
  rw [← Double.ofMagnitude_magnitude]
  unfold shortest
  simp only
  cases found : (List.range 17).findSome? fun (n : Nat) =>
      onGrid? tie rank (Double.magnitude rank) (scale (Double.magnitude rank) - (n + 1)) with
  | none => rw [Option.getD_none, value_exact]
  | some d =>
    obtain ⟨n, _, onGrid⟩ := List.exists_of_findSome?_eq_some found
    have back := readsBack_of_onGrid onGrid
    simp only [readsBack, decide_eq_true_eq, toDouble_eq, Double.ofMagnitude, Double.number.injEq,
      true_and] at back
    simp only [Option.getD_some, Double.ofMagnitude, back]

end Decimal
end PathQuery
