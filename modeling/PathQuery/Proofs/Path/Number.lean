import Mathlib.Data.List.TakeWhile
import PathQuery.Path.Lexeme
import PathQuery.Proofs.Decimal.Nearest
import PathQuery.Proofs.Text.Span

/-! Numbers read back as they are written: an integer from its digits, and a finite double from any
layout of the digits that were chosen for it. What follows a number must not be able to belong to it. -/
namespace PathQuery

theorem WrittenNumber.value_decimal (w : WrittenNumber) :
    w.decimal.value = (Numeral.ofDigits (w.whole ++ w.fraction.getD []) : Rat) *
      10 ^ (w.exponent.getD 0 - (w.fraction.getD []).length) :=
  Decimal.value_eq _

namespace Lexeme

open Numeral Layout

def IsDigits (cs : List Char) : Prop := ∀ c ∈ cs, isDigit c = true

theorem isDigits_append {a b : List Char} (ha : IsDigits a) (hb : IsDigits b) :
    IsDigits (a ++ b) := by
  intro c hc
  rcases List.mem_append.mp hc with h | h
  · exact ha c h
  · exact hb c h

theorem isDigits_digits (n : Nat) : IsDigits (digits n) := fun _ h => isDigit_of_mem_digits h

theorem isDigits_zeros (k : Nat) : IsDigits (List.replicate k '0') :=
  fun _ h => isDigit_of_mem_zeros h

/-- Nothing of the text can belong to a number in front of it. -/
def EndsNumber (s : List Char) : Prop :=
  StopsAt (fun c => isDigit c || c == '.' || c == 'e' || c == 'E') s

theorem EndsNumber.noDigit {s : List Char} (h : EndsNumber s) : StopsAt isDigit s := by
  intro c hc
  have := h c hc
  simp only [Bool.or_eq_false_iff] at this
  exact this.1.1.1

theorem EndsNumber.noPoint {s : List Char} (h : EndsNumber s) (t : List Char) : s ≠ '.' :: t := by
  rintro rfl
  have := stopsAt_cons.mp h
  simp at this

theorem takeDigits_span {ds s : List Char} (all : IsDigits ds) (stop : StopsAt isDigit s) :
    takeDigits (ds ++ s) = (ds, s) := by
  rw [takeDigits, takeWhile_span all stop, dropWhile_span all stop]

theorem isEmpty_eq_false {cs : List Char} (h : cs ≠ []) : cs.isEmpty = false := by
  cases cs with
  | nil => exact absurd rfl h
  | cons c cs => rfl

theorem takeMantissa_point {whole fraction s : List Char} (hw : IsDigits whole)
    (nonempty : whole ≠ []) (hf : IsDigits fraction) (stop : StopsAt isDigit s) :
    takeMantissa? (whole ++ '.' :: (fraction ++ s)) = some (whole, some fraction, s) := by
  have point : StopsAt isDigit ('.' :: (fraction ++ s)) := stopsAt_cons.mpr rfl
  simp only [takeMantissa?, takeDigits_span hw point, takeDigits_span hf stop,
    isEmpty_eq_false nonempty, Bool.false_and, Bool.false_eq_true, if_false]

theorem takeMantissa_whole {whole s : List Char} (hw : IsDigits whole) (nonempty : whole ≠ [])
    (stop : StopsAt isDigit s) (noPoint : ∀ t, s ≠ '.' :: t) :
    takeMantissa? (whole ++ s) = some (whole, none, s) := by
  simp only [takeMantissa?, takeDigits_span hw stop]
  rw [isEmpty_eq_false nonempty]
  rfl

theorem takeExponent_none {s : List Char} (ends : EndsNumber s) : takeExponent? s = some (none, s) := by
  cases s with
  | nil => rfl
  | cons c s =>
    have h := stopsAt_cons.mp ends
    simp only [Bool.or_eq_false_iff, beq_eq_false_iff_ne] at h
    simp only [takeExponent?]
    rw [if_neg]
    rintro (rfl | rfl)
    · exact h.1.2 rfl
    · exact h.2 rfl

theorem ne_sign_of_digit {c : Char} (h : isDigit c = true) : c ≠ '-' ∧ c ≠ '+' := by
  constructor <;> (rintro rfl; revert h; decide)

theorem takeSign_digits {cs s : List Char} (all : IsDigits cs) (nonempty : cs ≠ []) :
    takeSign (cs ++ s) = (false, cs ++ s) := by
  cases cs with
  | nil => exact absurd rfl nonempty
  | cons c cs =>
    obtain ⟨minus, plus⟩ := ne_sign_of_digit (all c List.mem_cons_self)
    simp [takeSign, minus, plus]

theorem takeExponent_some (lead : Int) (plusSign : Bool) {s : List Char} (stop : StopsAt isDigit s) :
    takeExponent? ('e' :: ((if lead < 0 then ['-'] else if plusSign then ['+'] else []) ++
      digits lead.natAbs ++ s)) = some (some lead, s) := by
  have sign : takeSign ((if lead < 0 then ['-'] else if plusSign then ['+'] else []) ++
      digits lead.natAbs ++ s) = (decide (lead < 0), digits lead.natAbs ++ s) := by
    by_cases negative : lead < 0
    · simp [negative, takeSign]
    · cases plusSign with
      | true => simp [negative, takeSign]
      | false => simpa [negative] using takeSign_digits (isDigits_digits _) (digits_ne_nil _)
  simp only [takeExponent?, true_or, if_true, sign, takeDigits_span (isDigits_digits _) stop,
    isEmpty_eq_false (digits_ne_nil _), Bool.false_eq_true, if_false, ofDigits_digits,
    decide_eq_true_eq, Option.some.injEq, Prod.mk.injEq, and_true]
  split <;> omega

theorem takeSign_signed (negative : Bool) {cs s : List Char} (plain : takeSign (cs ++ s) = (false, cs ++ s)) :
    takeSign (signed negative cs ++ s) = (negative, cs ++ s) := by
  cases negative with
  | false => exact plain
  | true => rfl

theorem takeNumber_signed (negative : Bool) {cs s m rest whole : List Char}
    {fraction : Option (List Char)} {exponent : Option Int}
    (plain : takeSign (cs ++ s) = (false, cs ++ s))
    (mantissa : takeMantissa? (cs ++ s) = some (whole, fraction, m))
    (tail : takeExponent? m = some (exponent, rest)) :
    takeNumber? (signed negative cs ++ s) = some (⟨negative, whole, fraction, exponent⟩, rest) := by
  simp only [takeNumber?, takeSign_signed negative plain, mantissa, tail]

def StartsWithDigit (cs : List Char) : Prop := ∃ c t, cs = c :: t ∧ isDigit c = true

theorem startsWithDigit_append {ds : List Char} (all : IsDigits ds) (nonempty : ds ≠ [])
    (t : List Char) : StartsWithDigit (ds ++ t) := by
  obtain ⟨c, cs, rfl⟩ := List.exists_cons_of_ne_nil nonempty
  exact ⟨c, cs ++ t, rfl, all c List.mem_cons_self⟩

/-- With either sign the text is read as a number of this magnitude that is not written as an
integer. -/
structure Denotes (cs : List Char) (x : Rat) : Prop where
  first : StartsWithDigit cs
  read (negative : Bool) (s : List Char) : EndsNumber s →
    ∃ w, takeNumber? (signed negative cs ++ s) = some (w, s) ∧
      w.negative = negative ∧ w.isWhole = false ∧ w.decimal.value = x

theorem denotes_point (whole fraction : List Char) (hw : IsDigits whole) (nonempty : whole ≠ [])
    (hf : IsDigits fraction) :
    Denotes (whole ++ '.' :: fraction)
      ((ofDigits (whole ++ fraction) : Rat) * 10 ^ (-(fraction.length : Int))) := by
  refine ⟨startsWithDigit_append hw nonempty _, fun negative s ends => ?_⟩
  refine ⟨⟨negative, whole, some fraction, none⟩, ?_, rfl, rfl, ?_⟩
  · apply takeNumber_signed negative (m := s) _ _ (takeExponent_none ends)
    · rw [List.append_assoc]
      exact takeSign_digits hw nonempty
    · rw [List.append_assoc, List.cons_append]
      exact takeMantissa_point hw nonempty hf ends.noDigit
  · rw [WrittenNumber.value_decimal]
    simp

theorem denotes_exponent (whole fraction : List Char) (hw : IsDigits whole) (nonempty : whole ≠ [])
    (hf : IsDigits fraction) (lead : Int) (plusSign : Bool) :
    Denotes (whole ++ (if fraction.isEmpty then [] else '.' :: fraction) ++
        'e' :: ((if lead < 0 then ['-'] else if plusSign then ['+'] else []) ++ digits lead.natAbs))
      ((ofDigits (whole ++ fraction) : Rat) * 10 ^ (lead - fraction.length)) := by
  refine ⟨?_, fun negative s ends => ?_⟩
  · rw [List.append_assoc]
    exact startsWithDigit_append hw nonempty _
  have e := takeExponent_some lead plusSign ends.noDigit
  generalize (if lead < 0 then ['-'] else if plusSign then ['+'] else []) ++ digits lead.natAbs = tail
    at e ⊢
  have mark : StopsAt isDigit ('e' :: (tail ++ s)) := stopsAt_cons.mpr rfl
  by_cases empty : fraction = []
  · subst empty
    refine ⟨⟨negative, whole, none, some lead⟩, ?_, rfl, rfl, ?_⟩
    · apply takeNumber_signed negative (m := 'e' :: (tail ++ s)) _ _ e
      · simpa using takeSign_digits hw nonempty
      · simpa using takeMantissa_whole hw nonempty mark (by simp)
    · rw [WrittenNumber.value_decimal]
      simp
  · refine ⟨⟨negative, whole, some fraction, some lead⟩, ?_, rfl, rfl, ?_⟩
    · apply takeNumber_signed negative (m := 'e' :: (tail ++ s)) _ _ e
      · simpa using takeSign_digits hw nonempty
      · simpa [empty] using takeMantissa_point hw nonempty hf mark
    · rw [WrittenNumber.value_decimal]
      simp

/-- Trimming takes zeros off the end. -/
theorem trimZeros_append (ds : List Char) :
    ∃ k, ds = trimZeros ds ++ List.replicate k '0' := by
  refine ⟨(ds.reverse.takeWhile (· == '0')).length, ?_⟩
  have zeros : ds.reverse.takeWhile (· == '0') =
      List.replicate (ds.reverse.takeWhile (· == '0')).length '0' := by
    apply List.eq_replicate_of_mem
    intro c hc
    simpa using List.mem_takeWhile_imp hc
  have whole := congrArg List.reverse (List.takeWhile_append_dropWhile (p := (· == '0')) (l := ds.reverse))
  rw [List.reverse_append, List.reverse_reverse] at whole
  conv_lhs => rw [← whole, zeros, List.reverse_replicate]
  rfl

theorem denotes_positional {ds : List Char} (all : IsDigits ds) (nonempty : ds ≠ []) (lead : Int) :
    Denotes (positional ds lead) ((ofDigits ds : Rat) * 10 ^ (lead + 1 - ds.length)) := by
  have ten : (10 : Rat) ≠ 0 := by norm_num
  unfold positional
  split
  · rename_i negative
    have d := denotes_point ['0'] _ (by simp [IsDigits, isDigit]) (by simp)
      (isDigits_append (isDigits_zeros (-lead - 1).toNat) all)
    rw [show ['0'] ++ (List.replicate (-lead - 1).toNat '0' ++ ds) =
      List.replicate ((-lead - 1).toNat + 1) '0' ++ ds by simp [List.replicate_succ],
      ofDigits_zeros_append] at d
    convert d using 3
    · rfl
    · simp only [List.length_append, List.length_replicate]
      omega
  · simp only
    split
    · rename_i short
      have d := denotes_point _ ['0']
        (isDigits_append all (isDigits_zeros (lead.toNat + 1 - ds.length))) (by simp [nonempty])
        (by simp [IsDigits, isDigit])
      rw [show ds ++ List.replicate (lead.toNat + 1 - ds.length) '0' ++ ['0'] =
        ds ++ List.replicate (lead.toNat + 1 - ds.length + 1) '0' by
          rw [List.append_assoc, ← List.replicate_succ'], ofDigits_append_zeros] at d
      convert d using 1
      rw [Nat.cast_mul, Nat.cast_pow, Nat.cast_ofNat, mul_assoc, ← zpow_natCast,
        ← zpow_add₀ ten]
      congr 2
      simp only [List.length_singleton]
      omega
    · rename_i _ long
      have d := denotes_point (ds.take (lead.toNat + 1)) (ds.drop (lead.toNat + 1))
        (fun c hc => all c (List.mem_of_mem_take hc)) (by simp [nonempty])
        (fun c hc => all c (List.mem_of_mem_drop hc))
      rw [List.take_append_drop] at d
      convert d using 3
      simp only [List.length_drop]
      omega

theorem denotes_scientific {ds : List Char} (all : IsDigits ds) (nonempty : ds ≠ []) (lead : Int)
    (plusSign : Bool) :
    Denotes (scientific plusSign ds lead) ((ofDigits ds : Rat) * 10 ^ (lead + 1 - ds.length)) := by
  obtain ⟨d, fraction, rfl⟩ := List.exists_cons_of_ne_nil nonempty
  have h := denotes_exponent [d] fraction
    (by intro c hc; exact all c (by simp_all)) (by simp)
    (fun c hc => all c (List.mem_cons_of_mem d hc)) lead plusSign
  have layout : scientific plusSign (d :: fraction) lead =
      [d] ++ (if fraction.isEmpty then [] else '.' :: fraction) ++
        'e' :: ((if lead < 0 then ['-'] else if plusSign then ['+'] else []) ++ digits lead.natAbs) := by
    cases fraction <;> simp [scientific]
  rw [layout]
  convert h using 3
  · rfl
  · rw [List.length_cons]
    omega

theorem denotes_ofDecimal (layout : Layout) {d : Decimal} (positive : d.digits ≠ 0) :
    Denotes (layout.ofDecimal d) d.value := by
  obtain ⟨k, whole⟩ := trimZeros_append (digits d.digits)
  have all : IsDigits (trimZeros (digits d.digits)) := by
    intro c hc
    apply isDigits_digits d.digits
    rw [whole]
    exact List.mem_append_left _ hc
  have number : ofDigits (trimZeros (digits d.digits)) * 10 ^ k = d.digits := by
    rw [← ofDigits_append_zeros, ← whole, ofDigits_digits]
  have nonempty : trimZeros (digits d.digits) ≠ [] := by
    intro empty
    rw [empty] at number
    simp [ofDigits] at number
    exact positive number.symm
  have length := congrArg List.length whole
  rw [List.length_append, List.length_replicate] at length
  have value : d.value = (ofDigits (trimZeros (digits d.digits)) : Rat) *
      10 ^ (d.exponent + (digits d.digits).length - 1 + 1 - (trimZeros (digits d.digits)).length) := by
    rw [Decimal.value_eq]
    conv_lhs => rw [← number]
    rw [Nat.cast_mul, Nat.cast_pow, Nat.cast_ofNat, mul_assoc, ← zpow_natCast,
      ← zpow_add₀ (by norm_num)]
    congr 2
    omega
  unfold ofDecimal
  simp only
  rw [value]
  split
  · exact denotes_positional all nonempty _
  · exact denotes_scientific all nonempty _ _

theorem denotes_ofMagnitude (layout : Layout) (rank : Fin (infinityRank + 1)) :
    ∃ x, Denotes (layout.ofMagnitude rank) x ∧
      ∀ negative, Double.ofMagnitude negative x = .number negative rank := by
  unfold ofMagnitude
  split
  · rename_i zero
    have d := denotes_point ['0'] ['0'] (by simp [IsDigits, isDigit])
      (by simp) (by simp [IsDigits, isDigit])
    rw [show ofDigits (['0'] ++ ['0']) = 0 from rfl, Nat.cast_zero, zero_mul] at d
    refine ⟨0, d, fun negative => ?_⟩
    have first : rank = ⟨0, Nat.succ_pos _⟩ := Fin.ext zero
    rw [Double.ofMagnitude_zero, first, Double.zero]
  · rename_i positive
    refine ⟨(Decimal.shortest layout.tie rank).value, denotes_ofDecimal layout ?_,
      fun negative => Decimal.ofMagnitude_shortest negative layout.tie rank⟩
    -- a row of no digits has the value zero, which is nearest to no other rank
    intro none
    have h := Decimal.ofMagnitude_shortest false layout.tie rank
    rw [Decimal.value_eq, none, Nat.cast_zero, zero_mul, Double.ofMagnitude_zero, Double.zero,
      Double.number.injEq] at h
    exact positive (congrArg Fin.val h.2).symm

theorem isFinite_number (negative : Bool) (rank : Fin (infinityRank + 1)) :
    (Double.number negative rank).isFinite = decide (rank.val ≠ infinityRank) := by
  by_cases infinite : rank.val = infinityRank <;> simp [Double.isFinite, Double.value?, infinite]

theorem integer_text (i : Int64) :
    (Scalar.integer i).text.toList = signed (decide (i.toInt < 0)) (digits i.toInt.natAbs) := by
  by_cases h : i.toInt < 0 <;> simp [Scalar.text, intText, Numeral.text, signed, h]

theorem double_text (negative : Bool) {rank : Fin (infinityRank + 1)} (finite : rank.val ≠ infinityRank) :
    (Scalar.double (.number negative rank)).text.toList =
      signed negative (Scalar.displayLayout.ofMagnitude rank) := by
  simp [Scalar.text, Scalar.doubleText, finite]

theorem infinity_text (negative : Bool) {rank : Fin (infinityRank + 1)}
    (infinite : rank.val = infinityRank) :
    (Scalar.double (.number negative rank)).text.toList = signed negative ['i', 'n', 'f'] := by
  simp [Scalar.text, Scalar.doubleText, infinite]

/-- A finite double reads back from its text. -/
theorem takeNumber_double {x : Double} (finite : x.isFinite = true) {s : List Char}
    (ends : EndsNumber s) :
    ∃ w, takeNumber? ((Scalar.double x).text.toList ++ s) = some (w, s) ∧
      numberValue w = .double x := by
  cases x with
  | nan => cases finite
  | number negative rank =>
    rw [isFinite_number, decide_eq_true_eq] at finite
    obtain ⟨x, denotes, nearest⟩ := denotes_ofMagnitude Scalar.displayLayout rank
    obtain ⟨w, read, sign, notWhole, value⟩ := denotes.read negative s ends
    refine ⟨w, ?_, ?_⟩
    · rw [double_text negative finite]
      exact read
    · simp [numberValue, notWhole, WrittenNumber.nearestDouble, Decimal.toDouble_eq, value, sign,
        nearest]

/-- An integer reads back from its text. -/
theorem takeNumber_integer (i : Int64) {s : List Char} (ends : EndsNumber s) :
    ∃ w, takeNumber? ((Scalar.integer i).text.toList ++ s) = some (w, s) ∧
      numberValue w = .integer i := by
  refine ⟨⟨decide (i.toInt < 0), digits i.toInt.natAbs, none, none⟩, ?_, ?_⟩
  · rw [integer_text]
    exact takeNumber_signed _ (takeSign_digits (isDigits_digits _) (digits_ne_nil _))
      (takeMantissa_whole (isDigits_digits _) (digits_ne_nil _) ends.noDigit ends.noPoint)
      (takeExponent_none ends)
  · have value : (⟨decide (i.toInt < 0), digits i.toInt.natAbs, none, none⟩ :
        WrittenNumber).signedWhole = i.toInt := by
      simp only [WrittenNumber.signedWhole, ofDigits_digits, decide_eq_true_eq]
      split <;> omega
    have inside : -power 2 63 ≤ i.toInt ∧ i.toInt < power 2 63 := ⟨i.le_toInt, i.toInt_lt⟩
    simp only [numberValue, WrittenNumber.isWhole, Option.isNone_none, Bool.and_self, if_true,
      value, int64?, if_pos inside, Int64.ofInt_toInt]

end Lexeme
end PathQuery
