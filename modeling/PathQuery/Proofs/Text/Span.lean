import Mathlib.Data.List.Induction
import Mathlib.Tactic.Ring
import PathQuery.Text.Numeral

/-! Splitting a text where a kind of character ends, and the numbers that rows of digits denote when
rows are joined or filled up with zeros. -/
namespace PathQuery

/-- The text does not begin with a character of the kind. -/
def StopsAt (p : Char → Bool) (s : List Char) : Prop := ∀ c ∈ s.head?, p c = false

@[simp] theorem stopsAt_nil (p : Char → Bool) : StopsAt p [] := by
  intro c hc
  cases hc

@[simp] theorem stopsAt_cons {p : Char → Bool} {c : Char} {s : List Char} :
    StopsAt p (c :: s) ↔ p c = false := by
  simp [StopsAt]

theorem takeWhile_stop {p : Char → Bool} {s : List Char} (stop : StopsAt p s) :
    s.takeWhile p = [] := by
  cases s with
  | nil => rfl
  | cons c s => simp [stopsAt_cons.mp stop]

theorem dropWhile_stop {p : Char → Bool} {s : List Char} (stop : StopsAt p s) :
    s.dropWhile p = s := by
  cases s with
  | nil => rfl
  | cons c s => simp [stopsAt_cons.mp stop]

theorem takeWhile_span {p : Char → Bool} {a s : List Char} (all : ∀ c ∈ a, p c = true)
    (stop : StopsAt p s) : (a ++ s).takeWhile p = a := by
  rw [List.takeWhile_append_of_pos all, takeWhile_stop stop, List.append_nil]

theorem dropWhile_span {p : Char → Bool} {a s : List Char} (all : ∀ c ∈ a, p c = true)
    (stop : StopsAt p s) : (a ++ s).dropWhile p = s := by
  rw [List.dropWhile_append_of_pos all, dropWhile_stop stop]

/-- Every text is a run of characters of a kind and a text that does not begin with one. -/
theorem exists_span (p : Char → Bool) (s : List Char) :
    ∃ a b, s = a ++ b ∧ (∀ c ∈ a, p c = true) ∧ StopsAt p b := by
  induction s with
  | nil => exact ⟨[], [], rfl, by simp, stopsAt_nil p⟩
  | cons c s ih =>
    by_cases kind : p c = true
    · obtain ⟨a, b, rfl, all, stop⟩ := ih
      exact ⟨c :: a, b, rfl, List.forall_mem_cons.mpr ⟨kind, all⟩, stop⟩
    · exact ⟨[], c :: s, rfl, by simp, stopsAt_cons.mpr (by simpa using kind)⟩

/-- The first place of a character splits a text in one way. -/
theorem append_cons_unique {c : Char} {a b s t : List Char} (ha : c ∉ a) (hb : c ∉ b)
    (same : a ++ c :: s = b ++ c :: t) : a = b ∧ s = t := by
  have front : ∀ x : List Char, c ∉ x → ∀ y, (x ++ c :: y).takeWhile (· ≠ c) = x := by
    intro x absent y
    refine takeWhile_span (fun d mem => decide_eq_true ?_) (stopsAt_cons.mpr (by simp))
    rintro rfl
    exact absent mem
  have fronts : a = b := by rw [← front a ha s, same, front b hb t]
  subst fronts
  exact ⟨rfl, (List.cons.inj (List.append_cancel_left same)).2⟩

namespace Numeral

theorem digits_ne_nil (n : Nat) : digits n ≠ [] := by
  rw [digits]
  split <;> simp

theorem ofDigits_append (a b : List Char) :
    ofDigits (a ++ b) = ofDigits a * 10 ^ b.length + ofDigits b := by
  induction b using List.reverseRecOn with
  | nil => simp [ofDigits]
  | append_singleton b c ih =>
    rw [← List.append_assoc, ofDigits_append_one, ofDigits_append_one, ih, List.length_append,
      List.length_singleton, Nat.pow_succ]
    ring

theorem ofDigits_zeros (k : Nat) : ofDigits (List.replicate k '0') = 0 := by
  induction k with
  | zero => rfl
  | succ k ih => simpa [ofDigits, List.replicate_succ, digitValue] using ih

theorem ofDigits_zeros_append (k : Nat) (ds : List Char) :
    ofDigits (List.replicate k '0' ++ ds) = ofDigits ds := by
  rw [ofDigits_append, ofDigits_zeros, Nat.zero_mul, Nat.zero_add]

theorem ofDigits_append_zeros (ds : List Char) (k : Nat) :
    ofDigits (ds ++ List.replicate k '0') = ofDigits ds * 10 ^ k := by
  rw [ofDigits_append, ofDigits_zeros, List.length_replicate, Nat.add_zero]

theorem isDigit_of_mem_zeros {k : Nat} {c : Char} (h : c ∈ List.replicate k '0') :
    isDigit c = true := by
  rw [List.eq_of_mem_replicate h]
  rfl

theorem length_digits_le {n width : Nat} (positive : 0 < width) (small : n < 10 ^ width) :
    (digits n).length ≤ width := by
  induction width generalizing n with
  | zero => cases positive
  | succ width ih =>
    rw [digits]
    split
    · simp
    · have further : 0 < width := by
        rcases Nat.eq_zero_or_pos width with rfl | further
        · omega
        · exact further
      have fewer : (digits (n / 10)).length ≤ width := ih further (by rw [Nat.pow_succ] at small; omega)
      rw [List.length_append, List.length_singleton]
      omega

/-- Only the number zero begins with a zero. -/
theorem digits_head_ne_zero {n : Nat} (positive : 0 < n) : (digits n).head? ≠ some '0' := by
  induction n using Nat.strongRecOn with
  | _ n ih =>
    rw [digits]
    split
    · rename_i single
      have others : ∀ d ∈ List.range 10, 0 < d → digitChar d ≠ '0' := by decide
      simpa using others n (List.mem_range.mpr single) positive
    · have front := ih (n / 10) (by omega) (by omega)
      obtain ⟨c, cs, text⟩ := List.exists_cons_of_ne_nil (digits_ne_nil (n / 10))
      rw [text] at front ⊢
      exact front

/-- A row of exactly `width` digits that denotes `n`. -/
structure Spells (width n : Nat) (cs : List Char) : Prop where
  length : cs.length = width
  digits : ∀ c ∈ cs, isDigit c = true
  value : ofDigits cs = n

theorem spells_padded {width n : Nat} (positive : 0 < width) (small : n < 10 ^ width) :
    Spells width n (padded width n).toList := by
  have fits := length_digits_le positive small
  rw [padded, String.toList_ofList]
  refine ⟨?_, fun c mem => ?_, ?_⟩
  · rw [List.length_append, List.length_replicate]
    omega
  · rcases List.mem_append.mp mem with mem | mem
    · exact isDigit_of_mem_zeros mem
    · exact isDigit_of_mem_digits mem
  · rw [ofDigits_zeros_append, ofDigits_digits]

end Numeral
end PathQuery
