import Mathlib
import PathQuery.Proofs.Decimal.Monotone
import PathQuery.Scalar.Order

/-! The natural order of values is lawful up to rounding. It can be turned around and is reflexive; values
of one type other than numbers are ordered by a lawful order of their own. Numbers are ordered by their
nearest doubles as soon as a double is involved, and by themselves otherwise. Main statement: a chain of
three breaks exactly where two different integers round to the double that is the third. -/
namespace PathQuery.Scalar

/-- The first value does not come behind the second. -/
def AtMost (a b : Scalar) : Prop := a.compare? b = some .lt ∨ a.compare? b = some .eq

/-- What a lawful order says of `a` and `c` if `a` is at most `b` and `b` at most `c`. -/
def Chains (a b c : Scalar) : Prop :=
  AtMost a c ∧ (a.compare? c = some .eq ↔ a.compare? b = some .eq ∧ b.compare? c = some .eq)

/-- Two different integers that both round to a double. -/
def RoundTogether (i j : Int64) (x : Double) : Prop :=
  i ≠ j ∧ Double.compare (.ofInt i.toInt) x = .eq ∧ Double.compare (.ofInt j.toInt) x = .eq

/-- Two different integers and, in any place, the double to which they round. -/
def Blurs : Scalar → Scalar → Scalar → Prop
  | integer i, integer j, double x | integer i, double x, integer j | double x, integer i, integer j =>
    RoundTogether i j x
  | _, _, _ => False

section Comparators

instance : Std.TransCmp Double.compare := inferInstanceAs (Std.TransCmp (compareOn Double.key))

instance : Std.TransCmp Timestamp.compare :=
  inferInstanceAs (Std.TransCmp (compareLex (compareOn Timestamp.seconds) (compareOn Timestamp.nanos)))

instance : Std.TransCmp Guid.compare :=
  inferInstanceAs (Std.TransCmp (compareOn fun g : Guid => g.bits.toNat))

instance : Std.TransCmp TimeSpan.compare := inferInstanceAs (Std.TransCmp (compareOn TimeSpan.total))

/-- Shorter rows of bytes come first. -/
def compareBytes : List UInt8 → List UInt8 → Ordering := compareLex (compareOn List.length) Ord.compare

instance : Std.TransCmp compareBytes :=
  inferInstanceAs (Std.TransCmp (compareLex (compareOn List.length) Ord.compare))

end Comparators

/-- Values of one type that are compared with each other by `cmp`, and with no others. -/
structure IsKind {α : Type} (make : α → Scalar) (cmp : α → α → Ordering) : Prop where
  within (x y : α) : (make x).compare? (make y) = some (cmp x y)
  closed (x : α) (b : Scalar) : (make x).compare? b = none ∨ ∃ y, b = make y

theorem isKind_null : IsKind (fun _ : Unit => null) fun _ _ => .eq :=
  ⟨fun _ _ => rfl, fun _ b => by cases b <;> first | exact .inl rfl | exact .inr ⟨(), rfl⟩⟩

theorem isKind_boolean : IsKind boolean Ord.compare :=
  ⟨fun _ _ => rfl, fun _ b => by cases b <;> first | exact .inl rfl | exact .inr ⟨_, rfl⟩⟩

theorem isKind_string : IsKind string Ord.compare :=
  ⟨fun _ _ => rfl, fun _ b => by cases b <;> first | exact .inl rfl | exact .inr ⟨_, rfl⟩⟩

theorem isKind_date : IsKind date Timestamp.compare :=
  ⟨fun _ _ => rfl, fun _ b => by cases b <;> first | exact .inl rfl | exact .inr ⟨_, rfl⟩⟩

theorem isKind_bytes : IsKind bytes compareBytes :=
  ⟨fun _ _ => rfl, fun _ b => by cases b <;> first | exact .inl rfl | exact .inr ⟨_, rfl⟩⟩

theorem isKind_guid : IsKind guid Guid.compare :=
  ⟨fun _ _ => rfl, fun _ b => by cases b <;> first | exact .inl rfl | exact .inr ⟨_, rfl⟩⟩

theorem isKind_uri : IsKind uri Ord.compare :=
  ⟨fun _ _ => rfl, fun _ b => by cases b <;> first | exact .inl rfl | exact .inr ⟨_, rfl⟩⟩

theorem isKind_timeSpan : IsKind timeSpan TimeSpan.compare :=
  ⟨fun _ _ => rfl, fun _ b => by cases b <;> first | exact .inl rfl | exact .inr ⟨_, rfl⟩⟩

namespace IsKind

variable {α : Type} {make : α → Scalar} {cmp : α → α → Ordering} (kind : IsKind make cmp)
include kind

theorem atMost_iff (x y : α) : AtMost (make x) (make y) ↔ (cmp x y).isLE = true := by
  unfold AtMost
  rw [kind.within]
  cases cmp x y <;> simp

theorem exists_of_atMost {x : α} {b : Scalar} (ordered : AtMost (make x) b) : ∃ y, b = make y := by
  rcases kind.closed x b with none | same
  · rcases ordered with h | h <;> exact absurd (none.symm.trans h) (by simp)
  · exact same

theorem chains [Std.TransCmp cmp] {x : α} {b c : Scalar} (ab : AtMost (make x) b) (bc : AtMost b c) :
    Chains (make x) b c := by
  obtain ⟨y, rfl⟩ := kind.exists_of_atMost ab
  obtain ⟨z, rfl⟩ := kind.exists_of_atMost bc
  rw [kind.atMost_iff] at ab bc
  unfold Chains
  rw [kind.atMost_iff]
  simp only [kind.within, Option.some.injEq]
  refine ⟨Std.TransCmp.isLE_trans ab bc, ?_, ?_⟩
  · intro same
    -- the middle value lies between two equal ones
    have ca : cmp z x = .eq := Std.OrientedCmp.eq_symm same
    have cb : (cmp z y).isLE = true := Std.TransCmp.isLE_trans (Ordering.isLE_of_eq_eq ca) ab
    have ba : (cmp y x).isLE = true := Std.TransCmp.isLE_trans bc (Ordering.isLE_of_eq_eq ca)
    exact ⟨Std.OrientedCmp.isLE_antisymm ab ba, Std.OrientedCmp.isLE_antisymm bc cb⟩
  · rintro ⟨same, same'⟩
    exact Std.TransCmp.eq_trans same same'

end IsKind

instance : Std.TransCmp fun _ _ : Unit => Ordering.eq where
  eq_swap := rfl
  isLE_trans _ _ := rfl

section Numbers

theorem atMost_of_compare {a b : Scalar} {m n : Int} (compared : a.compare? b = some (Ord.compare m n)) :
    AtMost a b ↔ m ≤ n := by
  rw [AtMost, compared, ← Int.isLE_compare]
  cases Ord.compare m n <;> simp

theorem eq_of_compare {a b : Scalar} {m n : Int} (compared : a.compare? b = some (Ord.compare m n)) :
    a.compare? b = some .eq ↔ m = n := by
  rw [compared, Option.some.injEq, Int.compare_eq_eq]

theorem compare_key (x y : Double) : x.compare y = .eq ↔ x.key = y.key := by
  rw [Double.compare, Int.compare_eq_eq]

theorem roundTogether_iff (i j : Int64) (x : Double) :
    RoundTogether i j x ↔
      i.toInt ≠ j.toInt ∧ (Double.ofInt i.toInt).key = x.key ∧ (Double.ofInt j.toInt).key = x.key := by
  rw [RoundTogether, compare_key, compare_key, Ne, Ne, ← Int64.toInt_inj]

/-- Three numbers, each pair of which is compared by integers of its own. -/
theorem chains_of_compare {a b c : Scalar} {m n m' n' m'' n'' : Int} {broken : Prop}
    (compared : a.compare? b = some (Ord.compare m n)) (compared' : b.compare? c = some (Ord.compare m' n'))
    (compared'' : a.compare? c = some (Ord.compare m'' n'')) (ab : AtMost a b) (bc : AtMost b c)
    (keys : m ≤ n → m' ≤ n' → (m'' ≤ n'' ∧ (m'' = n'' ↔ m = n ∧ m' = n') ↔ ¬broken)) :
    Chains a b c ↔ ¬broken := by
  rw [Chains, atMost_of_compare compared'', eq_of_compare compared, eq_of_compare compared',
    eq_of_compare compared'']
  exact keys ((atMost_of_compare compared).mp ab) ((atMost_of_compare compared').mp bc)

theorem isNumber_of_atMost {a b : Scalar} (ab : AtMost a b) (number : a.asDouble?.isSome = true) :
    (∃ i, b = integer i) ∨ ∃ x, b = double x := by
  cases a <;> cases b <;> simp_all [AtMost, compare?, asDouble?]

theorem chains_number {a b c : Scalar} (ab : AtMost a b) (bc : AtMost b c)
    (number : (∃ i, a = integer i) ∨ ∃ x, a = double x) : Chains a b c ↔ ¬Blurs a b c := by
  have mono (i j : Int64) (le : i.toInt ≤ j.toInt) :
      (Double.ofInt i.toInt).key ≤ (Double.ofInt j.toInt).key := Double.key_ofInt_mono le
  rcases number with ⟨i, rfl⟩ | ⟨x, rfl⟩
  · rcases isNumber_of_atMost ab rfl with ⟨j, rfl⟩ | ⟨y, rfl⟩
    · rcases isNumber_of_atMost bc rfl with ⟨k, rfl⟩ | ⟨z, rfl⟩
      · refine chains_of_compare rfl rfl rfl ab bc fun ij jk => iff_of_true ?_ id
        omega
      · refine chains_of_compare rfl rfl rfl ab bc fun ij jz => ?_
        have := mono i j ij
        have := mono j i
        simp only [Blurs, roundTogether_iff]
        omega
    · rcases isNumber_of_atMost bc rfl with ⟨k, rfl⟩ | ⟨z, rfl⟩
      · refine chains_of_compare rfl rfl rfl ab bc fun iy yk => ?_
        have := mono k i
        simp only [Blurs, roundTogether_iff]
        omega
      · refine chains_of_compare rfl rfl rfl ab bc fun iy yz => iff_of_true ?_ id
        omega
  · rcases isNumber_of_atMost ab rfl with ⟨j, rfl⟩ | ⟨y, rfl⟩
    · rcases isNumber_of_atMost bc rfl with ⟨k, rfl⟩ | ⟨z, rfl⟩
      · refine chains_of_compare rfl rfl rfl ab bc fun xj jk => ?_
        have := mono j k jk
        have := mono k j
        simp only [Blurs, roundTogether_iff]
        omega
      · refine chains_of_compare rfl rfl rfl ab bc fun xj jz => iff_of_true ?_ id
        omega
    · rcases isNumber_of_atMost bc rfl with ⟨k, rfl⟩ | ⟨z, rfl⟩
      · refine chains_of_compare rfl rfl rfl ab bc fun xy yk => iff_of_true ?_ id
        omega
      · refine chains_of_compare rfl rfl rfl ab bc fun xy yz => iff_of_true ?_ id
        omega

end Numbers

theorem chains_iff {a b c : Scalar} (ab : AtMost a b) (bc : AtMost b c) :
    Chains a b c ↔ ¬Blurs a b c := by
  cases a with
  | integer i => exact chains_number ab bc (.inl ⟨i, rfl⟩)
  | double x => exact chains_number ab bc (.inr ⟨x, rfl⟩)
  | null => exact iff_of_true (isKind_null.chains (x := ()) ab bc) id
  | boolean => exact iff_of_true (isKind_boolean.chains ab bc) id
  | string => exact iff_of_true (isKind_string.chains ab bc) id
  | date => exact iff_of_true (isKind_date.chains ab bc) id
  | bytes => exact iff_of_true (isKind_bytes.chains ab bc) id
  | guid => exact iff_of_true (isKind_guid.chains ab bc) id
  | uri => exact iff_of_true (isKind_uri.chains ab bc) id
  | timeSpan => exact iff_of_true (isKind_timeSpan.chains ab bc) id

theorem compare_swap (a b : Scalar) : b.compare? a = (a.compare? b).map Ordering.swap := by
  cases a <;> cases b
  case boolean.boolean | integer.integer | string.string | uri.uri =>
    exact congrArg some Std.OrientedOrd.eq_swap
  case integer.double | double.integer | double.double | date.date | guid.guid | timeSpan.timeSpan =>
    exact congrArg some Std.OrientedCmp.eq_swap
  case bytes.bytes a b =>
    have swap : compareBytes b a = (compareBytes a b).swap := Std.OrientedCmp.eq_swap
    exact congrArg some swap
  all_goals rfl

theorem compare_self (a : Scalar) : a.compare? a = some .eq := by
  cases a with
  | null => rfl
  | boolean | integer | string | uri => exact congrArg some Std.ReflOrd.compare_self
  | double | date | guid | timeSpan => exact congrArg some Std.ReflCmp.compare_self
  | bytes bs =>
    have same : compareBytes bs bs = .eq := Std.ReflCmp.compare_self
    exact congrArg some same

theorem strictEq_iff (a b : Scalar) : a.strictEq b = true ↔ a.compare? b = some .eq := by
  simp [strictEq]

/-- Integers of at most 53 bits are held exactly. -/
theorem large_of_roundTogether {i j : Int64} {x : Double} (together : RoundTogether i j x) :
    power 2 53 < i.toInt.natAbs ∨ power 2 53 < j.toInt.natAbs := by
  obtain ⟨different, first, second⟩ := (roundTogether_iff i j x).mp together
  by_contra small
  rw [not_or, not_lt, not_lt] at small
  exact different (Double.key_ofInt_inj small.1 small.2 (first.trans second.symm))

/-- The natural order can be turned around, is reflexive, and a chain of three values is lawful exactly
unless two of them are different integers that round to the third. So strict equality is an equivalence up
to such rounding, which integers of at most 53 bits are not subject to. -/
theorem compare_lawful (a b c : Scalar) :
    b.compare? a = (a.compare? b).map Ordering.swap ∧
    a.compare? a = some .eq ∧
    (AtMost a b → AtMost b c → (Chains a b c ↔ ¬Blurs a b c)) ∧
    a.strictEq a = true ∧
    a.strictEq b = b.strictEq a ∧
    (a.strictEq b = true → b.strictEq c = true → (a.strictEq c = true ↔ ¬Blurs a b c)) ∧
    ∀ i j x, RoundTogether i j x → power 2 53 < i.toInt.natAbs ∨ power 2 53 < j.toInt.natAbs := by
  refine ⟨compare_swap a b, compare_self a, chains_iff, (strictEq_iff a a).mpr (compare_self a), ?_, ?_,
    fun _ _ _ => large_of_roundTogether⟩
  · rw [Bool.eq_iff_iff, strictEq_iff, strictEq_iff, compare_swap a b]
    cases a.compare? b with
    | none => simp
    | some o => cases o <;> simp
  · intro ab bc
    rw [strictEq_iff] at ab bc ⊢
    rw [← chains_iff (.inr ab) (.inr bc)]
    unfold Chains
    constructor
    · intro ac
      exact ⟨.inr ac, fun _ => ⟨ab, bc⟩, fun _ => ac⟩
    · rintro ⟨_, same⟩
      exact same.mpr ⟨ab, bc⟩

/-- A double between two integers, neither of which rounds to it; and two integers that round to a
double. -/
theorem compare_lawful_interleaved :
    Chains (integer 9007199254740991) (double (.ofInt 9007199254740994)) (integer 9007199254740997) ∧
    (integer 7).strictEq (double (.ofInt 7)) = true ∧
    power 2 53 < (9007199254740993 : Int64).toInt.natAbs := by
  have below : AtMost (integer 9007199254740991) (double (.ofInt 9007199254740994)) :=
    .inl (by decide +kernel)
  have above : AtMost (double (.ofInt 9007199254740994)) (integer 9007199254740997) :=
    .inl (by decide +kernel)
  have unequal : Double.compare (.ofInt (9007199254740991 : Int64).toInt) (.ofInt 9007199254740994) ≠
      .eq := by decide +kernel
  have together : RoundTogether 9007199254740993 9007199254740992 (.ofInt 9007199254740992) :=
    ⟨by decide, by decide +kernel, by decide +kernel⟩
  obtain ⟨-, -, chained, -, -, -, large⟩ := compare_lawful (integer 9007199254740991)
    (double (.ofInt 9007199254740994)) (integer 9007199254740997)
  obtain ⟨-, -, -, -, -, same, -⟩ := compare_lawful (integer 7) (integer 7) (double (.ofInt 7))
  refine ⟨(chained below above).mpr fun blurs => unequal blurs.2.1, ?_, ?_⟩
  · refine (same (by decide) (by decide +kernel)).mpr ?_
    rintro ⟨different, -⟩
    exact different rfl
  · exact (large _ _ _ together).resolve_right (by decide)

/-- Two different integers are each strictly equal to the double between them, but not to each other. -/
theorem compare_blurred :
    (integer 9007199254740993).compare? (double (.ofInt 9007199254740992)) = some .eq ∧
    (double (.ofInt 9007199254740992)).compare? (integer 9007199254740992) = some .eq ∧
    (integer 9007199254740993).compare? (integer 9007199254740992) = some .gt := by
  refine ⟨?_, ?_, ?_⟩ <;> decide +kernel

end PathQuery.Scalar
