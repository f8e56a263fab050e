import Mathlib
import PathQuery.Proofs.Select.Row

/-! The positions of a slice are those of Python's slices: bounds are made absolute and moved to the ends,
and from there a range of integers is run through. Main statements: the positions in closed form are that
range, they all exist, and finding them in 64 bits never overflows for rows of up to 2^62 items. -/
namespace PathQuery

namespace Slice

/-- Whether a position lies before the end of a range, in the direction of its stride. -/
def Before (stride stop i : Int) : Prop := 0 < stride ∧ i < stop ∨ stride < 0 ∧ stop < i

instance (stride stop i : Int) : Decidable (Before stride stop i) :=
  inferInstanceAs (Decidable (_ ∨ _))

/-- How far a position lies before the end of a range. -/
def distance (stride stop i : Int) : Nat :=
  if 0 < stride then (stop - i).toNat else (i - stop).toNat

theorem Before.distance_lt {stride stop i : Int} (before : Before stride stop i) :
    distance stride stop (i + stride) < distance stride stop i := by
  unfold Before at before
  unfold distance
  split <;> omega

/-- The integers from `i` on in strides of `stride`, as far as they lie before `stop`. -/
def range (stride stop i : Int) : List Int :=
  if Before stride stop i then i :: range stride stop (i + stride) else []
termination_by distance stride stop i
decreasing_by exact Before.distance_lt ‹_›

/-- The least position that a bound is moved to. -/
def lower (stride : Int) : Int := if stride < 0 then -1 else 0

/-- The greatest position that a bound is moved to. -/
def upper (count : Nat) (stride : Int) : Int := if stride < 0 then count - 1 else count

/-- A bound as a position; a negative one counts from the end. -/
def bound (count : Nat) (stride missing : Int) : Option Int32 → Int
  | none => missing
  | some i =>
    if i.toInt < 0 then max (i.toInt + count) (lower stride) else min i.toInt (upper count stride)

/-- The indices that Python's `range(*slice(start, stop, stride).indices(count))` runs through. -/
def indices (count : Nat) (start stop : Option Int32) (stride : Int) : List Int :=
  let (low, high) := (lower stride, upper count stride)
  range stride (bound count stride (if stride < 0 then low else high) stop)
    (bound count stride (if stride < 0 then high else low) start)

/-- A result of arithmetic in 64 bits, unless it overflows. -/
def exact64 (i : Int) : Option Int := if -power 2 63 ≤ i ∧ i < power 2 63 then some i else none

/-- A bound as a position; a missing one lies at `missing`. -/
def resolve64 (count missing : Int) : Option Int32 → Option Int
  | some i => if i.toInt < 0 then exact64 (count + i.toInt) else exact64 i.toInt
  | none => some missing

/-- The positions from `i` on; the one behind the last is found too. -/
def walk64 (stride stop i : Int) : Option (List Int) :=
  if Before stride stop i then do
    let _ ← exact64 (i + stride)
    let positions ← walk64 stride stop (i + stride)
    some (i :: positions)
  else some []
termination_by distance stride stop i
decreasing_by exact Before.distance_lt ‹_›

/-- The positions of a slice, found one after the other in 64 bits; nothing if a number on the way does
not fit. -/
def positions64 (count : Nat) (start stop : Option Int32) (stride : Int) : Option (List Int) := do
  let count ← exact64 count
  let back ← exact64 (count - 1)
  let stride ← exact64 stride
  let begins ← resolve64 count (if 0 < stride then 0 else back) start
  let ends ← resolve64 count (if 0 < stride then count else -1) stop
  walk64 stride (clamp (-1) count ends) (if 0 < stride then clamp 0 count begins else min back begins)

theorem range_of_not_before {stride stop i : Int} (reached : ¬Before stride stop i) :
    range stride stop i = [] := by
  rw [range, if_neg reached]

/-- A range depends on its end only as far as its start lies before it. -/
theorem range_congr {stride stop stop' i i' : Int} (nonempty : Before stride stop i ↔ Before stride stop' i')
    (same : Before stride stop i → i = i' ∧ stop = stop') : range stride stop i = range stride stop' i' := by
  by_cases before : Before stride stop i
  · obtain ⟨rfl, rfl⟩ := same before
    rfl
  · rw [range_of_not_before before, range_of_not_before (mt nonempty.mpr before)]

theorem mem_range {stride stop i j : Int} (mem : j ∈ range stride stop i) :
    0 < stride ∧ i ≤ j ∧ j < stop ∨ stride < 0 ∧ stop < j ∧ j ≤ i := by
  fun_induction range stride stop i with
  | case1 i before ih =>
    unfold Before at before
    rcases List.mem_cons.mp mem with rfl | mem
    · omega
    · have := ih mem
      omega
  | case2 => cases mem

/-- Strides of `d` lead into a stretch once more than into the stretch that is shorter by one. -/
theorem strides_succ {d x : Int} (positive : 0 < d) (some : 0 < x) :
    ((x - 1) / d + 1).toNat = (if 0 < x - d then ((x - d - 1) / d + 1).toNat else 0) + 1 := by
  split
  · rename_i further
    have step : x - 1 = x - d - 1 + d := by omega
    rw [step, Int.add_ediv_of_dvd_right (Int.dvd_refl d), Int.ediv_self (by omega)]
    have := Int.ediv_nonneg (a := x - d - 1) (b := d) (by omega) (by omega)
    omega
  · rw [Int.ediv_eq_zero_of_lt (by omega) (by omega)]
    rfl

/-- One position more fits in front if the first one lies before the end. -/
theorem length_of_before {stride stop i : Int} (before : Before stride stop i) :
    length i stop stride = length (i + stride) stop stride + 1 := by
  unfold length
  rcases before with ⟨forward, before⟩ | ⟨backward, before⟩
  · have rest : stop - (i + stride) = stop - i - stride := by omega
    rw [if_pos forward, if_pos before, if_pos forward, strides_succ forward (by omega), rest]
    exact congrArg (· + 1) (if_congr (by omega) rfl rfl)
  · have forward : ¬0 < stride := by omega
    have rest : i + stride - stop = i - stop - -stride := by omega
    rw [if_neg forward, if_pos before, if_neg forward, strides_succ (by omega) (by omega), rest]
    exact congrArg (· + 1) (if_congr (by omega) rfl rfl)

theorem length_of_not_before {stride stop i : Int} (moves : stride ≠ 0)
    (reached : ¬Before stride stop i) : length i stop stride = 0 := by
  unfold Before at reached
  unfold length
  split
  · rw [if_neg (by omega)]
  · rw [if_neg (by omega)]

/-- A range in closed form. -/
theorem range_eq {stride : Int} (moves : stride ≠ 0) (stop i : Int) :
    range stride stop i =
      (List.range (length i stop stride)).map fun (k : Nat) => i + (k : Int) * stride := by
  fun_induction range stride stop i with
  | case1 i before ih =>
    rw [ih, length_of_before before, List.range_succ_eq_map, List.map_cons, List.map_map]
    congr 1
    · simp
    · apply List.map_congr_left
      intro k _
      simp only [Function.comp, Nat.succ_eq_add_one, Int.natCast_add, Int.add_mul]
      omega
  | case2 i reached => rw [length_of_not_before moves reached, List.range_zero, List.map_nil]

/-- In 64 bits a range comes out as it is, if there is room for one stride behind each of its members. -/
theorem walk64_eq {stride stop i : Int}
    (room : ∀ j ∈ range stride stop i, exact64 (j + stride) = some (j + stride)) :
    walk64 stride stop i = some (range stride stop i) := by
  fun_induction range stride stop i with
  | case1 i before ih =>
    have rest := ih fun j mem => room j (List.mem_cons_of_mem i mem)
    rw [walk64, if_pos before, room i List.mem_cons_self, rest]
    rfl
  | case2 i reached => rw [walk64, if_neg reached]

section Bounds

variable (count : Nat) (start stop : Option Int32) {stride : Int}

/-- Bounds beyond the ends are not always moved to the same place, but where the places differ the range
is empty with both. -/
theorem range_first (moves : stride ≠ 0) :
    range stride (limit count stop stride) (first count start stride) =
      indices count start stop stride := by
  rcases Int.lt_or_gt_of_ne moves with backward | forward
  · have forward : ¬0 < stride := by omega
    simp only [indices, if_pos backward]
    apply range_congr
    all_goals
      simp only [limit, first, if_neg forward, Before]
      cases start <;> cases stop <;> simp only [resolve, bound, clamp, lower, upper, if_pos backward]
      all_goals omega
  · have backward : ¬stride < 0 := by omega
    simp only [indices, if_neg backward]
    apply range_congr
    all_goals
      simp only [limit, first, if_pos forward, Before]
      cases start <;> cases stop <;> simp only [resolve, bound, clamp, lower, upper, if_neg backward]
      all_goals omega

theorem positions_eq (moves : stride ≠ 0) :
    positions count start stop stride = (indices count start stop stride).map Int.toNat := by
  rw [← range_first count start stop moves, range_eq moves, List.map_map]
  rfl

theorem first_lt_count (backward : stride < 0) : first count start stride < count := by
  have forward : ¬0 < stride := by omega
  simp only [first, if_neg forward]
  omega

theorem first_nonneg (forward : 0 < stride) : 0 ≤ first count start stride := by
  simp only [first, if_pos forward, clamp]
  omega

theorem limit_bounds (stride : Int) :
    -1 ≤ limit count stop stride ∧ limit count stop stride ≤ count := by
  simp only [limit, clamp]
  omega

/-- Every index of a slice is one of a row of so many items. -/
theorem indices_bounds (moves : stride ≠ 0) {i : Int} (mem : i ∈ indices count start stop stride) :
    0 ≤ i ∧ i < count := by
  rw [← range_first count start stop moves] at mem
  have ends := limit_bounds count stop stride
  rcases mem_range mem with ⟨forward, from_, before⟩ | ⟨backward, before, from_⟩
  · have := first_nonneg count start forward
    omega
  · have := first_lt_count count start backward
    omega

end Bounds

section Machine

theorem toInt_bounds (i : Int32) : -power 2 31 ≤ i.toInt ∧ i.toInt < power 2 31 :=
  ⟨i.le_toInt, i.toInt_lt⟩

/-- Numbers of this size are far from overflowing. -/
theorem exact64_eq {i : Int} (low : -power 2 62 ≤ i) (high : i ≤ power 2 62 + power 2 31) :
    exact64 i = some i := by
  rw [exact64, if_pos]
  simp only [power] at low high ⊢
  omega

variable {count : Nat} (room : count ≤ power 2 62) (start stop : Option Int32) {stride : Int}
include room

theorem resolve64_eq (missing : Int) (bound : Option Int32) :
    resolve64 count missing bound = some (resolve count missing bound) := by
  cases bound with
  | none => rfl
  | some i =>
    have := toInt_bounds i
    simp only [power] at this room
    simp only [resolve64, resolve]
    split <;> exact exact64_eq (by simp only [power]; omega) (by simp only [power]; omega)

theorem positions64_eq (moves : stride ≠ 0)
    (small : -power 2 31 ≤ stride ∧ stride < power 2 31) :
    positions64 count start stop stride = some (indices count start stop stride) := by
  have walk : walk64 stride (limit count stop stride) (first count start stride) =
      some (indices count start stop stride) := by
    rw [← range_first count start stop moves]
    apply walk64_eq
    intro j mem
    rw [range_first count start stop moves] at mem
    have among := indices_bounds count start stop moves mem
    exact exact64_eq (by simp only [power] at *; omega) (by simp only [power] at *; omega)
  have whole : exact64 count = some (count : Int) :=
    exact64_eq (by simp only [power]; omega) (by simp only [power] at *; omega)
  have back : exact64 (count - 1) = some ((count : Int) - 1) :=
    exact64_eq (by simp only [power]; omega) (by simp only [power] at *; omega)
  have fits : exact64 stride = some stride :=
    exact64_eq (by simp only [power] at *; omega) (by simp only [power] at *; omega)
  simp only [positions64, whole, back, fits, resolve64_eq room, Option.bind_eq_bind, Option.bind_some]
  rw [← walk]
  simp only [first, limit]
  split <;> rfl

end Machine

end Slice

open Select

section Arrays

variable {doc : Document} {n : Nat} (array : doc.isArray n = true)
include array

theorem exists_item {i : Int} (within : 0 ≤ i ∧ i < doc.len n) : ∃ c, doc.item? n i.toNat = some c := by
  cases kind : doc.kind n with
  | array items =>
    simp only [Document.len, kind] at within
    simp only [Document.item?, kind]
    exact ⟨items[i.toNat], Array.getElem?_eq_getElem (by omega)⟩
  | object | constructor | property | value =>
    simp [Document.isArray, Document.nodeType, kind, Kind.nodeType] at array

theorem exists_items {is : List Int} (within : ∀ i ∈ is, 0 ≤ i ∧ i < doc.len n) :
    ∃ items : List Nat, is.map (fun i => doc.item? n i.toNat) = items.map some := by
  induction is with
  | nil => exact ⟨[], rfl⟩
  | cons i is ih =>
    obtain ⟨c, found⟩ := exists_item array (within i List.mem_cons_self)
    obtain ⟨items, rest⟩ := ih fun j mem => within j (List.mem_cons_of_mem i mem)
    exact ⟨c :: items, by simp [found, rest]⟩

theorem slice_eq {stride : Int} (moves : stride ≠ 0) (strict : Bool) (start stop : Option Int32)
    {items : List Nat}
    (found : (Slice.indices (doc.len n) start stop stride).map (fun i => doc.item? n i.toNat) =
      items.map some) :
    slice doc strict start stop stride n =
      if Slice.indices (doc.len n) start stop stride = [] then
        noMatch strict (.emptySlice start stop (doc.location n))
      else items.map .ok := by
  rw [slice, if_pos array, Slice.positions_eq _ start stop moves]
  have kept : ((Slice.indices (doc.len n) start stop stride).map Int.toNat).filterMap (doc.item? n) =
      items := by
    have same := congrArg (List.filterMap id) found
    rw [List.filterMap_map] at same ⊢
    simpa [Function.comp_def] using same
  cases indices : Slice.indices (doc.len n) start stop stride with
  | nil => rfl
  | cons i is =>
    rw [indices] at kept
    rw [if_neg (List.cons_ne_nil i is), ← kept]
    rfl

end Arrays

namespace Step

/-- A slice of an array selects the items at the indices of Python's slice, in their order. If there are
none, that is an error where nothing may be missed. In 64 bits the indices are found without an overflow. -/
theorem select_slice {doc : Document} {n : Nat} (array : doc.isArray n = true) (root : Nat)
    (start stop stride : Option Int32) (moves : stride ≠ some 0) :
    let indices := Slice.indices (doc.len n) start stop ((stride.map Int32.toInt).getD 1)
    (∀ i ∈ indices, 0 ≤ i ∧ i < doc.len n) ∧
    (∃ items : List Nat, indices.map (fun i => doc.item? n i.toNat) = items.map some ∧
      (slice start stop stride).select doc root false [.ok n] = items.map .ok ∧
      (slice start stop stride).select doc root true [.ok n] =
        if indices = [] then [.error (.emptySlice start stop (doc.location n))] else items.map .ok) ∧
    (doc.len n ≤ power 2 62 →
      Slice.positions64 (doc.len n) start stop ((stride.map Int32.toInt).getD 1) = some indices) := by
  have moves' : (stride.map Int32.toInt).getD 1 ≠ 0 := by
    cases stride with
    | none => decide
    | some s =>
      intro still
      exact moves (congrArg some (Int32.toInt_inj.mp still))
  have small : -power 2 31 ≤ (stride.map Int32.toInt).getD 1 ∧
      (stride.map Int32.toInt).getD 1 < power 2 31 := by
    cases stride with
    | none => decide
    | some s => exact Slice.toInt_bounds s
  have within := fun i mem => Slice.indices_bounds (doc.len n) start stop moves' (i := i) mem
  obtain ⟨items, found⟩ := exists_items array within
  have selected := fun strict => slice_eq array moves' strict start stop found
  refine ⟨within, ⟨items, found, ?_, ?_⟩, fun room => Slice.positions64_eq room start stop moves' small⟩
  · rw [Step.select, if_neg moves, each_ok, each_nil, List.append_nil, selected]
    split
    · rename_i empty
      rw [empty, List.map_nil, eq_comm, List.map_eq_nil_iff] at found
      rw [found]
      rfl
    · rfl
  · rw [Step.select, if_neg moves, each_ok, each_nil, List.append_nil, selected]
    rfl

/-- An array of the numbers from zero to four. -/
def five : Document := .ofJson (.array [.integer 0, .integer 1, .integer 2, .integer 3, .integer 4])

/-- Backwards from beyond the end to before the start. -/
theorem select_slice_backwards :
    five.isArray 0 = true ∧ (some (-2) : Option Int32) ≠ some 0 ∧ five.len 0 ≤ power 2 62 ∧
    Slice.indices (five.len 0) (some 9) (some (-9)) (-2) = [4, 2, 0] ∧
    (slice (some 9) (some (-9)) (some (-2))).select five 0 true [.ok 0] = [.ok 5, .ok 3, .ok 1] ∧
    Slice.positions64 (five.len 0) (some 9) (some (-9)) (-2) = some [4, 2, 0] := by
  have array : five.isArray 0 = true := by cbv
  have moves : (some (-2) : Option Int32) ≠ some 0 := by decide
  have room : five.len 0 ≤ power 2 62 := by cbv
  have indices : Slice.indices (five.len 0) (some 9) (some (-9)) (-2) = [4, 2, 0] := by cbv
  have all : [4, 2, 0].map (fun i : Int => five.item? 0 i.toNat) = [5, 3, 1].map some := by cbv
  obtain ⟨_, ⟨items, found, _, strict⟩, machine⟩ :=
    select_slice array 0 (some 9) (some (-9)) (some (-2)) moves
  have stride : ((some (-2) : Option Int32).map Int32.toInt).getD 1 = -2 := by decide
  rw [stride, indices] at found strict machine
  obtain rfl : items = [5, 3, 1] :=
    (List.map_inj_right fun _ _ => Option.some.inj).mp (found.symm.trans all)
  rw [if_neg (List.cons_ne_nil _ _)] at strict
  exact ⟨array, moves, room, indices, strict, machine room⟩

end Step
end PathQuery
