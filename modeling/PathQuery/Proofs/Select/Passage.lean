import PathQuery.Proofs.Select.Row

/-! How the errors among the candidates get through a step. Most steps pass each of them on once, in its
place, beside what they select from the nodes. The root and a stride of zero start anew and drop them, and a
union passes them on once for each way through it. Main statement: the errors come out as often as there
are ways through the step, and so exactly once if there is exactly one. -/
namespace PathQuery

namespace Select

/-- `Mixed es row whole` says that `whole` is `row` with the errors `es` put in, in their order. -/
inductive Mixed : (es : List SelectError) → (row whole : List Item) → Prop where
  | nil : Mixed [] [] []
  | item {es : List SelectError} {row whole : List Item} (item : Item) (rest : Mixed es row whole) :
      Mixed es (item :: row) (item :: whole)
  | error {es : List SelectError} {row whole : List Item} (e : SelectError) (rest : Mixed es row whole) :
      Mixed (e :: es) row (.error e :: whole)

/-- The errors of a row in their order. -/
def errors : List Item → List SelectError
  | [] => []
  | .ok _ :: items => errors items
  | .error e :: items => e :: errors items

/-- A row without its errors. -/
def withoutErrors : List Item → List Item
  | [] => []
  | .ok n :: items => .ok n :: withoutErrors items
  | .error _ :: items => withoutErrors items

/-- So many copies of a list one after the other. -/
def copies {α : Type} (k : Nat) (as : List α) : List α := (List.replicate k as).flatten

section Copies

variable {α : Type} (as : List α)

@[simp] theorem copies_zero : copies 0 as = [] := rfl

@[simp] theorem copies_one : copies 1 as = as := by simp [copies]

theorem copies_add (k l : Nat) : copies (k + l) as = copies k as ++ copies l as := by
  simp [copies, ← List.replicate_append_replicate]

theorem copies_mul (k l : Nat) : copies (k * l) as = copies l (copies k as) := by
  induction l with
  | zero => rfl
  | succ l ih => rw [Nat.mul_succ, copies_add, ih, copies_add _ l 1, copies_one]

theorem length_copies (k : Nat) : (copies k as).length = k * as.length := by
  simp [copies]

end Copies

namespace Mixed

variable {es : List SelectError} {row whole : List Item}

theorem unmixed (row : List Item) : Mixed [] row row := by
  induction row with
  | nil => exact .nil
  | cons item row ih => exact .item item ih

theorem of_errors (items : List Item) : Mixed (errors items) (withoutErrors items) items := by
  induction items with
  | nil => exact .nil
  | cons item items ih =>
    cases item with
    | ok n => exact .item (.ok n) ih
    | error e => exact .error e ih

theorem length_eq (mixed : Mixed es row whole) : whole.length = row.length + es.length := by
  induction mixed with
  | nil => rfl
  | item item _ ih => simp [ih]; omega
  | error e _ ih => simp [ih]; omega

theorem append {es' : List SelectError} {row' whole' : List Item} (front : Mixed es row whole)
    (back : Mixed es' row' whole') : Mixed (es ++ es') (row ++ row') (whole ++ whole') := by
  induction front with
  | nil => exact back
  | item item _ ih => exact .item item ih
  | error e _ ih => exact .error e ih

/-- A choice for each node leaves the errors where they are. -/
theorem each (f : Nat → List Item) (mixed : Mixed es row whole) :
    Mixed es (each f row) (each f whole) := by
  induction mixed with
  | nil => exact .nil
  | item item _ ih =>
    cases item with
    | ok n => exact (unmixed (f n)).append ih
    | error e => exact .item (.error e) ih
  | error e _ ih => exact .error e ih

/-- Errors do not count as seen. -/
theorem distinct (mixed : Mixed es row whole) (seen : List Nat) :
    Mixed es (distinct seen row) (distinct seen whole) := by
  induction mixed generalizing seen with
  | nil => exact .nil
  | item item _ ih =>
    cases item with
    | ok n =>
      rw [Select.distinct, Select.distinct]
      split
      · exact ih seen
      · exact .item (.ok n) (ih (n :: seen))
    | error e => exact .item (.error e) (ih seen)
  | error e _ ih => exact .error e (ih seen)

end Mixed

end Select

open Select

mutual

/-- The number of ways in which an error gets through a step. -/
def Step.ways : Step → Nat
  | .root => 0
  | .slice _ _ stride => if stride = some 0 then 0 else 1
  | .pipe steps => waysThrough steps
  | .union steps => waysBeside steps
  | .member _ | .members _ | .item _ | .items _ | .scan _ | .scanNames _ | .query _ | .scanQuery _ => 1

/-- The ways through steps one after the other. -/
def waysThrough : List Step → Nat
  | [] => 1
  | step :: steps => step.ways * waysThrough steps

/-- The ways through any of the steps. -/
def waysBeside : List Step → Nat
  | [] => 0
  | step :: steps => step.ways + waysBeside steps

end

section Runs

variable (doc : Document) (root : Nat) (strict : Bool)

mutual

/-- One step: errors that are put into its candidates are put into what it selects, once for each way. -/
theorem Step.select_mixed (step : Step) {es : List SelectError} {row whole : List Item}
    (mixed : Mixed es row whole) : Mixed (copies step.ways es) (step.select doc root strict row)
      (step.select doc root strict whole) := by
  cases step with
  | root =>
    simp only [Step.select, Step.ways, copies_zero]
    exact .unmixed _
  | slice start stop stride =>
    simp only [Step.select, Step.ways]
    split
    · rw [copies_zero]
      exact .unmixed _
    · rw [copies_one]
      exact mixed.each _
  | item index =>
    cases index with
    | none | some =>
      simp only [Step.select, Step.ways, copies_one]
      exact mixed.each _
  | member | members | items | scan | scanNames | query | scanQuery =>
    simp only [Step.select, Step.ways, copies_one]
    exact mixed.each _
  | pipe steps =>
    simp only [Step.select, Step.ways]
    exact selectSteps_mixed steps mixed
  | union steps =>
    simp only [Step.select, Step.ways]
    exact (selectEach_mixed steps mixed).distinct []

theorem selectSteps_mixed (steps : List Step) {es : List SelectError} {row whole : List Item}
    (mixed : Mixed es row whole) : Mixed (copies (waysThrough steps) es)
      (selectSteps doc root strict steps row) (selectSteps doc root strict steps whole) := by
  cases steps with
  | nil =>
    simp only [selectSteps, waysThrough, copies_one]
    exact mixed
  | cons step steps =>
    simp only [selectSteps, waysThrough, copies_mul]
    exact selectSteps_mixed steps (Step.select_mixed step mixed)

theorem selectEach_mixed (steps : List Step) {es : List SelectError} {row whole : List Item}
    (mixed : Mixed es row whole) : Mixed (copies (waysBeside steps) es)
      (selectEach doc root strict steps row) (selectEach doc root strict steps whole) := by
  cases steps with
  | nil =>
    simp only [selectEach, waysBeside, copies_zero]
    exact .nil
  | cons step steps =>
    simp only [selectEach, waysBeside, copies_add]
    exact (Step.select_mixed step mixed).append (selectEach_mixed steps mixed)

end

end Runs

namespace Step

/-- What a step selects from a row is what it selects from the nodes of the row, with the errors of the
row put in once for each way through the step. So each error is passed on just once, and in order, if
there is one way; with any other number of ways every row with an error is a row where this fails. -/
theorem select_errors (step : Step) (doc : Document) (root : Nat) (strict : Bool)
    (current : List Item) :
    let own := step.select doc root strict (withoutErrors current)
    let selected := step.select doc root strict current
    Mixed (copies step.ways (errors current)) own selected ∧
    (Mixed (errors current) own selected ↔ step.ways = 1 ∨ errors current = []) := by
  have mixed := select_mixed doc root strict step (.of_errors current)
  refine ⟨mixed, ?_, ?_⟩
  · intro once
    have same := mixed.length_eq.symm.trans once.length_eq
    rw [length_copies, Nat.add_left_cancel_iff] at same
    rcases Nat.eq_zero_or_pos (errors current).length with none | some
    · exact .inr (List.length_eq_zero_iff.mp none)
    · exact .inl (Nat.eq_of_mul_eq_mul_right some (same.trans (Nat.one_mul _).symm))
  · rintro (one | none)
    · rwa [one, copies_one] at mixed
    · rw [none] at mixed ⊢
      rwa [copies, List.flatten_replicate_nil] at mixed

/-- An error is lost at the root and at a stride of zero, and comes out of a union of two names twice. -/
theorem errors_lost :
    .error .multipleNodes ∉ root.select (.ofRoot .array) 0 true [.error .multipleNodes] ∧
    .error .multipleNodes ∉
      (slice none none (some 0)).select (.ofRoot .array) 0 true [.error .multipleNodes] ∧
    (union [member (some "a"), member (some "b")]).select (.ofRoot .array) 0 true
      [.error .multipleNodes] = [.error .multipleNodes, .error .multipleNodes] := by
  refine ⟨?_, ?_, ?_⟩
  · simp [Step.select]
  · simp [Step.select]
  · simp [Step.select, selectEach, distinct]

end Step
end PathQuery
