import Mathlib
import PathQuery.Proofs.Path.RoundTrip
import PathQuery.Proofs.Select.Row

/-! Steps that act on each candidate by itself. What such steps select from a row is what they select from
its nodes, put together in order. All steps that can be written do so, apart from a stride of zero, which
fails once for a whole row. -/
namespace PathQuery

namespace Select

/-- What comes out for a row is what comes out for its nodes; errors stay where they are. -/
def Pointwise (f : List Item → List Item) : Prop :=
  ∀ items, f items = each (fun n => f [.ok n]) items

theorem each_append (f : Nat → List Item) (a b : List Item) :
    each f (a ++ b) = each f a ++ each f b := List.flatMap_append

theorem each_each (f g : Nat → List Item) (items : List Item) :
    each g (each f items) = each (fun n => each g (f n)) items := by
  induction items with
  | nil => rfl
  | cons item items ih =>
    cases item with
    | ok n => rw [each_ok, each_append, ih, each_ok]
    | error e => rw [each_error, each_error, ih, each_error]

theorem pointwise_id : Pointwise fun items => items := by
  intro items
  induction items with
  | nil => rfl
  | cons item items ih =>
    cases item with
    | ok n => rw [each_ok, ← ih]; rfl
    | error e => rw [each_error, ← ih]

theorem pointwise_each (f : Nat → List Item) : Pointwise (each f) := by
  intro items
  have single : (fun n => each f [.ok n]) = f := by
    funext n
    rw [each_ok, each_nil, List.append_nil]
  rw [single]

theorem Pointwise.andThen {f g : List Item → List Item} (first : Pointwise f) (second : Pointwise g) :
    Pointwise fun items => g (f items) := by
  intro items
  calc
    g (f items) = each (fun n => g [.ok n]) (each (fun n => f [.ok n]) items) := by
      rw [second (f items), first items]
    _ = each (fun n => each (fun m => g [.ok m]) (f [.ok n])) items := each_each ..
    _ = each (fun n => g (f [.ok n])) items := by
      congr 1
      funext n
      exact (second (f [.ok n])).symm

end Select

open Select

section Steps

variable (doc : Document) (root : Nat) (strict : Bool)

theorem Step.select_pointwise {step : Step} (wellFormed : step.isWellFormed = true)
    (strides : ∀ start stop, step ≠ .slice start stop (some 0)) :
    Pointwise (step.select doc root strict) := by
  intro items
  cases step with
  | root | pipe | union => cases wellFormed
  | item index =>
    cases index with
    | none | some =>
      simp only [Step.select]
      exact pointwise_each _ items
  | slice start stop stride =>
    have stride : stride ≠ some 0 := by
      rintro rfl
      exact strides start stop rfl
    simp only [Step.select, if_neg stride]
    exact pointwise_each _ items
  | member | members | items | scan | scanNames | query | scanQuery =>
    simp only [Step.select]
    exact pointwise_each _ items

theorem selectSteps_append (a b : List Step) (items : List Item) :
    selectSteps doc root strict (a ++ b) items =
      selectSteps doc root strict b (selectSteps doc root strict a items) := by
  induction a generalizing items with
  | nil => rw [List.nil_append, selectSteps]
  | cons step a ih => rw [List.cons_append, selectSteps, selectSteps, ih]

/-- A run of steps inherits from each of them that candidates do not meet. -/
theorem selectSteps_pointwise {steps : List Step} (wellFormed : stepsWellFormed steps = true)
    (strides : ∀ start stop, .slice start stop (some 0) ∉ steps) :
    Pointwise (selectSteps doc root strict steps) := by
  induction steps with
  | nil =>
    have same : selectSteps doc root strict [] = fun items => items := by
      funext items
      rw [selectSteps]
    exact same ▸ pointwise_id
  | cons step steps ih =>
    simp only [stepsWellFormed, Bool.and_eq_true] at wellFormed
    have first : Pointwise (step.select doc root strict) := by
      refine Step.select_pointwise doc root strict wellFormed.1 ?_
      rintro start stop rfl
      exact strides start stop List.mem_cons_self
    have rest := ih wellFormed.2 fun start stop mem => strides start stop (List.mem_cons_of_mem _ mem)
    have both : selectSteps doc root strict (step :: steps) =
        fun items => selectSteps doc root strict steps (step.select doc root strict items) := by
      funext items
      rw [selectSteps]
    exact both ▸ first.andThen rest

/-- A stride of zero is all that comes of a path: what was selected before it is dropped, and what stands
behind it has no node to start from. -/
theorem selectSteps_zeroStride {steps : List Step} (wellFormed : stepsWellFormed steps = true)
    (zero : ∃ start stop, .slice start stop (some 0) ∈ steps) (items : List Item) :
    selectSteps doc root strict steps items = [.error .zeroStep] := by
  induction steps generalizing items with
  | nil =>
    obtain ⟨start, stop, mem⟩ := zero
    cases mem
  | cons step steps ih =>
    simp only [stepsWellFormed, Bool.and_eq_true] at wellFormed
    rw [selectSteps]
    by_cases later : ∃ start stop, .slice start stop (some 0) ∈ steps
    · exact ih wellFormed.2 later _
    · obtain ⟨start, stop, mem⟩ := zero
      obtain rfl : .slice start stop (some 0) = step :=
        (List.mem_cons.mp mem).resolve_right fun behind => later ⟨start, stop, behind⟩
      have rest := selectSteps_pointwise doc root strict wellFormed.2
        fun start stop behind => later ⟨start, stop, behind⟩
      rw [Step.select, if_pos rfl]
      exact rest [.error .zeroStep]

end Steps

namespace Path

/-- Following one path after another is following the second one from every node of the first. The first
may be any path. -/
theorem evaluate_append {text : String} {q : Path} (accepted : parse text = .ok q)
    (strides : ∀ start stop, .slice start stop (some 0) ∉ q.steps) (p : Path) (doc : Document)
    (root start : Nat) (strict : Bool) :
    evaluate doc ⟨p.steps ++ q.steps⟩ root start strict =
      each (fun n => q.evaluate doc root n strict) (p.evaluate doc root start strict) := by
  have pointwise := selectSteps_pointwise doc root strict (wellFormed_of_parse accepted) strides
  rw [evaluate, selectSteps_append]
  exact pointwise (p.evaluate doc root start strict)

/-- Two arrays and a number between them. -/
def mixed : Document :=
  .ofJson (.array [.array [.integer 1, .integer 2], .integer 3, .array [.integer 4]])

theorem evaluate_append_slices :
    parse "$[-1:]" = .ok ⟨[.slice (some (-1)) none none]⟩ ∧
    evaluate mixed ⟨[.item none, .slice (some (-1)) none none]⟩ 0 0 true =
      [.ok 3, .error (.sliceNotValid .value ⟨"[1]", none⟩), .ok 6] := by
  have accepted : parse "$[-1:]" = .ok ⟨[.slice (some (-1)) none none]⟩ := by cbv
  have first : evaluate mixed ⟨[.item none]⟩ 0 0 true = [.ok 1, .ok 4, .ok 5] := by cbv
  have joined := evaluate_append accepted (by simp) ⟨[.item none]⟩ mixed 0 0 true
  rw [first] at joined
  refine ⟨accepted, joined.trans ?_⟩
  cbv

end Path
end PathQuery
