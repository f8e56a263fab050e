import Mathlib
import PathQuery.Proofs.Select.Row

/-! Unions. What a union selects is what its parts select one after the other, less every node that came
before; errors are never the same and all stay. So the order of the parts decides where a node stands and
not whether it is there, and a part that comes again adds nothing but its errors. -/
namespace PathQuery

namespace Select

/-- The nodes of a row in their order. -/
def nodes (row : List Item) : List Nat := row.filterMap Except.toOption

/-- Whether the item at a position of a row is an error, or a node that stands at no earlier position. -/
def isFirst (row : List Item) (i : Nat) : Item → Bool
  | .ok n => !(nodes (row.take i)).contains n
  | .error _ => true

/-- A row without the nodes that stand at an earlier position too. -/
def firsts (row : List Item) : List Item :=
  (row.zipIdx.filter fun (item, i) => isFirst row i item).map Prod.fst

@[simp] theorem nodes_nil : nodes [] = [] := rfl

@[simp] theorem nodes_ok (n : Nat) (row : List Item) : nodes (.ok n :: row) = n :: nodes row := rfl

@[simp] theorem nodes_error (e : SelectError) (row : List Item) :
    nodes (.error e :: row) = nodes row := rfl

theorem nodes_append (a b : List Item) : nodes (a ++ b) = nodes a ++ nodes b := List.filterMap_append

theorem mem_nodes {row : List Item} {n : Nat} : n ∈ nodes row ↔ .ok n ∈ row := by
  induction row with
  | nil => simp
  | cons item row ih => cases item <;> simp [ih]

/-- It only matters which nodes were seen, not in which order or how often. -/
theorem distinct_congr {seen seen' : List Nat} (same : ∀ n, n ∈ seen ↔ n ∈ seen') (row : List Item) :
    distinct seen row = distinct seen' row := by
  induction row generalizing seen seen' with
  | nil => rfl
  | cons item row ih =>
    cases item with
    | ok n =>
      have more : ∀ m, m ∈ n :: seen ↔ m ∈ n :: seen' := by simp [same]
      simp only [distinct, List.contains_iff_mem, same n, ih same, ih more]
    | error e => rw [distinct, distinct, ih same]

theorem distinct_old {seen : List Nat} {n : Nat} (old : n ∈ seen) (row : List Item) :
    distinct seen (.ok n :: row) = distinct seen row := by
  rw [distinct, if_pos (List.contains_iff_mem.mpr old)]

theorem distinct_new {seen : List Nat} {n : Nat} (new : n ∉ seen) (row : List Item) :
    distinct seen (.ok n :: row) = .ok n :: distinct (n :: seen) row := by
  rw [distinct, if_neg (by rwa [List.contains_iff_mem])]

/-- Behind a row its nodes count as seen. -/
theorem distinct_append (a b : List Item) (seen : List Nat) :
    distinct seen (a ++ b) = distinct seen a ++ distinct (nodes a ++ seen) b := by
  induction a generalizing seen with
  | nil => rfl
  | cons item a ih =>
    cases item with
    | ok n =>
      rw [List.cons_append, nodes_ok]
      by_cases old : n ∈ seen
      · have same : ∀ m, m ∈ nodes a ++ seen ↔ m ∈ n :: nodes a ++ seen := by
          intro m
          by_cases here : m = n <;> simp [here, old]
        rw [distinct_old old, distinct_old old, ih, distinct_congr same]
      · have same : ∀ m, m ∈ nodes a ++ n :: seen ↔ m ∈ n :: nodes a ++ seen := by
          intro m
          simp only [List.cons_append, List.mem_append, List.mem_cons]
          exact or_left_comm
        rw [distinct_new old, distinct_new old, ih, List.cons_append, distinct_congr same]
    | error e => rw [List.cons_append, distinct, distinct, ih, nodes_error, List.cons_append]

/-- What has all its nodes in front of it and holds no error can be left out. -/
theorem distinct_again {a b : List Item} (known : ∀ item ∈ b, ∃ n ∈ nodes a, item = .ok n)
    (seen : List Nat) (c : List Item) : distinct seen (a ++ (b ++ c)) = distinct seen (a ++ c) := by
  rw [distinct_append, distinct_append a c]
  congr 1
  induction b with
  | nil => rfl
  | cons item b ih =>
    obtain ⟨n, old, rfl⟩ := known item List.mem_cons_self
    rw [List.cons_append, distinct_old (List.mem_append_left seen old)]
    exact ih fun item mem => known item (List.mem_cons_of_mem _ mem)

theorem mem_nodes_distinct {seen : List Nat} {row : List Item} {n : Nat} :
    n ∈ nodes (distinct seen row) ↔ n ∈ nodes row ∧ n ∉ seen := by
  induction row generalizing seen with
  | nil => simp [distinct]
  | cons item row ih =>
    cases item with
    | ok m =>
      by_cases old : m ∈ seen
      · rw [distinct_old old, ih, nodes_ok, List.mem_cons]
        have : n ∉ seen → n ≠ m := fun fresh same => fresh (same ▸ old)
        tauto
      · rw [distinct_new old, nodes_ok, nodes_ok, List.mem_cons, List.mem_cons, ih, List.mem_cons]
        have : n = m → n ∉ seen := fun same => same ▸ old
        tauto
    | error e => rw [distinct, nodes_error, nodes_error, ih]

theorem nodes_distinct_nodup (seen : List Nat) (row : List Item) :
    (nodes (distinct seen row)).Nodup := by
  induction row generalizing seen with
  | nil => exact List.nodup_nil
  | cons item row ih =>
    cases item with
    | ok n =>
      by_cases old : n ∈ seen
      · rw [distinct_old old]
        exact ih seen
      · rw [distinct_new old, nodes_ok, List.nodup_cons]
        refine ⟨?_, ih (n :: seen)⟩
        intro again
        exact (mem_nodes_distinct.mp again).2 List.mem_cons_self
    | error e =>
      rw [distinct, nodes_error]
      exact ih seen

/-- The search with a list of the nodes seen so far keeps what stands at a first position: in the middle of
a row the nodes in front of it are those that were seen. -/
theorem distinct_eq_filter (front row : List Item) :
    distinct (nodes front) row =
      ((row.zipIdx front.length).filter fun (item, i) => isFirst (front ++ row) i item).map Prod.fst := by
  induction row generalizing front with
  | nil => rfl
  | cons item row ih =>
    have rest := ih (front ++ [item])
    rw [List.append_assoc, List.singleton_append, List.length_append, List.length_singleton] at rest
    rw [List.zipIdx_cons]
    cases item with
    | ok n =>
      have first : isFirst (front ++ .ok n :: row) front.length (.ok n) = !(nodes front).contains n := by
        rw [isFirst, List.take_left]
      have seen : ∀ m, m ∈ nodes (front ++ [.ok n]) ↔ m ∈ n :: nodes front := by
        intro m
        rw [nodes_append, List.mem_append, List.mem_cons, or_comm, nodes_ok, nodes_nil,
          List.mem_singleton]
      by_cases old : n ∈ nodes front
      · have same : ∀ m, m ∈ nodes (front ++ [.ok n]) ↔ m ∈ nodes front := by
          intro m
          rw [seen, List.mem_cons, or_iff_right_of_imp]
          rintro rfl
          exact old
        rw [List.filter_cons_of_neg (by simpa [first] using old), distinct_old old, ← rest,
          distinct_congr same]
      · rw [List.filter_cons_of_pos (by simpa [first] using old), List.map_cons, distinct_new old, ← rest,
          distinct_congr seen]
    | error e =>
      have same : nodes (front ++ [.error e]) = nodes front := by
        rw [nodes_append, nodes_error, nodes_nil, List.append_nil]
      rw [List.filter_cons_of_pos rfl, List.map_cons, distinct, ← rest, same]

theorem distinct_eq_firsts (row : List Item) : distinct [] row = firsts row :=
  distinct_eq_filter [] row

end Select

open Select

section Parts

variable (doc : Document) (root : Nat) (strict : Bool)

theorem selectEach_eq (steps : List Step) (current : List Item) :
    selectEach doc root strict steps current =
      steps.flatMap fun step => step.select doc root strict current := by
  induction steps with
  | nil => rw [selectEach, List.flatMap_nil]
  | cons step steps ih => rw [selectEach, ih, List.flatMap_cons]

theorem union_eq (steps : List Step) (current : List Item) :
    (Step.union steps).select doc root strict current =
      distinct [] (steps.flatMap fun step => step.select doc root strict current) := by
  rw [Step.select, selectEach_eq]

theorem mem_union {steps : List Step} {current : List Item} {n : Nat} :
    n ∈ nodes ((Step.union steps).select doc root strict current) ↔
      ∃ step ∈ steps, n ∈ nodes (step.select doc root strict current) := by
  rw [union_eq, mem_nodes_distinct, mem_nodes, List.mem_flatMap]
  simp [mem_nodes]

end Parts

/-- A union selects what its parts select one after the other, without the nodes that came before. So it
selects no node twice, and those that any part selects, in whatever order the parts stand; and a part that
selects no error may come again. -/
theorem Step.select_union (doc : Document) (root : Nat) (strict : Bool) (current : List Item)
    (steps : List Step) :
    let selected := fun step : Step => step.select doc root strict current
    selected (union steps) = firsts (steps.flatMap selected) ∧
    (nodes (selected (union steps))).Nodup ∧
    (∀ n, n ∈ nodes (selected (union steps)) ↔ ∃ step ∈ steps, n ∈ nodes (selected step)) ∧
    (∀ before step between after, steps = before ++ step :: between ++ after →
      (∀ e, .error e ∉ selected step) →
        selected (union (before ++ step :: between ++ step :: after)) = selected (union steps)) ∧
    (∀ steps', steps.Perm steps' →
      ∀ n, n ∈ nodes (selected (union steps')) ↔ n ∈ nodes (selected (union steps))) := by
  refine ⟨?_, ?_, fun n => mem_union doc root strict, ?_, ?_⟩
  · exact (union_eq doc root strict steps current).trans (distinct_eq_firsts _)
  · simp only [union_eq]
    exact nodes_distinct_nodup [] _
  · rintro before step between after rfl sound
    simp only [union_eq, List.flatMap_append, List.flatMap_cons]
    refine distinct_again ?_ _ _
    intro item mem
    cases item with
    | ok n => exact ⟨n, by simp [nodes_append, mem_nodes.mpr mem], rfl⟩
    | error e => exact absurd mem (sound e)
  · intro steps' perm n
    simp only [mem_union, perm.mem_iff]

/-- An array of three. -/
def three : Document := .ofJson (.array [.integer 10, .integer 11, .integer 12])

/-- The node in the middle is all that the second part adds, and nothing is left for it to add where it comes
again, also not behind the error of the part for a position outside. -/
theorem Step.select_union_overlapping :
    let outside : Item := .error (.indexOutOfBounds 5 .array ⟨"", none⟩)
    (union [.items [2, 0], .item none, .item (some 5)]).select three 0 true [.ok 0] =
      [.ok 3, .ok 1, .ok 2, outside] ∧
    (union [.items [2, 0], .item none, .item (some 5), .item none]).select three 0 true [.ok 0] =
      [.ok 3, .ok 1, .ok 2, outside] ∧
    2 ∈ nodes ((union [.item (some 5), .item none, .items [2, 0]]).select three 0 true [.ok 0]) := by
  obtain ⟨_, _, _, again, permuted⟩ :=
    select_union three 0 true [.ok 0] [.items [2, 0], .item none, .item (some 5)]
  have selected : (union [.items [2, 0], .item none, .item (some 5)]).select three 0 true [.ok 0] =
      [.ok 3, .ok 1, .ok 2, .error (.indexOutOfBounds 5 .array ⟨"", none⟩)] := by cbv
  have all : (item none).select three 0 true [.ok 0] = [.ok 1, .ok 2, .ok 3] := by cbv
  refine ⟨selected, ?_, ?_⟩
  · rw [← selected]
    exact again [.items [2, 0]] (.item none) [.item (some 5)] [] rfl (by simp [all])
  · refine (permuted [.item (some 5), .item none, .items [2, 0]] ?_ 2).mpr ?_
    · exact (List.reverse_perm _).symm
    · simp [selected]

end PathQuery
