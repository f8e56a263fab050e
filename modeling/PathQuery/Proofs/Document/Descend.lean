import Mathlib.Data.List.Perm.Subperm
import PathQuery.Document.Descend
import PathQuery.Proofs.Document.Preorder

/-! The walk along the links visits the nodes below its origin in document order, and then it ends. `Climb`
and `Tour` are the walk without the guards that make its computation end. -/
namespace PathQuery.Document

/-- The way up from a node to the next sibling, which stops at the origin. -/
inductive Climb (doc : Document) (origin : Nat) : Nat → Option Nat → Prop where
  | home : Climb doc origin origin none
  | sibling {n m : Nat} (away : n ≠ origin) (next : doc.next? n = some m) : Climb doc origin n (some m)
  | up {n p : Nat} {r : Option Nat} (away : n ≠ origin) (last : doc.next? n = none)
      (parent : doc.parent? n = some p) (rest : Climb doc origin p r) : Climb doc origin n r
  | out {n : Nat} (away : n ≠ origin) (last : doc.next? n = none) (orphan : doc.parent? n = none) :
      Climb doc origin n none

/-- The nodes from the next one on to the end of the walk. -/
inductive Tour (doc : Document) (origin : Nat) : Option Nat → List Nat → Prop where
  | over : Tour doc origin none []
  | down {n c : Nat} {rest : List Nat} (first : doc.first? n = some c)
      (onward : Tour doc origin (some c) rest) : Tour doc origin (some n) (n :: rest)
  | leaf {n : Nat} {next : Option Nat} {rest : List Nat} (first : doc.first? n = none)
      (climb : Climb doc origin n next) (onward : Tour doc origin next rest) :
      Tour doc origin (some n) (n :: rest)

namespace Linked

variable {doc : Document} (linked : Linked doc) {origin : Nat}
include linked

theorem climb_eq (origin n : Nat) : doc.climb origin n =
    if n = origin then none else (doc.next? n).or ((doc.parent? n).bind (doc.climb origin)) := by
  rw [climb]
  split
  · rfl
  cases doc.next? n with
  | some m => rfl
  | none =>
    cases parent : doc.parent? n with
    | none => rfl
    | some p => simp [linked.parent_lt parent]

theorem climb_climb (n : Nat) : doc.Climb origin n (doc.climb origin n) := by
  induction n using Nat.strongRecOn with
  | _ n ih =>
    rw [linked.climb_eq]
    by_cases here : n = origin
    · rw [if_pos here, here]
      exact .home
    rw [if_neg here]
    cases next : doc.next? n with
    | some m => exact .sibling here next
    | none =>
      cases parent : doc.parent? n with
      | none => exact .out here next parent
      | some p => exact .up here next parent (ih p (linked.parent_lt parent))

theorem climb_unique {n : Nat} {r : Option Nat} (climb : doc.Climb origin n r) :
    doc.climb origin n = r := by
  induction climb with
  | home => rw [linked.climb_eq, if_pos rfl]
  | sibling away next => rw [linked.climb_eq, if_neg away, next, Option.some_or]
  | up away last parent _ ih =>
    rw [linked.climb_eq, if_neg away, last, parent, Option.none_or, Option.bind_some, ih]
  | out away last orphan =>
    rw [linked.climb_eq, if_neg away, last, orphan]
    rfl

/-- The tour of a row of siblings: behind each of them comes what is below it, and behind the last one
the walk goes on as it does behind the parent. -/
theorem tour_row {p : Nat} {rest : List Nat} (behind : doc.Tour origin (doc.climb origin p) rest)
    {before : Option Nat} {c : Nat} {cs : List Nat} (row : doc.Row before (c :: cs))
    (away : ∀ d ∈ c :: cs, d ≠ origin) (parent : ∀ d ∈ c :: cs, doc.parent? d = some p)
    (inner : ∀ d ∈ c :: cs, ∀ rest, doc.Tour origin (doc.climb origin d) rest →
      doc.Tour origin (some d) (d :: (doc.preorder d ++ rest))) :
    doc.Tour origin (some c) ((c :: cs).flatMap (fun d => d :: doc.preorder d) ++ rest) := by
  induction cs generalizing before c with
  | nil =>
    cases row with
    | cons _ next _ =>
      have climb : doc.climb origin c = doc.climb origin p := by
        rw [linked.climb_eq, if_neg (away c List.mem_cons_self), next,
          parent c List.mem_cons_self, List.head?_nil, Option.none_or, Option.bind_some]
      have tour := inner c List.mem_cons_self rest (climb ▸ behind)
      simpa using tour
  | cons d ds ih =>
    cases row with
    | cons _ next row =>
      have climb : doc.climb origin c = some d := by
        rw [linked.climb_eq, if_neg (away c List.mem_cons_self), next, List.head?_cons,
          Option.some_or]
      have onward := ih row (fun e he => away e (List.mem_cons_of_mem c he))
        (fun e he => parent e (List.mem_cons_of_mem c he))
        (fun e he => inner e (List.mem_cons_of_mem c he))
      have tour := inner c List.mem_cons_self _ (climb ▸ onward)
      simpa using tour

theorem tour_below {n : Nat} (within : origin ≤ n) {rest : List Nat}
    (behind : doc.Tour origin (doc.climb origin n) rest) :
    doc.Tour origin (some n) (n :: (doc.preorder n ++ rest)) := by
  induction n using linked.child_induction generalizing rest with
  | step n ih =>
    have row := linked.row n
    have first := linked.first n
    have younger (c : Nat) (mem : c ∈ doc.children n) : origin < c :=
      Nat.lt_of_le_of_lt within (linked.child_lt mem).1
    rw [linked.preorder_eq]
    rw [← linked.children_eq] at row first
    cases children : doc.children n with
    | nil =>
      rw [children] at first
      exact .leaf first (linked.climb_climb n) behind
    | cons c cs =>
      rw [children] at row first younger ih
      refine .down first (linked.tour_row behind row ?_ ?_ ?_)
      · intro d mem
        exact Nat.ne_of_gt (younger d mem)
      · intro d mem
        exact (linked.mem_children.mp (children ▸ mem)).2
      · intro d mem rest behind
        exact ih d mem (Nat.le_of_lt (younger d mem)) behind

theorem tour_origin (n : Nat) : doc.Tour n (some n) (n :: doc.preorder n) := by
  have home : doc.climb n n = none := by rw [linked.climb_eq, if_pos rfl]
  have behind : doc.Tour n (doc.climb n n) [] := by
    rw [home]
    exact .over
  have tour := linked.tour_below (Nat.le_refl n) behind
  rwa [List.append_nil] at tour

/-- The computed walk follows the tour as long as its fuel lasts. -/
theorem walk_tour {n : Nat} {rest : List Nat} (tour : doc.Tour origin (some n) (n :: rest)) {fuel : Nat}
    (enough : rest.length ≤ fuel) : doc.walk origin fuel n = rest := by
  induction fuel generalizing n rest with
  | zero => rw [walk, List.length_eq_zero_iff.mp (Nat.le_zero.mp enough)]
  | succ fuel ih =>
    have onward : doc.Tour origin (doc.advance origin n) rest := by
      cases tour with
      | down first onward =>
        rw [advance, first]
        exact onward
      | leaf first climb onward =>
        rw [advance, first]
        exact linked.climb_unique climb ▸ onward
    rw [walk]
    cases next : doc.advance origin n with
    | none =>
      rw [next] at onward
      cases onward
      rfl
    | some m =>
      rw [next] at onward
      obtain ⟨rest, rfl⟩ : ∃ after, rest = m :: after := by
        cases onward with
        | down => exact ⟨_, rfl⟩
        | leaf => exact ⟨_, rfl⟩
      exact congrArg (m :: ·) (ih onward (by simpa using enough))

theorem preorder_length_le (n : Nat) : (doc.preorder n).length ≤ doc.size := by
  have subset : doc.preorder n ⊆ List.range doc.size := fun m mem =>
    List.mem_range.mpr (linked.preorder_lt mem).2
  have length := ((linked.preorder_nodup n).subperm subset).length_le
  rwa [List.length_range] at length

theorem descendants_eq (n : Nat) : doc.descendants n = doc.preorder n :=
  linked.walk_tour (linked.tour_origin n) (linked.preorder_length_le n)

end Linked

end PathQuery.Document
