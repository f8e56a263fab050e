import Mathlib.Data.List.Nodup
import Mathlib.Logic.Relation
import PathQuery.Proofs.Document.Tree

/-! The nodes below a node in document order, by recursion over the children. They are the nodes from which
the links to the parents lead to it, each once. -/
namespace PathQuery.Document

/-- Each child in order, and behind it what is below the child. Children are younger than their parents,
so the recursion ends. -/
def preorder (doc : Document) (n : Nat) : List Nat :=
  (doc.children n).flatMap fun c => if n < c ∧ c < doc.size then c :: preorder doc c else []
termination_by doc.size - n

/-- The links to the parents lead from `m` up to `n`. -/
def Below (doc : Document) (n m : Nat) : Prop :=
  Relation.TransGen (fun c p => doc.parent? c = some p) m n

namespace Linked

variable {doc : Document}

theorem child_of_parent (linked : Linked doc) {p c : Nat} (parent : doc.parent? c = some p) :
    c ∈ doc.children p := by
  have inside : c < doc.size := by
    by_contra beyond
    rw [parent?, node_of_size_le (Nat.le_of_not_lt beyond)] at parent
    cases parent
  exact linked.mem_children.mpr ⟨inside, parent⟩

theorem parent_of_first (linked : Linked doc) {p v : Nat} (first : doc.first? p = some v) :
    doc.parent? v = some p := by
  rw [linked.first] at first
  exact ((linked.child p v).mp (List.mem_of_head? first)).2

theorem child_lt (linked : Linked doc) {n c : Nat} (mem : c ∈ doc.children n) :
    n < c ∧ c < doc.size :=
  linked.listed_lt (linked.children_eq n ▸ mem)

/-- What a node inherits from its children holds of every node. -/
theorem child_induction (linked : Linked doc) {motive : Nat → Prop}
    (step : ∀ n, (∀ c ∈ doc.children n, motive c) → motive n) (n : Nat) : motive n := by
  induction rest : doc.size - n using Nat.strongRecOn generalizing n with
  | _ rest' ih =>
    subst rest
    apply step
    intro c mem
    have range := linked.child_lt mem
    exact ih (doc.size - c) (by omega) c rfl

theorem preorder_eq (linked : Linked doc) (n : Nat) :
    doc.preorder n = (doc.children n).flatMap fun c => c :: doc.preorder c := by
  rw [preorder]
  apply List.flatMap_congr
  intro c mem
  exact if_pos (linked.child_lt mem)

theorem mem_preorder (linked : Linked doc) {n m : Nat} :
    m ∈ doc.preorder n ↔ ∃ c ∈ doc.children n, m = c ∨ m ∈ doc.preorder c := by
  rw [linked.preorder_eq]
  simp

theorem below_lt (linked : Linked doc) {n m : Nat} (below : doc.Below n m) : n < m := by
  induction below with
  | single parent => exact linked.parent_lt parent
  | tail _ parent ih => exact Nat.lt_trans (linked.parent_lt parent) ih

theorem mem_preorder_iff (linked : Linked doc) {n m : Nat} : m ∈ doc.preorder n ↔ doc.Below n m := by
  constructor
  · induction n using linked.child_induction with
    | step n ih =>
      intro mem
      obtain ⟨c, child, here | deeper⟩ := linked.mem_preorder.mp mem
      · exact .single (here ▸ (linked.mem_children.mp child).2)
      · exact .tail (ih c child deeper) (linked.mem_children.mp child).2
  · intro below
    induction below with
    | single parent => exact linked.mem_preorder.mpr ⟨m, linked.child_of_parent parent, .inl rfl⟩
    | @tail c _ _ parent ih =>
      exact linked.mem_preorder.mpr ⟨c, linked.child_of_parent parent, .inr ih⟩

theorem preorder_lt (linked : Linked doc) {n m : Nat} (mem : m ∈ doc.preorder n) :
    n < m ∧ m < doc.size := by
  refine ⟨linked.below_lt (linked.mem_preorder_iff.mp mem), ?_⟩
  induction n using linked.child_induction with
  | step n ih =>
    obtain ⟨c, child, here | deeper⟩ := linked.mem_preorder.mp mem
    · exact here ▸ (linked.child_lt child).2
    · exact ih c child deeper

theorem parent_unique (doc : Document) : Relator.RightUnique (fun c p => doc.parent? c = some p) := by
  intro c p q hp hq
  rw [hp] at hq
  exact Option.some.inj hq

/-- A child is not above another one: the way up from there leads over the parent, which is older. -/
theorem siblings_apart (linked : Linked doc) {n c d : Nat} (hc : c ∈ doc.children n)
    (hd : d ∈ doc.children n)
    (above : Relation.ReflTransGen (fun c p => doc.parent? c = some p) c d) : c = d := by
  rcases Relation.ReflTransGen.cases_head above with same | ⟨p, parent, rest⟩
  · exact same
  · rw [(linked.mem_children.mp hc).2, Option.some.injEq] at parent
    subst parent
    have range := linked.child_lt hd
    rcases Relation.reflTransGen_iff_eq_or_transGen.mp rest with same | below
    · omega
    · have := linked.below_lt below
      omega

/-- The way up from a node is unique, so it passes one child of `n` at most. -/
theorem branch_unique (linked : Linked doc) {n c d m : Nat} (hc : c ∈ doc.children n)
    (hd : d ∈ doc.children n) (belowC : m ∈ c :: doc.preorder c) (belowD : m ∈ d :: doc.preorder d) :
    c = d := by
  have upward {b : Nat} (mem : m ∈ b :: doc.preorder b) :
      Relation.ReflTransGen (fun c p => doc.parent? c = some p) m b := by
    rcases List.mem_cons.mp mem with rfl | mem
    · exact .refl
    · exact (linked.mem_preorder_iff.mp mem).to_reflTransGen
  rcases Relation.ReflTransGen.total_of_right_unique (parent_unique doc) (upward belowC)
    (upward belowD) with above | above
  · exact linked.siblings_apart hc hd above
  · exact (linked.siblings_apart hd hc above).symm

theorem preorder_nodup (linked : Linked doc) (n : Nat) : (doc.preorder n).Nodup := by
  induction n using linked.child_induction with
  | step n ih =>
    rw [linked.preorder_eq, List.nodup_flatMap]
    constructor
    · intro c child
      refine List.nodup_cons.mpr ⟨fun mem => ?_, ih c child⟩
      exact Nat.lt_irrefl c (linked.preorder_lt mem).1
    · have distinct : (doc.children n).Nodup := linked.children_eq n ▸ linked.nodup n
      refine distinct.imp_of_mem ?_
      intro c d hc hd different m belowC belowD
      exact different (linked.branch_unique hc hd belowC belowD)

/-- All nodes but the root are below the root. -/
theorem below_root (linked : Linked doc) {m : Nat} (positive : 0 < m) (inside : m < doc.size) :
    doc.Below root m := by
  induction m using Nat.strongRecOn with
  | _ m ih =>
    obtain ⟨p, older, parent⟩ := linked.parent m positive inside
    rcases Nat.eq_zero_or_pos p with rfl | above
    · exact .single parent
    · exact .head parent (ih p older above (Nat.lt_trans older inside))

theorem preorder_root (linked : Linked doc) :
    (doc.preorder root).Perm (List.range' 1 (doc.size - 1)) := by
  refine (List.perm_ext_iff_of_nodup (linked.preorder_nodup root) List.nodup_range').mpr fun m => ?_
  rw [List.mem_range'_1]
  constructor
  · intro mem
    have range := linked.preorder_lt mem
    omega
  · intro range
    exact linked.mem_preorder_iff.mpr (linked.below_root (by omega) (by omega))

theorem below_child (linked : Linked doc) {n c : Nat} (child : c ∈ doc.children n) : doc.Below n c :=
  .single (linked.mem_children.mp child).2

theorem below_range (linked : Linked doc) {n m : Nat} (below : doc.Below n m) : n < m ∧ m < doc.size :=
  linked.preorder_lt (linked.mem_preorder_iff.mpr below)

end Linked

theorem Below.trans {doc : Document} {n m k : Nat} (upper : doc.Below n m) (lower : doc.Below m k) :
    doc.Below n k :=
  Relation.TransGen.trans lower upper

theorem below_iff_of_parent {doc : Document} {n c p : Nat} (parent : doc.parent? c = some p) :
    doc.Below n c ↔ p = n ∨ doc.Below n p := by
  constructor
  · intro below
    obtain ⟨q, above, rest⟩ := Relation.TransGen.head'_iff.mp below
    obtain rfl := Linked.parent_unique doc parent above
    rcases Relation.reflTransGen_iff_eq_or_transGen.mp rest with same | below
    · exact .inl same.symm
    · exact .inr below
  · rintro (rfl | below)
    · exact .single parent
    · exact .head parent below

namespace Arena

variable {doc : Document} (arena : Arena doc)
include arena

/-- A node stands for itself or for a node below it, and never for a property. -/
theorem childValue_below {c v : Nat} (value : doc.childValue? c = some v) :
    doc.isProperty v = false ∧ (v = c ∨ doc.Below c v) := by
  cases property : doc.isProperty c with
  | true =>
    obtain ⟨w, children, first, plain⟩ := arena.property_children property
    rw [childValue?, if_pos property, first, Option.some.injEq] at value
    subst value
    exact ⟨plain, .inr (arena.toLinked.below_child (by simp [children]))⟩
  | false =>
    rw [childValue_plain property, Option.some.injEq] at value
    exact ⟨value ▸ property, .inl value.symm⟩

theorem values_below {n v : Nat} (mem : v ∈ doc.values n) :
    doc.isProperty v = false ∧ doc.Below n v := by
  obtain ⟨c, child, value⟩ := List.mem_filterMap.mp mem
  have outer := arena.toLinked.below_child child
  obtain ⟨plain, rfl | inner⟩ := arena.childValue_below value
  · exact ⟨plain, outer⟩
  · exact ⟨plain, outer.trans inner⟩

/-- An object has a value under a name if a property of that name is its child and has the value. -/
theorem get_iff_parent {m v : Nat} {name : String} : doc.get? m name = some v ↔
    ∃ p, doc.parent? p = some m ∧ doc.propertyName? p = some name ∧ doc.first? p = some v := by
  rw [arena.get_eq_some_iff]
  constructor
  · rintro ⟨p, child, named, value⟩
    obtain ⟨w, children, first, _⟩ := arena.property_children (isProperty_of_name named)
    rw [value, List.cons.injEq] at children
    exact ⟨p, (arena.toLinked.mem_children.mp child).2, named, children.1 ▸ first⟩
  · rintro ⟨p, parent, named, value⟩
    obtain ⟨w, children, first, _⟩ := arena.property_children (isProperty_of_name named)
    rw [value, Option.some.injEq] at first
    exact ⟨p, arena.toLinked.child_of_parent parent, named, first ▸ children⟩

/-- A value has one property above it, which has one name and one object above it. -/
theorem get_unique {m k v : Nat} {name other : String} (found : doc.get? m name = some v)
    (also : doc.get? k other = some v) : m = k ∧ name = other := by
  obtain ⟨p, parent, named, value⟩ := arena.get_iff_parent.mp found
  obtain ⟨q, parent', named', value'⟩ := arena.get_iff_parent.mp also
  obtain rfl := Linked.parent_unique doc (arena.toLinked.parent_of_first value)
    (arena.toLinked.parent_of_first value')
  refine ⟨Linked.parent_unique doc parent parent', ?_⟩
  rw [named, Option.some.injEq] at named'
  exact named'

/-- Properties belong to objects. -/
theorem plain_of_property {p m : Nat} {name : String} (named : doc.propertyName? p = some name)
    (parent : doc.parent? p = some m) : doc.isProperty m = false := by
  obtain ⟨k, above, object⟩ := arena.property_parent (isProperty_of_name named)
  rw [parent, Option.some.injEq] at above
  subst above
  rw [isObject, decide_eq_true_eq] at object
  simp [isProperty, object]

end Arena

end PathQuery.Document
