import Mathlib.Data.Set.Function
import PathQuery.Proofs.Document.Twin

/-! Documents that differ in the numbers of their nodes only. A document that holds nothing but JSON and the
one made of its value are such a pair: the copy numbers the nodes in document order, whatever the order in
which the original got them. -/
namespace PathQuery

/-- The kind with other numbers for the nodes that it records. -/
def Kind.renamed (f : Nat → Nat) : Kind → Kind
  | object members => object (members.map fun m => (m.1, f m.2))
  | array items => array (items.map f)
  | constructor name items => constructor name (items.map f)
  | property name => property name
  | value v => value v

namespace Document

/-- `f` takes each node of one document to one of the other, and all of a node but its line goes with it:
its kind with name, value and record, and its links. -/
structure Isomorphism (doc doc' : Document) (f : Nat → Nat) : Prop where
  bijective : Set.BijOn f (Set.Iio doc.size) (Set.Iio doc'.size)
  root : f root = root
  kind {n : Nat} : n < doc.size → doc'.kind (f n) = (doc.kind n).renamed f
  parent {n : Nat} : n < doc.size → doc'.parent? (f n) = (doc.parent? n).map f
  previous {n : Nat} : n < doc.size → doc'.previous? (f n) = (doc.previous? n).map f
  next {n : Nat} : n < doc.size → doc'.next? (f n) = (doc.next? n).map f
  first {n : Nat} : n < doc.size → doc'.first? (f n) = (doc.first? n).map f
  last {n : Nat} : n < doc.size → doc'.last? (f n) = (doc.last? n).map f

/-- The place of a node in document order, in which the root is first. -/
def rank (doc : Document) (n : Nat) : Nat := (root :: doc.descendants root).idxOf n

section Neighbours

variable {doc : Document} {before : Option Nat} {cs : List Nat}

theorem row_next_getElem (row : doc.Row before cs) {i c : Nat} (here : cs[i]? = some c) :
    doc.next? c = cs[i + 1]? := by
  induction row generalizing i with
  | nil => simp at here
  | @cons before c' cs _ next _ ih =>
    cases i with
    | zero =>
      obtain rfl : c' = c := by simpa using here
      simpa [List.head?_eq_getElem?] using next
    | succ i => simpa using ih (by simpa using here)

theorem row_previous_getElem (row : doc.Row before cs) {i c : Nat} (here : cs[i]? = some c) :
    doc.previous? c = (before :: cs.map some)[i]?.join := by
  induction row generalizing i with
  | nil => simp at here
  | @cons before c' cs previous _ _ ih =>
    cases i with
    | zero =>
      obtain rfl : c' = c := by simpa using here
      simpa using previous
    | succ i => simpa using ih (by simpa using here)

end Neighbours

/-- Every node but the root is in a row of children. -/
theorem Linked.exists_position {doc : Document} (linked : Linked doc) {n : Nat} (inside : n < doc.size)
    (other : n ≠ root) :
    ∃ p i : Nat, p < doc.size ∧ doc.parent? n = some p ∧ (doc.children p)[i]? = some n := by
  obtain ⟨p, older, parent⟩ := linked.parent n (Nat.pos_of_ne_zero other) inside
  obtain ⟨i, here⟩ := List.mem_iff_getElem?.mp (linked.child_of_parent parent)
  exact ⟨p, i, Nat.lt_trans older inside, parent, here⟩

namespace Arena

variable {doc : Document} (arena : Arena doc)
include arena

/-- The record of an object says no more than its children do. -/
theorem members_eq {n : Nat} {members : Array (String × Nat)} (kind : doc.kind n = .object members) :
    members.toList = (doc.children n).map fun c => ((doc.propertyName? c).getD "", c) := by
  rw [(arena.consistent.object kind).1, List.map_map]
  refine ((List.map_congr_left fun m mem => ?_).trans (List.map_id' members.toList)).symm
  simp [(arena.toLinked.named_of_mem kind mem).2]

end Arena

/-- What is made of a JSON value is numbered in document order. -/
theorem Arena.order_ofJson {json : Json} (keyed : json.isKeyed = true) :
    root :: (Document.ofJson json).descendants root = List.range (Document.ofJson json).size := by
  have count : (Document.ofJson json).size = (Document.ofJson json).size - 1 + 1 :=
    (Nat.sub_add_cancel (Document.ofJson json).nonempty).symm
  rw [(Arena.ofJson keyed).toLinked.descendants_eq, preorder_ofJson keyed, List.range_eq_range', count,
    List.range'_succ]
  rfl

namespace SameJson

variable {doc doc' : Document} (same : SameJson doc doc' root root)
include same

theorem twin_lt {m m' : Nat} (twin : Twin doc doc' root root m m') : m < doc.size := by
  cases twin with
  | start => exact doc.nonempty
  | child _ here _ => exact (same.arena.toLinked.child_lt (List.mem_of_getElem? here)).2

section Renaming

variable {f : Nat → Nat} (twin : ∀ n < doc.size, Twin doc doc' root root n (f n)) {n : Nat}
include twin

theorem eq_of_twin {m m' : Nat} (other : Twin doc doc' root root m m') : f m = m' :=
  same.unique (twin m (same.twin_lt other)) other

theorem renamed_root : f root = root := same.eq_of_twin twin .start

variable (inside : n < doc.size)
include inside

theorem children_renamed : doc'.children (f n) = (doc.children n).map f := by
  have rows : List.Forall₂ (fun c c' => f c = c') (doc.children n) (doc'.children (f n)) :=
    (same.children (twin n inside)).imp fun c c' inner => same.eq_of_twin twin inner
  have equal : List.Forall₂ Eq ((doc.children n).map f) (doc'.children (f n)) :=
    List.forall₂_map_left_iff.mpr rows
  rw [List.forall₂_eq_eq_eq] at equal
  exact equal.symm

theorem first_renamed : doc'.first? (f n) = (doc.first? n).map f := by
  rw [same.arena'.toLinked.first, same.arena.toLinked.first, ← same.arena'.toLinked.children_eq,
    ← same.arena.toLinked.children_eq, same.children_renamed twin inside, List.head?_map]

theorem last_renamed : doc'.last? (f n) = (doc.last? n).map f := by
  rw [same.arena'.consistent.last, same.arena.consistent.last, same.children_renamed twin inside,
    List.getLast?_map]

theorem parent_renamed : doc'.parent? (f n) = (doc.parent? n).map f := by
  by_cases top : n = root
  · subst top
    rw [same.renamed_root twin, same.arena'.rootParent, same.arena.rootParent]
    rfl
  · obtain ⟨p, i, above, parent, here⟩ := same.arena.toLinked.exists_position inside top
    have child : f n ∈ doc'.children (f p) := by
      rw [same.children_renamed twin above]
      exact List.mem_map_of_mem (List.mem_of_getElem? here)
    rw [parent, (same.arena'.toLinked.mem_children.mp child).2]
    rfl

/-- The neighbours of a node are those beside its position. -/
theorem neighbours_renamed :
    doc'.next? (f n) = (doc.next? n).map f ∧ doc'.previous? (f n) = (doc.previous? n).map f := by
  by_cases top : n = root
  · subst top
    rw [same.renamed_root twin, same.arena'.rootNext, same.arena.rootNext, same.arena'.rootPrevious,
      same.arena.rootPrevious]
    exact ⟨rfl, rfl⟩
  · obtain ⟨p, i, above, _, here⟩ := same.arena.toLinked.exists_position inside top
    have children := same.children_renamed twin above
    have there : (doc'.children (f p))[i]? = some (f n) := by simp [children, here]
    have row := same.arena.toLinked.row p
    have row' := same.arena'.toLinked.row (f p)
    rw [← same.arena.toLinked.children_eq] at row
    rw [← same.arena'.toLinked.children_eq] at row'
    constructor
    · rw [row_next_getElem row here, row_next_getElem row' there, children, List.getElem?_map]
    · rw [row_previous_getElem row here, row_previous_getElem row' there, children]
      cases i with
      | zero => rfl
      | succ i =>
        simp only [List.getElem?_cons_succ, List.getElem?_map]
        cases (doc.children p)[i]? <;> rfl

theorem kind_renamed : doc'.kind (f n) = (doc.kind n).renamed f := by
  have alike := same.alike (twin n inside)
  have children := same.children_renamed twin inside
  have type := alike.nodeType
  rw [nodeType, nodeType] at type
  cases kind : doc.kind n with
  | property name =>
    have named : doc.propertyName? n = some name := by simp [propertyName?, kind]
    exact kind_property (alike.name ▸ named)
  | value v =>
    have value := alike.value
    cases kind' : doc'.kind (f n) with
    | value => simpa [value?, kind, kind', Kind.renamed] using value.symm
    | _ => simp [kind, kind', Kind.nodeType] at type
  | constructor =>
    have json := same.isJson n
    simp [kind, Kind.isJson] at json
  | array items =>
    cases kind' : doc'.kind (f n) with
    | array items' =>
      rw [same.arena.consistent.array kind, same.arena'.consistent.array kind'] at children
      simpa [Kind.renamed, ← Array.toList_inj] using children
    | _ => simp [kind, kind', Kind.nodeType] at type
  | object members =>
    cases kind' : doc'.kind (f n) with
    | object members' =>
      have names : ∀ c ∈ doc.children n, doc'.propertyName? (f c) = doc.propertyName? c := by
        intro c child
        exact (same.alike (twin c (same.arena.toLinked.child_lt child).2)).name.symm
      simp only [Kind.renamed, Kind.object.injEq, ← Array.toList_inj, Array.toList_map,
        same.arena'.members_eq kind', same.arena.members_eq kind, children, List.map_map]
      apply List.map_congr_left
      intro c child
      simp [names c child]
    | _ => simp [kind, kind', Kind.nodeType] at type

end Renaming

variable (numbered : root :: doc'.descendants root = List.range doc'.size)
include numbered

/-- The nodes of both documents in document order. -/
theorem order_rows :
    List.Forall₂ (Twin doc doc' root root) (root :: doc.descendants root) (List.range doc'.size) := by
  rw [← numbered, same.arena.toLinked.descendants_eq, same.arena'.toLinked.descendants_eq]
  exact .cons .start (same.preorder .start)

theorem twin_rank {n : Nat} (inside : n < doc.size) : Twin doc doc' root root n (doc.rank n) := by
  have mem : n ∈ root :: doc.descendants root := by
    rw [same.arena.toLinked.descendants_eq, List.mem_cons, same.arena.toLinked.preorder_root.mem_iff,
      List.mem_range'_1, root]
    omega
  have here : (root :: doc.descendants root)[doc.rank n]? = some n := List.getElem?_idxOf mem
  have there := rel_getElem (same.order_rows numbered) (doc.rank n)
  rw [here] at there
  generalize found : (List.range doc'.size)[doc.rank n]? = entry at there
  cases there with
  | some twin =>
    obtain ⟨_, same⟩ := List.getElem?_eq_some_iff.mp found
    simpa [← same] using twin

/-- The copy gives each node the number of its rank. -/
theorem isomorphism : Isomorphism doc doc' doc.rank := by
  have twin : ∀ n < doc.size, Twin doc doc' root root n (doc.rank n) :=
    fun n inside => same.twin_rank numbered inside
  constructor
  case bijective =>
    refine ⟨fun n inside => same.symm.twin_lt (twin n inside).symm, ?_, ?_⟩
    · intro n inside m within equal
      have back := (twin n inside).symm
      rw [equal] at back
      exact same.symm.unique back (twin m within).symm
    · intro m' inside
      have there := rel_getElem (same.order_rows numbered) m'
      rw [List.getElem?_range inside] at there
      generalize (root :: doc.descendants root)[m']? = entry at there
      cases there with
      | some found => exact ⟨_, same.twin_lt found, same.eq_of_twin twin found⟩
  case root => exact same.renamed_root twin
  case kind => exact same.kind_renamed twin
  case parent => exact same.parent_renamed twin
  case previous => exact fun inside => (same.neighbours_renamed twin inside).2
  case next => exact fun inside => (same.neighbours_renamed twin inside).1
  case first => exact same.first_renamed twin
  case last => exact same.last_renamed twin

end SameJson

/-- What is made of a JSON value has that value, less the whole numbers that become doubles; and what is
made of the value of a document that holds nothing but JSON is that document with other numbers. -/
theorem json_inverse :
    (∀ json : Json, json.isKeyed = true → json.isFinite = true →
      (ofJson json).toJson root = json.rounded) ∧
    ∀ doc, Reachable doc → IsJson doc → Isomorphism doc (ofJson (doc.toJson root)) doc.rank := by
  constructor
  · intro json keyed finite
    exact Arena.toJson_ofJson keyed finite
  · intro doc reachable isJson
    have arena := Arena.of_reachable reachable
    have numbered := Arena.order_ofJson (arena.toJson_keyed root)
    exact (sameJson_copy reachable isJson arena.rootPlain).isomorphism numbered

/-- The largest whole number that a JSON value can have. -/
def largest : Unsigned := ⟨18446744073709551615, by decide⟩

/-- One number of each kind, the last a negative zero. -/
def figures : Json :=
  .object [("max", .unsigned largest), ("rest", .array [.integer (-1), .double (.zero true)])]

theorem json_inverse_scattered :
    figures.isKeyed = true ∧ figures.isFinite = true ∧
    (ofJson figures).toJson root =
      .object [("max", .double largest.toDouble),
        ("rest", .array [.integer (-1), .double (.zero true)])] ∧
    Reachable scattered ∧ IsJson scattered ∧
    (List.range 7).map scattered.rank = [0, 1, 4, 2, 5, 6, 3] ∧
    Isomorphism scattered (ofJson (scattered.toJson root)) scattered.rank := by
  have keyed : figures.isKeyed = true := by decide
  have finite : figures.isFinite = true := by decide
  have reachable : Reachable scattered := (Reachable.root .array).run _
  have isJson : IsJson scattered := by
    intro n
    have size : scattered.size = 7 := by decide +kernel
    rcases Nat.lt_or_ge n 7 with inside | beyond
    · have all : ∀ n < 7, (scattered.kind n).isJson = true := by decide +kernel
      exact all n inside
    · rw [Document.kind, node_of_size_le (size ▸ beyond)]
      rfl
  refine ⟨keyed, finite, json_inverse.1 figures keyed finite, reachable, isJson, by cbv, ?_⟩
  exact json_inverse.2 scattered reachable isJson

end Document
end PathQuery
