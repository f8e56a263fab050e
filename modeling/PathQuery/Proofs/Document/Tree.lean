import Mathlib.Data.List.Basic
import PathQuery.Proofs.Document.Reachable

/-! What the invariant means for those who walk a document: the links between siblings, the records of
containers and the links to the parent all show one and the same tree. -/
namespace PathQuery.Document

/-- From the start on, each node links to the next of the list, and the last one to none. -/
inductive Chain (doc : Document) : (start : Option Nat) → List Nat → Prop where
  | nil : Chain doc none []
  | cons {c : Nat} {cs : List Nat} (rest : Chain doc (doc.next? c) cs) : Chain doc (some c) (c :: cs)

section Row

variable {doc : Document} {before : Option Nat} {cs : List Nat}

theorem chain_of_row (row : doc.Row before cs) : doc.Chain cs.head? cs := by
  induction row with
  | nil => exact .nil
  | cons _ next _ ih => exact .cons (next ▸ ih)

theorem row_next (row : doc.Row before cs) {c d : Nat} (mem : c ∈ cs) (next : doc.next? c = some d) :
    doc.previous? d = some c := by
  induction row with
  | nil => cases mem
  | @cons before c' cs _ link rest ih =>
    rcases List.mem_cons.mp mem with rfl | mem
    · rw [next] at link
      cases rest with
      | nil => cases link
      | cons previous =>
        cases link
        exact previous
    · exact ih mem

theorem row_previous (row : doc.Row before cs) {c d : Nat} (mem : d ∈ cs)
    (previous : doc.previous? d = some c) :
    before = some c ∧ cs.head? = some d ∨ doc.next? c = some d := by
  induction row with
  | nil => cases mem
  | @cons before c' cs front link rest ih =>
    rcases List.mem_cons.mp mem with rfl | mem
    · exact .inl ⟨front ▸ previous, rfl⟩
    · rcases ih mem with ⟨here, head⟩ | next
      · cases here
        exact .inr (link.trans head)
      · exact .inr next

/-- The guard against cycles never strikes in an ascending row. -/
theorem siblingsFrom_row {c : Nat} (row : doc.Row before (c :: cs))
    (ascending : (c :: cs).Pairwise (· < ·)) (inside : ∀ d ∈ c :: cs, d < doc.size) :
    doc.siblingsFrom c = c :: cs := by
  induction cs generalizing c before with
  | nil =>
    cases row with
    | cons _ next _ =>
      rw [siblingsFrom, next]
      rfl
  | cons d ds ih =>
    cases row with
    | cons _ next rest =>
      have less : c < d := (List.pairwise_cons.mp ascending).1 d List.mem_cons_self
      have within : d < doc.size := inside d (List.mem_cons_of_mem c List.mem_cons_self)
      have tail := ih rest (List.pairwise_cons.mp ascending).2
        fun e he => inside e (List.mem_cons_of_mem c he)
      rw [siblingsFrom, next]
      simp only [List.head?_cons, if_pos (And.intro less within), tail]

end Row

/-- Where names are distinct, the first entry of a name is the entry of that name. -/
theorem find_of_distinct {entries : List (String × Nat)} (distinct : (entries.map (·.1)).Nodup)
    {m : String × Nat} (mem : m ∈ entries) : entries.find? (fun entry => entry.1 == m.1) = some m := by
  induction entries with
  | nil => cases mem
  | cons entry entries ih =>
    rw [List.map_cons, List.nodup_cons] at distinct
    rcases List.mem_cons.mp mem with rfl | mem
    · simp
    · have other : entry.1 ≠ m.1 := fun same => distinct.1 (same ▸ List.mem_map_of_mem mem)
      simp [other, ih distinct.2 mem]

namespace Linked

variable {doc : Document}

theorem children_eq (linked : Linked doc) (n : Nat) : doc.children n = doc.listed n := by
  have row := linked.row n
  have ascending := linked.ascending n
  have inside : ∀ d ∈ doc.listed n, d < doc.size := fun d hd => (linked.listed_lt hd).2
  rw [children, linked.first]
  generalize doc.listed n = cs at row ascending inside
  cases cs with
  | nil => rfl
  | cons c cs => exact siblingsFrom_row row ascending inside

theorem chain (linked : Linked doc) (n : Nat) : doc.Chain (doc.first? n) (doc.children n) := by
  rw [linked.children_eq, linked.first]
  exact chain_of_row (linked.row n)

theorem mem_children (linked : Linked doc) {n c : Nat} :
    c ∈ doc.children n ↔ c < doc.size ∧ doc.parent? c = some n := by
  rw [linked.children_eq]
  exact linked.child n c

theorem parent_eq_none_iff (linked : Linked doc) {n : Nat} (inside : n < doc.size) :
    doc.parent? n = none ↔ n = root := by
  constructor
  · intro orphan
    rcases Nat.eq_zero_or_pos n with zero | positive
    · exact zero
    · obtain ⟨p, _, parent⟩ := linked.parent n positive inside
      rw [orphan] at parent
      cases parent
  · rintro rfl
    exact linked.rootParent

theorem parent_lt (linked : Linked doc) {n p : Nat} (parent : doc.parent? n = some p) : p < n := by
  have inside : n < doc.size := by
    rcases Nat.lt_or_ge n doc.size with inside | beyond
    · exact inside
    · rw [parent?, node_of_size_le beyond] at parent
      cases parent
  exact (linked.listed_lt ((linked.child p n).mpr ⟨inside, parent⟩)).1

/-- Only nodes that are there and not the root have neighbours. -/
theorem exists_listed (linked : Linked doc) {n : Nat}
    (neighbour : doc.next? n ≠ none ∨ doc.previous? n ≠ none) : ∃ p, n ∈ doc.listed p := by
  have inside : n < doc.size := by
    rcases Nat.lt_or_ge n doc.size with inside | beyond
    · exact inside
    · simp [next?, previous?, node_of_size_le beyond] at neighbour
  have positive : 0 < n := by
    rcases Nat.eq_zero_or_pos n with rfl | positive
    · have next : doc.next? 0 = none := linked.rootNext
      have previous : doc.previous? 0 = none := linked.rootPrevious
      simp [next, previous] at neighbour
    · exact positive
  obtain ⟨p, _, parent⟩ := linked.parent n positive inside
  exact ⟨p, (linked.child p n).mpr ⟨inside, parent⟩⟩

theorem next_eq_some_iff (linked : Linked doc) {c d : Nat} :
    doc.next? c = some d ↔ doc.previous? d = some c := by
  constructor
  · intro next
    obtain ⟨p, mem⟩ := linked.exists_listed (.inl (by rw [next]; exact Option.some_ne_none d))
    exact row_next (linked.row p) mem next
  · intro previous
    obtain ⟨p, mem⟩ := linked.exists_listed (.inr (by rw [previous]; exact Option.some_ne_none c))
    rcases row_previous (linked.row p) mem previous with ⟨front, _⟩ | next
    · cases front
    · exact next

theorem named_of_mem (linked : Linked doc) {n : Nat} {members : Array (String × Nat)}
    (object : doc.kind n = .object members) {m : String × Nat} (mem : m ∈ members.toList) :
    m.2 ∈ doc.children n ∧ doc.propertyName? m.2 = some m.1 := by
  constructor
  · rw [linked.children_eq, listed, object]
    exact List.mem_map_of_mem mem
  · rw [propertyName?, linked.named n members object m mem]

/-- A name has at most one entry, so searching finds it. -/
theorem property_of_mem (linked : Linked doc) {n : Nat} {members : Array (String × Nat)}
    (object : doc.kind n = .object members) {m : String × Nat} (mem : m ∈ members.toList) :
    property? members m.1 = some m.2 := by
  rw [property?, ← Array.find?_toList, find_of_distinct (linked.distinct n members object) mem]
  rfl

end Linked

theorem isProperty_of_name {doc : Document} {n : Nat} {name : String}
    (named : doc.propertyName? n = some name) : doc.isProperty n = true := by
  rw [propertyName?] at named
  cases kind : doc.kind n <;> simp_all [isProperty, nodeType, Kind.nodeType]

theorem propertyName_eq_none {doc : Document} {n : Nat} :
    doc.propertyName? n = none ↔ doc.isProperty n = false := by
  rw [propertyName?]
  cases kind : doc.kind n <;> simp [isProperty, nodeType, kind, Kind.nodeType]

theorem childValue_plain {doc : Document} {n : Nat} (plain : doc.isProperty n = false) :
    doc.childValue? n = some n := by
  rw [childValue?, plain]
  rfl

theorem isObject_of_get {doc : Document} {n v : Nat} {name : String}
    (found : doc.get? n name = some v) : doc.isObject n = true := by
  rw [get?] at found
  cases kind : doc.kind n <;> simp_all [isObject, nodeType, Kind.nodeType]

theorem isIndexable_of_item {doc : Document} {n i c : Nat} (found : doc.item? n i = some c) :
    doc.isIndexable n = true := by
  rw [item?] at found
  cases kind : doc.kind n <;> simp_all [isIndexable, nodeType, Kind.nodeType]

namespace Arena

variable {doc : Document}

/-- Children of objects are properties, and there are no others. -/
theorem exists_member (arena : Arena doc) {n c : Nat} (mem : c ∈ doc.children n)
    (property : doc.isProperty c = true) :
    ∃ members, doc.kind n = .object members ∧ ∃ m ∈ members.toList, m.2 = c := by
  rw [arena.toLinked.children_eq] at mem
  cases object : doc.isObject n with
  | false =>
    rw [arena.plain n object c mem] at property
    cases property
  | true =>
    cases kind : doc.kind n with
    | object members =>
      rw [listed, kind] at mem
      exact ⟨members, rfl, List.mem_map.mp mem⟩
    | array | constructor | property | value =>
      simp [isObject, nodeType, kind, Kind.nodeType] at object

theorem property_children (arena : Arena doc) {n : Nat} (property : doc.isProperty n = true) :
    ∃ v, doc.children n = [v] ∧ doc.first? n = some v ∧ doc.isProperty v = false := by
  obtain ⟨v, first⟩ := Option.isSome_iff_exists.mp (arena.complete n property)
  have children : doc.children n = [v] := by
    rw [arena.toLinked.children_eq, listed_of_property property, first]
    rfl
  refine ⟨v, children, first, arena.plain n ?_ v ?_⟩
  · rw [isProperty, decide_eq_true_eq] at property
    simp [isObject, property]
  · rw [← arena.toLinked.children_eq, children]
    exact List.mem_singleton_self v

theorem plain_of_isIndexable (arena : Arena doc) {n c : Nat} (indexable : doc.isIndexable n = true)
    (mem : c ∈ doc.children n) : doc.isProperty c = false := by
  rw [arena.toLinked.children_eq] at mem
  refine arena.plain n ?_ c mem
  simp only [isIndexable, Bool.or_eq_true, decide_eq_true_eq] at indexable
  rcases indexable with type | type <;> simp [isObject, type]

theorem values_of_isIndexable (arena : Arena doc) {n : Nat} (indexable : doc.isIndexable n = true) :
    doc.values n = doc.children n := by
  rw [values, List.filterMap_congr fun c mem =>
    childValue_plain (arena.plain_of_isIndexable indexable mem)]
  exact List.filterMap_some

theorem item_eq (arena : Arena doc) (n i : Nat) :
    doc.item? n i = if doc.isIndexable n then (doc.values n)[i]? else none := by
  cases indexable : doc.isIndexable n with
  | true =>
    rw [if_pos rfl, arena.values_of_isIndexable indexable, arena.toLinked.children_eq,
      listed_of_plain (isProperty_of_isIndexable indexable), item?]
    cases kind : doc.kind n with
    | array items | constructor _ items => simp [Kind.recorded]
    | object | property | value => simp [isIndexable, nodeType, kind, Kind.nodeType] at indexable
  | false =>
    rw [item?]
    cases kind : doc.kind n with
    | array items | constructor _ items =>
      simp [isIndexable, nodeType, kind, Kind.nodeType] at indexable
    | object | property | value => rfl

theorem get_eq_some_iff (arena : Arena doc) {n v : Nat} {name : String} :
    doc.get? n name = some v ↔
      ∃ p ∈ doc.children n, doc.propertyName? p = some name ∧ doc.children p = [v] := by
  constructor
  · intro found
    rw [get?] at found
    split at found
    · rename_i members object
      obtain ⟨p, entry, first⟩ := Option.bind_eq_some_iff.mp found
      obtain ⟨m, search, rfl⟩ := Option.map_eq_some_iff.mp entry
      have mem : m ∈ members.toList := Array.mem_def.mp (Array.mem_of_find?_eq_some search)
      have same : m.1 = name := by simpa using Array.find?_some search
      obtain ⟨child, named⟩ := arena.toLinked.named_of_mem object mem
      obtain ⟨w, value, known, _⟩ := arena.property_children (isProperty_of_name named)
      rw [first, Option.some.injEq] at known
      exact ⟨m.2, child, same ▸ named, known ▸ value⟩
    · cases found
  · rintro ⟨p, child, named, value⟩
    have property := isProperty_of_name named
    obtain ⟨members, object, m, mem, rfl⟩ := arena.exists_member child property
    rw [(arena.toLinked.named_of_mem object mem).2, Option.some.injEq] at named
    obtain ⟨w, known, first, _⟩ := arena.property_children property
    rw [value, List.cons.injEq] at known
    rw [get?, object, ← named]
    simp only [arena.toLinked.property_of_mem object mem, Option.bind_some]
    rw [first, known.1]

theorem len_eq (arena : Arena doc) (n : Nat) : doc.len n = (doc.children n).length := by
  rw [arena.toLinked.children_eq, len, listed]
  cases kind : doc.kind n with
  | property name =>
    have property : doc.isProperty n = true := by simp [isProperty, nodeType, kind, Kind.nodeType]
    obtain ⟨v, first⟩ := Option.isSome_iff_exists.mp (arena.complete n property)
    rw [first]
    rfl
  | object | array | constructor | value => simp [Kind.recorded]

theorem hasValues_eq (arena : Arena doc) (n : Nat) : doc.hasValues n = !doc.isEmpty n := by
  rw [hasValues, arena.toLinked.first, isEmpty, arena.len_eq, arena.toLinked.children_eq]
  cases doc.listed n <;> simp

theorem property_unique (arena : Arena doc) {n p q : Nat} {name : String} (hp : p ∈ doc.children n)
    (hq : q ∈ doc.children n) (named : doc.propertyName? p = some name)
    (also : doc.propertyName? q = some name) : p = q := by
  obtain ⟨members, object, m, mem, rfl⟩ := arena.exists_member hp (isProperty_of_name named)
  obtain ⟨others, same, k, among, rfl⟩ := arena.exists_member hq (isProperty_of_name also)
  rw [object, Kind.object.injEq] at same
  subst same
  have linked := arena.toLinked
  rw [(linked.named_of_mem object mem).2, Option.some.injEq] at named
  rw [(linked.named_of_mem object among).2, Option.some.injEq] at also
  have first := linked.property_of_mem object mem
  rw [named, ← also, linked.property_of_mem object among, Option.some.injEq] at first
  exact first.symm

theorem property_parent (arena : Arena doc) {n : Nat} (property : doc.isProperty n = true) :
    ∃ p, doc.parent? n = some p ∧ doc.isObject p = true := by
  have linked := arena.toLinked
  have inside : n < doc.size := by
    apply lt_size_of_kind
    intro value
    simp [isProperty, nodeType, value, Kind.nodeType] at property
  have positive : 0 < n := by
    rcases Nat.eq_zero_or_pos n with rfl | positive
    · rw [show doc.isProperty 0 = false from linked.rootPlain] at property
      cases property
    · exact positive
  obtain ⟨p, _, parent⟩ := linked.parent n positive inside
  refine ⟨p, parent, ?_⟩
  obtain ⟨members, object, _⟩ := arena.exists_member (linked.mem_children.mpr ⟨inside, parent⟩) property
  simp [isObject, nodeType, object, Kind.nodeType]

end Arena

/-- All views of a document show one tree. -/
structure Consistent (doc : Document) : Prop where
  root {n : Nat} : n < doc.size → (doc.parent? n = none ↔ n = root)
  older {n p : Nat} : doc.parent? n = some p → p < n
  chain (n : Nat) : doc.Chain (doc.first? n) (doc.children n)
  last (n : Nat) : doc.last? n = (doc.children n).getLast?
  /-- Children stand in the order in which they were added. -/
  ascending (n : Nat) : (doc.children n).Pairwise (· < ·)
  nodup (n : Nat) : (doc.children n).Nodup
  child {n c : Nat} : c ∈ doc.children n ↔ c < doc.size ∧ doc.parent? c = some n
  previous {c d : Nat} : doc.previous? d = some c ↔ doc.next? c = some d
  object {n : Nat} {members : Array (String × Nat)} : doc.kind n = .object members →
    doc.children n = members.toList.map (·.2) ∧ (members.toList.map (·.1)).Nodup ∧
      ∀ m ∈ members.toList, doc.kind m.2 = .property m.1
  array {n : Nat} {items : Array Nat} : doc.kind n = .array items → doc.children n = items.toList
  constructor {n : Nat} {name : String} {items : Array Nat} :
    doc.kind n = .constructor name items → doc.children n = items.toList
  property {n : Nat} {name : String} : doc.kind n = .property name →
    (∃ p, doc.parent? n = some p ∧ doc.isObject p = true) ∧
      ∃ v, doc.children n = [v] ∧ doc.isProperty v = false
  value {n : Nat} {v : Scalar} : doc.kind n = .value v → doc.children n = []
  len (n : Nat) : doc.len n = (doc.children n).length
  hasValues (n : Nat) : doc.hasValues n = !doc.isEmpty n
  item (n i : Nat) : doc.item? n i = if doc.isIndexable n then (doc.values n)[i]? else none
  get {n v : Nat} {name : String} : doc.get? n name = some v ↔
    ∃ p ∈ doc.children n, doc.propertyName? p = some name ∧ doc.children p = [v]
  unique {n p q : Nat} {name : String} : p ∈ doc.children n → q ∈ doc.children n →
    doc.propertyName? p = some name → doc.propertyName? q = some name → p = q

theorem Arena.consistent {doc : Document} (arena : Arena doc) : Consistent doc := by
  have linked := arena.toLinked
  constructor
  case root => exact linked.parent_eq_none_iff
  case older => exact linked.parent_lt
  case chain => exact linked.chain
  case last =>
    intro n
    rw [linked.children_eq]
    exact linked.last n
  case ascending =>
    intro n
    rw [linked.children_eq]
    exact linked.ascending n
  case nodup =>
    intro n
    rw [linked.children_eq]
    exact linked.nodup n
  case child => exact linked.mem_children
  case previous => exact linked.next_eq_some_iff.symm
  case object =>
    intro n members object
    refine ⟨?_, linked.distinct n members object, linked.named n members object⟩
    rw [linked.children_eq, listed, object]
    rfl
  case array =>
    intro n items kind
    rw [linked.children_eq, listed, kind]
    rfl
  case constructor =>
    intro n name items kind
    rw [linked.children_eq, listed, kind]
    rfl
  case property =>
    intro n name kind
    have property : doc.isProperty n = true := by simp [isProperty, nodeType, kind, Kind.nodeType]
    obtain ⟨v, children, _, plain⟩ := arena.property_children property
    exact ⟨arena.property_parent property, v, children, plain⟩
  case value =>
    intro n v kind
    rw [linked.children_eq, listed, kind]
    rfl
  case len => exact arena.len_eq
  case hasValues => exact arena.hasValues_eq
  case item => exact arena.item_eq
  case get => exact arena.get_eq_some_iff
  case unique => exact arena.property_unique

/-- Whatever its history, a document is consistent. -/
theorem consistent_of_reachable {doc : Document} (reachable : Reachable doc) : Consistent doc :=
  (Arena.of_reachable reachable).consistent

/-- A history with a repeated name, an item for an object, an unknown node and an empty name. -/
def stumbling : Document :=
  [Edit.insert 0 "a" .array, .insert 0 "a" .object, .push 2 (.constructor "Date"), .push 0 .array,
    .push 3 (.value .null), .setLine 9 ⟨1, 2⟩, .insert 0 "" (.value (.boolean true)),
    .setLine 0 ⟨1, 1⟩].foldl after (ofRoot .object)

theorem consistent_stumbling : Reachable stumbling ∧ Consistent stumbling := by
  have reachable : Reachable stumbling := (Reachable.root .object).run _
  exact ⟨reachable, consistent_of_reachable reachable⟩

/-- Objects have values but no items. -/
theorem object_without_items : ∃ doc, Reachable doc ∧ doc.isObject root = true ∧
    doc.values root = [2] ∧ doc.item? root 0 ≠ (doc.values root)[0]? := by
  refine ⟨(ofRoot .object).after (.insert 0 "a" (.value .null)), .edit (.root .object) _, ?_⟩
  have values : ((ofRoot .object).after (.insert 0 "a" (.value .null))).values root = [2] := by cbv
  have item : ((ofRoot .object).after (.insert 0 "a" (.value .null))).item? root 0 = none := by cbv
  refine ⟨by cbv, values, ?_⟩
  rw [values, item]
  exact (Option.some_ne_none 2).symm

end PathQuery.Document
