import Mathlib.Data.List.Forall2
import PathQuery.Proofs.Document.Copy

/-! Two nodes with one JSON value, of one document or of two. What lies below them corresponds, each node to the
one that is reached in the same way, and no part of either document tells corresponding nodes apart. -/
namespace PathQuery

namespace Json

/-- How many children a node of this value has. -/
def count : Json → Nat
  | array items => items.length
  | object members => members.length
  | _ => 0

/-- The primitive that a node of this value is. -/
def scalar? : Json → Option Scalar
  | null => some .null
  | boolean b => some (.boolean b)
  | integer i => some (.integer i)
  | unsigned n => some (.double n.toDouble)
  | double x => some (.double x)
  | string s => some (.string s)
  | array _ | object _ => none

def nodeType : Json → NodeType
  | array _ => .array
  | object _ => .object
  | _ => .value

end Json

theorem Scalar.scalar_toJson {v : Scalar} (json : v.isJson = true) :
    v.toJson.scalar? = some v ∧ v.toJson.nodeType = .value ∧ v.toJson.count = 0 := by
  cases v with
  | double x =>
    rw [isJson] at json
    rw [toJson, if_pos json]
    exact ⟨rfl, rfl, rfl⟩
  | null | boolean | integer | string => exact ⟨rfl, rfl, rfl⟩
  | date | bytes | guid | uri | timeSpan => cases json

namespace Document

/-- `m'` lies below `n'` where `m` lies below `n`. -/
inductive Twin (doc doc' : Document) (n n' : Nat) : Nat → Nat → Prop where
  | start : Twin doc doc' n n' n n'
  | child {p p' c c' i : Nat} (above : Twin doc doc' n n' p p') (here : (doc.children p)[i]? = some c)
      (there : (doc'.children p')[i]? = some c') : Twin doc doc' n n' c c'

theorem Twin.symm {doc doc' : Document} {n n' m m' : Nat} (twin : Twin doc doc' n n' m m') :
    Twin doc' doc n' n m' m := by
  induction twin with
  | start => exact .start
  | child _ here there ih => exact .child ih there here

/-- What can be said of a node apart from which one it is. -/
structure Alike (doc doc' : Document) (m m' : Nat) : Prop where
  nodeType : doc.nodeType m = doc'.nodeType m'
  name : doc.propertyName? m = doc'.propertyName? m'
  value : doc.value? m = doc'.value? m'
  count : (doc.children m).length = (doc'.children m').length
  json : doc.toJson m = doc'.toJson m'

/-- Two nodes that stand for the same JSON value, in documents that hold nothing else. -/
structure SameJson (doc doc' : Document) (n n' : Nat) : Prop where
  arena : Arena doc
  arena' : Arena doc'
  isJson : IsJson doc
  isJson' : IsJson doc'
  plain : doc.isProperty n = false
  plain' : doc'.isProperty n' = false
  json : doc.toJson n = doc'.toJson n'

/-- Rows of related entries are related at every position. -/
theorem rel_getElem {R : Nat → Nat → Prop} {l l' : List Nat} (rows : List.Forall₂ R l l') (i : Nat) :
    Option.Rel R l[i]? l'[i]? := by
  induction rows generalizing i with
  | nil => exact .none
  | cons head _ ih =>
    cases i with
    | zero => exact .some head
    | succ i => exact ih i

section Alike

variable {doc doc' : Document} {m m' : Nat}

theorem kind_property {name : String} (named : doc.propertyName? m = some name) :
    doc.kind m = .property name := by
  rw [propertyName?] at named
  cases kind : doc.kind m <;> simp_all

/-- Where all is JSON, the value of a node says what the node is. -/
theorem Arena.outline (arena : Arena doc) (isJson : IsJson doc) (plain : doc.isProperty m = false) :
    doc.value? m = (doc.toJson m).scalar? ∧ doc.nodeType m = (doc.toJson m).nodeType ∧
      (doc.children m).length = (doc.toJson m).count := by
  have json := isJson m
  rw [value?, nodeType]
  cases kind : doc.kind m with
  | constructor => rw [kind] at json; cases json
  | property => simp [isProperty, nodeType, kind, Kind.nodeType] at plain
  | value v =>
    rw [kind] at json
    obtain ⟨scalar, type, count⟩ := v.scalar_toJson json
    rw [toJson_value kind, scalar, type, count, arena.consistent.value kind]
    exact ⟨rfl, rfl, rfl⟩
  | array items =>
    have indexable : doc.isIndexable m = true := by simp [isIndexable, nodeType, kind, Kind.nodeType]
    rw [arena.toJson_indexable indexable]
    exact ⟨rfl, rfl, (List.length_map _).symm⟩
  | object members =>
    rw [arena.toJson_object kind, (arena.consistent.object kind).1]
    exact ⟨rfl, rfl, by rw [List.length_map, Json.count, List.length_map]⟩

theorem alike_plain (arena : Arena doc) (arena' : Arena doc') (isJson : IsJson doc)
    (isJson' : IsJson doc') (plain : doc.isProperty m = false) (plain' : doc'.isProperty m' = false)
    (json : doc.toJson m = doc'.toJson m') : Alike doc doc' m m' := by
  obtain ⟨value, type, count⟩ := arena.outline isJson plain
  obtain ⟨value', type', count'⟩ := arena'.outline isJson' plain'
  constructor
  case nodeType => rw [type, type', json]
  case name => rw [propertyName_eq_none.mpr plain, propertyName_eq_none.mpr plain']
  case value => rw [value, value', json]
  case count => rw [count, count', json]
  case json => exact json

theorem alike_property (arena : Arena doc) (arena' : Arena doc') {name : String}
    (named : doc.propertyName? m = some name) (named' : doc'.propertyName? m' = some name)
    (json : doc.toJson m = doc'.toJson m') : Alike doc doc' m m' := by
  have kind := kind_property named
  have kind' := kind_property named'
  obtain ⟨v, children, _⟩ := arena.property_children (isProperty_of_name named)
  obtain ⟨v', children', _⟩ := arena'.property_children (isProperty_of_name named')
  constructor
  case nodeType => rw [nodeType, nodeType, kind, kind']
  case name => rw [named, named']
  case value => rw [value?, value?, kind, kind']
  case count => rw [children, children']; rfl
  case json => exact json

theorem Alike.isObject (alike : Alike doc doc' m m') : doc.isObject m = doc'.isObject m' := by
  rw [Document.isObject, Document.isObject, alike.nodeType]

theorem Alike.isArray (alike : Alike doc doc' m m') : doc.isArray m = doc'.isArray m' := by
  rw [Document.isArray, Document.isArray, alike.nodeType]

theorem Alike.isProperty (alike : Alike doc doc' m m') : doc.isProperty m = doc'.isProperty m' := by
  rw [Document.isProperty, Document.isProperty, alike.nodeType]

theorem Alike.isIndexable (alike : Alike doc doc' m m') :
    doc.isIndexable m = doc'.isIndexable m' := by
  rw [Document.isIndexable, Document.isIndexable, alike.nodeType]

end Alike

namespace SameJson

variable {doc doc' : Document} {n n' : Nat} (same : SameJson doc doc' n n')
include same

theorem symm : SameJson doc' doc n' n :=
  ⟨same.arena', same.arena, same.isJson', same.isJson, same.plain', same.plain, same.json.symm⟩

section Children

variable {p p' c c' i : Nat} (above : Alike doc doc' p p') (here : (doc.children p)[i]? = some c)
  (there : (doc'.children p')[i]? = some c')
include above here there

theorem alike_value (property : doc.isProperty p = true) : Alike doc doc' c c' := by
  have property' := above.isProperty ▸ property
  obtain ⟨v, children, _, plain⟩ := same.arena.property_children property
  obtain ⟨v', children', _, plain'⟩ := same.arena'.property_children property'
  have json := above.json
  rw [same.arena.toJson_property property children,
    same.arena'.toJson_property property' children'] at json
  have child := List.mem_of_getElem? here
  have child' := List.mem_of_getElem? there
  rw [children, List.mem_singleton] at child
  rw [children', List.mem_singleton] at child'
  rw [child, child']
  exact alike_plain same.arena same.arena' same.isJson same.isJson' plain plain' json

theorem alike_item (indexable : doc.isIndexable p = true) : Alike doc doc' c c' := by
  have indexable' := above.isIndexable ▸ indexable
  have json := above.json
  rw [same.arena.toJson_indexable indexable, same.arena'.toJson_indexable indexable',
    Json.array.injEq] at json
  have item := congrArg (·[i]?) json
  simp only [List.getElem?_map, here, there, Option.map_some, Option.some.injEq] at item
  have plain := same.arena.plain_of_isIndexable indexable (List.mem_of_getElem? here)
  have plain' := same.arena'.plain_of_isIndexable indexable' (List.mem_of_getElem? there)
  exact alike_plain same.arena same.arena' same.isJson same.isJson' plain plain' item

theorem alike_member {members : Array (String × Nat)} (kind : doc.kind p = .object members) :
    Alike doc doc' c c' := by
  obtain ⟨members', kind'⟩ : ∃ members', doc'.kind p' = .object members' := by
    have type := above.nodeType
    rw [nodeType, nodeType, kind] at type
    cases kind' : doc'.kind p' with
    | object members' => exact ⟨members', rfl⟩
    | array | constructor | property | value => simp [kind', Kind.nodeType] at type
  have json := above.json
  rw [same.arena.toJson_object kind, same.arena'.toJson_object kind', Json.object.injEq] at json
  rw [(same.arena.consistent.object kind).1, List.getElem?_map, Option.map_eq_some_iff] at here
  rw [(same.arena'.consistent.object kind').1, List.getElem?_map, Option.map_eq_some_iff] at there
  obtain ⟨m, found, rfl⟩ := here
  obtain ⟨m', found', rfl⟩ := there
  have member := congrArg (·[i]?) json
  simp only [List.getElem?_map, found, found', Option.map_some, Option.some.injEq,
    Prod.mk.injEq] at member
  have named := (same.arena.toLinked.named_of_mem kind (List.mem_of_getElem? found)).2
  have named' := (same.arena'.toLinked.named_of_mem kind' (List.mem_of_getElem? found')).2
  exact alike_property same.arena same.arena' named (member.1 ▸ named') member.2

/-- Corresponding children of nodes that are alike are alike. -/
theorem alike_child : Alike doc doc' c c' := by
  cases kind : doc.kind p with
  | constructor =>
    have json := same.isJson p
    rw [kind] at json
    cases json
  | value v =>
    rw [same.arena.consistent.value kind] at here
    cases here
  | property name =>
    exact same.alike_value above here there (by simp [isProperty, nodeType, kind, Kind.nodeType])
  | array items =>
    exact same.alike_item above here there (by simp [isIndexable, nodeType, kind, Kind.nodeType])
  | object members => exact same.alike_member above here there kind

end Children

/-- Nothing tells corresponding nodes apart. -/
theorem alike {m m' : Nat} (twin : Twin doc doc' n n' m m') : Alike doc doc' m m' := by
  induction twin with
  | start =>
    exact alike_plain same.arena same.arena' same.isJson same.isJson' same.plain same.plain' same.json
  | child _ here there ih => exact same.alike_child ih here there

theorem le {m m' : Nat} (twin : Twin doc doc' n n' m m') : n ≤ m := by
  induction twin with
  | start => exact Nat.le_refl n
  | child _ here _ ih =>
    have range := same.arena.toLinked.child_lt (List.mem_of_getElem? here)
    exact Nat.le_trans ih (Nat.le_of_lt range.1)

theorem start_not_below {p p' i : Nat} (above : Twin doc doc' n n' p p') :
    (doc.children p)[i]? ≠ some n := by
  intro here
  have range := same.arena.toLinked.child_lt (List.mem_of_getElem? here)
  have := same.le above
  omega

/-- A node lies in one place only: it has one parent, and among the children there one position. -/
theorem unique {m a b : Nat} (first : Twin doc doc' n n' m a) (second : Twin doc doc' n n' m b) :
    a = b := by
  have linked := same.arena.toLinked
  induction first generalizing b with
  | start =>
    cases second with
    | start => rfl
    | child parent here _ => exact absurd here (same.start_not_below parent)
  | @child p p' c c' i parent here there ih =>
    cases second with
    | start => exact absurd here (same.start_not_below parent)
    | @child q q' _ _ j parent₂ here₂ there₂ =>
      have upward := (linked.mem_children.mp (List.mem_of_getElem? here)).2
      rw [(linked.mem_children.mp (List.mem_of_getElem? here₂)).2, Option.some.injEq] at upward
      subst upward
      have level := ih parent₂
      subst level
      have inside : i < (doc.children q).length := (List.getElem?_eq_some_iff.mp here).1
      have distinct : (doc.children q).Nodup := same.arena.consistent.nodup q
      have position : i = j := (List.getElem?_inj inside distinct).mp (here.trans here₂.symm)
      subst position
      rw [there, Option.some.injEq] at there₂
      exact there₂

section Views

variable {m m' : Nat} (twin : Twin doc doc' n n' m m')
include twin

theorem children : List.Forall₂ (Twin doc doc' n n') (doc.children m) (doc'.children m') := by
  rw [List.forall₂_iff_get]
  refine ⟨(same.alike twin).count, fun i h h' => ?_⟩
  exact .child twin (List.getElem?_eq_getElem h) (List.getElem?_eq_getElem h')

theorem first : Option.Rel (Twin doc doc' n n') (doc.first? m) (doc'.first? m') := by
  have children := same.children twin
  rw [same.arena.toLinked.first, same.arena'.toLinked.first, ← same.arena.toLinked.children_eq,
    ← same.arena'.toLinked.children_eq]
  generalize doc.children m = row, doc'.children m' = row' at children
  cases children with
  | nil => exact .none
  | cons head _ => exact .some head

theorem childValue : Option.Rel (Twin doc doc' n n') (doc.childValue? m) (doc'.childValue? m') := by
  rw [childValue?, childValue?, ← (same.alike twin).isProperty]
  split
  · exact same.first twin
  · exact .some twin

theorem values : List.Forall₂ (Twin doc doc' n n') (doc.values m) (doc'.values m') := by
  rw [Document.values, Document.values]
  refine List.rel_filterMap (R := Twin doc doc' n n') ?_ (same.children twin)
  intro c c' twin
  exact same.childValue twin

theorem len : doc.len m = doc'.len m' := by
  rw [same.arena.len_eq, same.arena'.len_eq, (same.alike twin).count]

theorem item (i : Nat) : Option.Rel (Twin doc doc' n n') (doc.item? m i) (doc'.item? m' i) := by
  rw [same.arena.item_eq, same.arena'.item_eq, ← (same.alike twin).isIndexable]
  split
  · exact rel_getElem (same.values twin) i
  · exact .none

theorem get_of_get {name : String} {v : Nat} (found : doc.get? m name = some v) :
    ∃ v', doc'.get? m' name = some v' ∧ Twin doc doc' n n' v v' := by
  obtain ⟨p, child, named, value⟩ := same.arena.get_eq_some_iff.mp found
  obtain ⟨i, here⟩ := List.mem_iff_getElem?.mp child
  have property := rel_getElem (same.children twin) i
  rw [here] at property
  generalize there : (doc'.children m')[i]? = other at property
  cases property with
  | @some _ p' twin =>
    have below := same.children twin
    rw [value] at below
    generalize value' : doc'.children p' = row at below
    cases below with
    | @cons _ v' _ _ head tail =>
      cases tail
      have named' := (same.alike twin).name.symm.trans named
      exact ⟨v', same.arena'.get_eq_some_iff.mpr ⟨p', List.mem_of_getElem? there, named', value'⟩, head⟩

end Views

theorem get {m m' : Nat} (twin : Twin doc doc' n n' m m') (name : String) :
    Option.Rel (Twin doc doc' n n') (doc.get? m name) (doc'.get? m' name) := by
  cases found : doc.get? m name with
  | some v =>
    obtain ⟨v', found', inner⟩ := same.get_of_get twin found
    rw [found']
    exact .some inner
  | none =>
    cases found' : doc'.get? m' name with
    | none => exact .none
    | some v' =>
      obtain ⟨v, known, _⟩ := same.symm.get_of_get twin.symm found'
      rw [found] at known
      cases known

theorem preorder {m m' : Nat} (twin : Twin doc doc' n n' m m') :
    List.Forall₂ (Twin doc doc' n n') (doc.preorder m) (doc'.preorder m') := by
  induction m using same.arena.toLinked.child_induction generalizing m' with
  | step m ih =>
    rw [same.arena.toLinked.preorder_eq, same.arena'.toLinked.preorder_eq]
    have children : List.Forall₂ (fun c c' => c ∈ doc.children m ∧ Twin doc doc' n n' c c')
        (doc.children m) (doc'.children m') :=
      (List.forall₂_and_left _ _).mpr ⟨fun c child => child, same.children twin⟩
    refine List.rel_flatMap children ?_
    rintro c c' ⟨child, twin⟩
    exact .cons twin (ih c child twin)

end SameJson

/-- A node that is no property, and the root of a document made of its value. -/
theorem sameJson_copy {doc : Document} (reachable : Reachable doc) (isJson : IsJson doc) {n : Nat}
    (plain : doc.isProperty n = false) : SameJson doc (ofJson (doc.toJson n)) n root := by
  have arena := Arena.of_reachable reachable
  have keyed := arena.toJson_keyed n
  have finite := arena.toJson_finite n
  constructor
  case arena => exact arena
  case arena' => exact Arena.ofJson keyed
  case isJson => exact isJson
  case isJson' => exact Arena.isJson_ofJson keyed finite
  case plain => exact plain
  case plain' => exact (Arena.ofJson keyed).rootPlain
  case json => rw [Arena.toJson_ofJson keyed finite, arena.rounded_toJson]

end Document
end PathQuery
