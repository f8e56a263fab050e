import PathQuery.Proofs.Document.Extension

/-! Building a document by hand. When a request to add a node is met, what it adds to the value of the
container, and all that it leaves alone. -/
namespace PathQuery

/-- The value of a node that has only just been added. -/
def NewNode.toJson : NewNode → Json
  | object => .object []
  | array | constructor _ => .array []
  | value v => v.toJson

namespace Document

section Requests

variable {doc : Document}

theorem isObject_iff {n : Nat} : doc.isObject n = true ↔ ∃ members, doc.kind n = .object members := by
  cases kind : doc.kind n <;> simp [isObject, nodeType, kind, Kind.nodeType]

/-- The names that are taken are those of the properties among the children. -/
theorem Arena.taken_iff (arena : Arena doc) {n : Nat} {members : Array (String × Nat)}
    (kind : doc.kind n = .object members) (name : String) :
    name ∈ members.toList.map (·.1) ↔ ∃ p ∈ doc.children n, doc.propertyName? p = some name := by
  constructor
  · intro taken
    obtain ⟨m, mem, rfl⟩ := List.mem_map.mp taken
    exact ⟨m.2, arena.toLinked.named_of_mem kind mem⟩
  · rintro ⟨p, child, named⟩
    rw [(arena.consistent.object kind).1] at child
    obtain ⟨m, mem, rfl⟩ := List.mem_map.mp child
    rw [(arena.toLinked.named_of_mem kind mem).2, Option.some.injEq] at named
    exact named ▸ List.mem_map_of_mem mem

theorem Arena.insert_ok_iff (arena : Arena doc) {object : Nat} {name : String} {new : NewNode} :
    (∃ r, doc.insert object name new = .ok r) ↔
      doc.isObject object = true ∧ ∀ p ∈ doc.children object, doc.propertyName? p ≠ some name := by
  constructor
  · rintro ⟨r, done⟩
    obtain ⟨members, kind, fresh, -⟩ := insert_cases done
    refine ⟨isObject_iff.mpr ⟨members, kind⟩, ?_⟩
    intro p child named
    exact fresh ((arena.taken_iff kind name).mpr ⟨p, child, named⟩)
  · rintro ⟨object, free⟩
    obtain ⟨members, kind⟩ := isObject_iff.mp object
    have absent : ¬ hasMember members name = true := by
      intro taken
      obtain ⟨p, child, named⟩ := (arena.taken_iff kind name).mp (hasMember_iff.mp taken)
      exact free p child named
    simp [insert, contains, lt_size_of_object kind, kind, absent]

theorem push_ok_iff {container : Nat} {new : NewNode} :
    (∃ r, doc.push container new = .ok r) ↔ doc.isIndexable container = true := by
  constructor
  · rintro ⟨r, done⟩
    exact (push_cases done).1
  · intro indexable
    have inside : doc.contains container = true := by
      simpa [contains] using Arena.lt_size_of_isIndexable indexable
    rw [push, if_pos inside]
    cases kind : doc.kind container with
    | array | constructor => exact ⟨_, rfl⟩
    | object | property | value => simp [isIndexable, nodeType, kind, Kind.nodeType] at indexable

theorem after_of_insert_error {object : Nat} {name : String} {new : NewNode} {e : BuildError}
    (refused : doc.insert object name new = .error e) : doc.after (.insert object name new) = doc := by
  rw [after, refused]

theorem after_of_push_error {container : Nat} {new : NewNode} {e : BuildError}
    (refused : doc.push container new = .error e) : doc.after (.push container new) = doc := by
  rw [after, refused]

end Requests

namespace Arena

variable {doc : Document} (arena : Arena doc)
include arena

theorem toJson_new {n : Nat} {new : NewNode} (kind : doc.kind n = new.kind) :
    doc.toJson n = new.toJson := by
  cases new with
  | value v => exact toJson_value kind
  | object => exact arena.toJson_object kind
  | array =>
    have indexable : doc.isIndexable n = true := by
      simp [isIndexable, nodeType, kind, NewNode.kind, Kind.nodeType]
    rw [arena.toJson_indexable indexable, arena.consistent.array kind]
    rfl
  | constructor name =>
    have indexable : doc.isIndexable n = true := by
      simp [isIndexable, nodeType, kind, NewNode.kind, Kind.nodeType]
    rw [arena.toJson_indexable indexable, arena.consistent.constructor kind]
    rfl

theorem line_appendItem {container : Nat} (indexable : doc.isIndexable container = true) (new : NewNode)
    {m : Nat} (old : m < doc.size) : (doc.appendItem container new).line? m = doc.line? m := by
  simp [appendItem_eq, line_attach (lt_size_of_isIndexable indexable) arena.toLinked.younger,
    Nat.ne_of_lt old]

theorem line_appendProperty {object : Nat} {members : Array (String × Nat)}
    (kind : doc.kind object = .object members) {name : String}
    (fresh : name ∉ members.toList.map (·.1)) (new : NewNode) {m : Nat} (old : m < doc.size) :
    (doc.appendProperty object name new).line? m = doc.line? m := by
  have outer := line_attach (lt_size_of_object kind) arena.toLinked.younger (.property name)
    (Kind.addMember name doc.size) m
  have inner := line_attach (p := doc.size) (by simp) (arena.enter kind fresh).younger new.kind id m
  rw [appendProperty_eq, inner, size_attach, if_neg (by omega), outer, if_neg (Nat.ne_of_lt old)]

end Arena

/-- What is left of the first document when nodes were added below `n`: only the values of `n` and of the
nodes above it differ, and rows of children have new nodes at their ends. -/
structure Undisturbed (doc doc' : Document) (n : Nat) : Prop where
  json {m : Nat} : m < doc.size → m ≠ n → ¬ doc.Below m n → doc'.toJson m = doc.toJson m
  place {m : Nat} : m < doc.size → doc'.placeText m = doc.placeText m
  nodeType {m : Nat} : m < doc.size → doc'.nodeType m = doc.nodeType m
  value {m : Nat} : m < doc.size → doc'.value? m = doc.value? m
  propertyName {m : Nat} : m < doc.size → doc'.propertyName? m = doc.propertyName? m
  constructorName {m : Nat} : m < doc.size → doc'.constructorName? m = doc.constructorName? m
  line {m : Nat} : m < doc.size → doc'.line? m = doc.line? m
  parent {m : Nat} : m < doc.size → doc'.parent? m = doc.parent? m
  previous {m : Nat} : m < doc.size → doc'.previous? m = doc.previous? m
  get {m v : Nat} {name : String} : doc.get? m name = some v → doc'.get? m name = some v
  item {m i c : Nat} : doc.item? m i = some c → doc'.item? m i = some c
  children (m : Nat) : Continues doc.size (doc.children m) (doc'.children m)

theorem Extends.undisturbed {doc doc' : Document} (ext : Extends doc doc') (arena : Arena doc)
    (arena' : Arena doc') {n : Nat} (keeps : Keeps doc doc' n)
    (line : ∀ m < doc.size, doc'.line? m = doc.line? m) : Undisturbed doc doc' n := by
  constructor
  case json => exact arena.toJson_keeps arena' keeps
  case place =>
    intro m old
    rw [placeText, placeText, ext.turns arena arena' old]
  case nodeType => exact ext.nodeType
  case value => exact ext.value
  case propertyName => exact ext.propertyName
  case constructorName => exact ext.constructorName
  case line => exact line _
  case parent => exact ext.parent
  case previous => exact ext.previous
  case get =>
    intro m v name found
    rw [← ext.get arena arena', Option.filter_eq_some_iff] at found
    exact found.1
  case item =>
    intro m i c found
    rw [← ext.item arena arena', Option.filter_eq_some_iff] at found
    exact found.1
  case children => exact ext.children

theorem insert_appends {doc doc' : Document} (arena : Arena doc) {object v : Nat} {name : String}
    {new : NewNode} (done : doc.insert object name new = .ok (doc', v)) :
    (∃ before, doc.toJson object = .object before ∧
      doc'.toJson object = .object (before ++ [(name, doc'.toJson v)])) ∧
    doc'.toJson v = new.toJson ∧ Undisturbed doc doc' object := by
  obtain ⟨members, kind, fresh, same⟩ := insert_cases done
  obtain ⟨rfl, rfl⟩ := Prod.mk.inj same
  have added := arena.appendProperty kind fresh new
  have inner : Grows (doc.appendProperty object name new) (doc.appendProperty object name new)
      (doc.size + 1) := .refl ..
  refine ⟨⟨_, arena.toJson_object kind, ?_⟩, ?_, ?_⟩
  · exact arena.toJson_member added kind fresh inner (arena.toJson_object kind)
  · apply added.toJson_new
    rw [arena.kind_appendProperty kind fresh, if_pos rfl]
  · refine (arena.extends_appendProperty kind fresh new).undisturbed arena added ?_ ?_
    · exact (arena.grows_member kind fresh new added.toLinked inner).toKeeps
    · intro m old
      exact arena.line_appendProperty kind fresh new old

theorem push_appends {doc doc' : Document} (arena : Arena doc) {container v : Nat} {new : NewNode}
    (done : doc.push container new = .ok (doc', v)) :
    (∃ before, doc.toJson container = .array before ∧
      doc'.toJson container = .array (before ++ [doc'.toJson v])) ∧
    doc'.toJson v = new.toJson ∧ Undisturbed doc doc' container := by
  obtain ⟨indexable, same⟩ := push_cases done
  obtain ⟨rfl, rfl⟩ := Prod.mk.inj same
  have added := arena.appendItem indexable new
  have inner : Grows (doc.appendItem container new) (doc.appendItem container new) doc.size :=
    .refl ..
  refine ⟨⟨_, arena.toJson_indexable indexable, ?_⟩, ?_, ?_⟩
  · exact arena.toJson_item added indexable inner (arena.toJson_indexable indexable)
  · apply added.toJson_new
    rw [arena.kind_appendItem indexable, if_pos rfl]
  · refine (arena.extends_appendItem indexable new).undisturbed arena added ?_ ?_
    · exact (arena.grows_item indexable new added.toLinked inner).toKeeps
    · intro m old
      exact arena.line_appendItem indexable new old

/-- Properties can be added to objects that do not have one of the name, and items to arrays and constructors.
What is added is the last entry of the container's value and disturbs nothing else; a request that is
refused changes nothing at all. -/
theorem build_appends {doc : Document} (reachable : Reachable doc) (new : NewNode) :
    (∀ object name,
      ((∃ r, doc.insert object name new = .ok r) ↔
        doc.isObject object = true ∧ ∀ p ∈ doc.children object, doc.propertyName? p ≠ some name) ∧
      (∀ doc' v, doc.insert object name new = .ok (doc', v) →
        (∃ before, doc.toJson object = .object before ∧
          doc'.toJson object = .object (before ++ [(name, doc'.toJson v)])) ∧
        doc'.toJson v = new.toJson ∧ Undisturbed doc doc' object) ∧
      ∀ e, doc.insert object name new = .error e → doc.after (.insert object name new) = doc) ∧
    ∀ container,
      ((∃ r, doc.push container new = .ok r) ↔ doc.isIndexable container = true) ∧
      (∀ doc' v, doc.push container new = .ok (doc', v) →
        (∃ before, doc.toJson container = .array before ∧
          doc'.toJson container = .array (before ++ [doc'.toJson v])) ∧
        doc'.toJson v = new.toJson ∧ Undisturbed doc doc' container) ∧
      ∀ e, doc.push container new = .error e → doc.after (.push container new) = doc := by
  have arena := Arena.of_reachable reachable
  refine ⟨fun object name => ⟨arena.insert_ok_iff, ?_, ?_⟩, fun container => ⟨push_ok_iff, ?_, ?_⟩⟩
  · intro doc' v done
    exact insert_appends arena done
  · intro e refused
    exact after_of_insert_error refused
  · intro doc' v done
    exact push_appends arena done
  · intro e refused
    exact after_of_push_error refused

/-- The inner constructor takes an item; the object has a property `a` and takes no other one. -/
theorem build_stumbling : Reachable stumbling ∧
    (∃ r, stumbling.push 3 .object = .ok r) ∧
    (∀ doc' v, stumbling.push 3 .object = .ok (doc', v) →
      doc'.toJson 3 = .array [.null, .object []] ∧ doc'.toJson 6 = .boolean true) ∧
    ∀ r, stumbling.insert root "a" .object ≠ .ok r := by
  have reachable : Reachable stumbling := (Reachable.root .object).run _
  obtain ⟨insert, push⟩ := build_appends reachable .object
  have indexable : stumbling.isIndexable 3 = true := by cbv
  have former : stumbling.toJson 3 = .array [.null] := by cbv
  have apart : stumbling.toJson 6 = .boolean true := by cbv
  refine ⟨reachable, (push 3).1.mpr indexable, ?_, ?_⟩
  · intro doc' v done
    obtain ⟨⟨before, known, appended⟩, new, undisturbed⟩ := (push 3).2.1 doc' v done
    rw [former, Json.array.injEq] at known
    refine ⟨by rw [appended, ← known, new]; rfl, ?_⟩
    rw [undisturbed.json (by cbv) (by decide) ?_, apart]
    intro below
    exact absurd ((Arena.of_reachable reachable).toLinked.below_lt below) (by decide)
  · intro r done
    have children : stumbling.children root = [1, 5] := by cbv
    have free := ((insert root "a").1.mp ⟨r, done⟩).2 1
    exact free (by simp [children]) (by cbv)

end Document
end PathQuery
