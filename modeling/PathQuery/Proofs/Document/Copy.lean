import PathQuery.Proofs.Decimal.Nearest
import PathQuery.Proofs.Document.Growth

/-! The JSON value of a node, and the document made from a JSON value. Making a document and taking the value
of its root is to change nothing but the whole numbers that a document does not have, if names in objects
differ and doubles are finite; and the value of a node of any document is such a value, without such
numbers. -/
namespace PathQuery

theorem Unsigned.isFinite_toDouble (n : Unsigned) : n.toDouble.isFinite = true := by
  have large : 2 ^ 63 ≤ n.val.toNat := n.large
  have fits : (n.val.toNat : Rat) < 2 ^ 64 := by exact_mod_cast n.val.toNat_lt
  apply Double.isFinite_ofMagnitude
  · simp only [Int.cast_natCast, Nat.cast_pos]
    omega
  · simp only [Int.cast_natCast]
    exact fits.trans (pow_lt_pow_right₀ (by norm_num) (by norm_num))

namespace Json

mutual

/-- The value with the nearest double in place of every whole number beyond the signed ones. -/
def rounded : Json → Json
  | .unsigned n => .double n.toDouble
  | .array items => .array (itemsRounded items)
  | .object members => .object (membersRounded members)
  | json => json

def itemsRounded : List Json → List Json
  | [] => []
  | item :: items => item.rounded :: itemsRounded items

def membersRounded : List (String × Json) → List (String × Json)
  | [] => []
  | (name, json) :: members => (name, json.rounded) :: membersRounded members

end

theorem itemsRounded_eq (items : List Json) : itemsRounded items = items.map rounded := by
  induction items with
  | nil => rfl
  | cons item items ih => simp [itemsRounded, ih]

theorem membersRounded_eq (members : List (String × Json)) :
    membersRounded members = members.map fun m => (m.1, m.2.rounded) := by
  induction members with
  | nil => rfl
  | cons m members ih => simp [membersRounded, ih]

mutual

/-- Every double is finite, at any depth. -/
def isFinite : Json → Bool
  | .double x => x.isFinite
  | .array items => itemsFinite items
  | .object members => membersFinite members
  | _ => true

def itemsFinite : List Json → Bool
  | [] => true
  | item :: items => item.isFinite && itemsFinite items

def membersFinite : List (String × Json) → Bool
  | [] => true
  | (_, json) :: members => json.isFinite && membersFinite members

end

theorem itemsKeyed_eq (items : List Json) : itemsKeyed items = items.all isKeyed := by
  induction items with
  | nil => rfl
  | cons item items ih => rw [itemsKeyed, List.all_cons, ih]

theorem membersKeyed_eq (members : List (String × Json)) :
    membersKeyed members = members.all fun m => m.2.isKeyed := by
  induction members with
  | nil => rfl
  | cons m members ih => rw [membersKeyed, List.all_cons, ih]

theorem itemsFinite_eq (items : List Json) : itemsFinite items = items.all isFinite := by
  induction items with
  | nil => rfl
  | cons item items ih => rw [itemsFinite, List.all_cons, ih]

theorem membersFinite_eq (members : List (String × Json)) :
    membersFinite members = members.all fun m => m.2.isFinite := by
  induction members with
  | nil => rfl
  | cons m members ih => rw [membersFinite, List.all_cons, ih]

end Json

namespace Scalar

theorem toJson_keyed (v : Scalar) : v.toJson.isKeyed = true := by
  cases v with
  | double x =>
    rw [toJson]
    split <;> rfl
  | _ => rfl

theorem toJson_finite (v : Scalar) : v.toJson.isFinite = true := by
  cases v with
  | double x =>
    rw [toJson]
    split
    · assumption
    · rfl
  | _ => rfl

theorem rounded_toJson (v : Scalar) : v.toJson.rounded = v.toJson := by
  cases v with
  | double x =>
    rw [toJson]
    split <;> rfl
  | _ => rfl

/-- The primitives that JSON has. -/
def isJson : Scalar → Bool
  | null | boolean _ | integer _ | string _ => true
  | double x => x.isFinite
  | _ => false

end Scalar

namespace Kind

def isJson : Kind → Bool
  | object _ | array _ | property _ => true
  | constructor .. => false
  | value v => v.isJson

theorem isJson_addItem (kind : Kind) (item : Nat) : (kind.addItem item).isJson = kind.isJson := by
  cases kind <;> rfl

end Kind

namespace Document

theorem toJson_value {doc : Document} {n : Nat} {v : Scalar} (kind : doc.kind n = .value v) :
    doc.toJson n = v.toJson := by
  rw [toJson, kind]

namespace Arena

section Equations

variable {doc : Document} (arena : Arena doc)
include arena

theorem toJson_property {p v : Nat} (property : doc.isProperty p = true) (children : doc.children p = [v]) :
    doc.toJson p = doc.toJson v := by
  obtain ⟨w, known, first, _⟩ := arena.property_children property
  rw [children, List.cons.injEq] at known
  have range := arena.toLinked.child_lt (children ▸ List.mem_singleton_self v)
  rw [toJson]
  cases kind : doc.kind p with
  | property name =>
    dsimp only
    rw [first, ← known.1, Option.bind_some, if_pos range]
    rfl
  | object | array | constructor | value => simp [isProperty, nodeType, kind, Kind.nodeType] at property

theorem toJson_indexable {n : Nat} (indexable : doc.isIndexable n = true) :
    doc.toJson n = .array ((doc.children n).map doc.toJson) := by
  have values := arena.values_of_isIndexable indexable
  have below : (doc.children n).filterMap
      (fun c => if n < c ∧ c < doc.size then some (doc.toJson c) else none) =
        (doc.children n).map doc.toJson := by
    rw [← List.filterMap_eq_map]
    apply List.filterMap_congr
    intro c child
    exact if_pos (arena.toLinked.child_lt child)
  rw [toJson]
  cases kind : doc.kind n with
  | array | constructor =>
    dsimp only
    rw [values, below]
  | object | property | value => simp [isIndexable, nodeType, kind, Kind.nodeType] at indexable

theorem toJson_object {n : Nat} {members : Array (String × Nat)} (kind : doc.kind n = .object members) :
    doc.toJson n = .object (members.toList.map fun m => (m.1, doc.toJson m.2)) := by
  have linked := arena.toLinked
  have children := (arena.consistent.object kind).1
  rw [toJson, kind]
  dsimp only
  rw [children, List.filterMap_map, ← List.filterMap_eq_map]
  congr 1
  apply List.filterMap_congr
  intro m mem
  have named := linked.named_of_mem kind mem
  have property := isProperty_of_name named.2
  obtain ⟨v, value, first, _⟩ := arena.property_children property
  have outer := linked.child_lt named.1
  have inner := linked.child_lt (value ▸ List.mem_singleton_self v)
  have range : n < v ∧ v < doc.size := ⟨Nat.lt_trans outer.1 inner.1, inner.2⟩
  simp only [Function.comp, named.2, first, Option.bind_some, if_pos range,
    arena.toJson_property property value]

/-- What holds of the values of primitives, and of a container if it holds of what the container holds, holds
of the value of every node. -/
theorem toJson_induction {P : Json → Prop} (primitive : ∀ v : Scalar, P v.toJson)
    (array : ∀ items, (∀ item ∈ items, P item) → P (.array items))
    (object : ∀ members : List (String × Json), (members.map (·.1)).Nodup → (∀ m ∈ members, P m.2) →
      P (.object members)) (n : Nat) : P (doc.toJson n) := by
  induction n using arena.toLinked.child_induction with
  | step n ih =>
    cases kind : doc.kind n with
    | value v =>
      rw [toJson_value kind]
      exact primitive v
    | property name =>
      have property : doc.isProperty n = true := by simp [isProperty, nodeType, kind, Kind.nodeType]
      obtain ⟨v, children, _⟩ := arena.property_children property
      rw [arena.toJson_property property children]
      exact ih v (children ▸ List.mem_singleton_self v)
    | array | constructor =>
      have indexable : doc.isIndexable n = true := by simp [isIndexable, nodeType, kind, Kind.nodeType]
      rw [arena.toJson_indexable indexable]
      apply array
      intro item mem
      obtain ⟨c, child, rfl⟩ := List.mem_map.mp mem
      exact ih c child
    | object members =>
      obtain ⟨children, distinct, _⟩ := arena.consistent.object kind
      rw [arena.toJson_object kind]
      apply object
      · rw [List.map_map]
        exact distinct
      · intro entry mem
        obtain ⟨m, among, rfl⟩ := List.mem_map.mp mem
        apply ih m.2
        rw [children]
        exact List.mem_map_of_mem among

theorem toJson_keyed (n : Nat) : (doc.toJson n).isKeyed = true := by
  refine arena.toJson_induction (P := fun json => json.isKeyed = true) Scalar.toJson_keyed ?_ ?_ n
  · intro items ih
    rwa [Json.isKeyed, Json.itemsKeyed_eq, List.all_eq_true]
  · intro members distinct ih
    rw [Json.isKeyed, Json.membersKeyed_eq, Bool.and_eq_true, decide_eq_true_eq, List.all_eq_true]
    exact ⟨distinct, ih⟩

theorem toJson_finite (n : Nat) : (doc.toJson n).isFinite = true := by
  refine arena.toJson_induction (P := fun json => json.isFinite = true) Scalar.toJson_finite ?_ ?_ n
  · intro items ih
    rwa [Json.isFinite, Json.itemsFinite_eq, List.all_eq_true]
  · intro members _ ih
    rwa [Json.isFinite, Json.membersFinite_eq, List.all_eq_true]

/-- Documents have no whole numbers beyond the signed ones. -/
theorem rounded_toJson (n : Nat) : (doc.toJson n).rounded = doc.toJson n := by
  refine arena.toJson_induction (P := fun json => json.rounded = json) Scalar.rounded_toJson ?_ ?_ n
  · intro items ih
    simp only [Json.rounded, Json.itemsRounded_eq, Json.array.injEq]
    exact (List.map_congr_left ih).trans (List.map_id' items)
  · intro members _ ih
    simp only [Json.rounded, Json.membersRounded_eq, Json.object.injEq]
    refine (List.map_congr_left fun m mem => ?_).trans (List.map_id' members)
    rw [ih m mem]

end Equations

section Growth

variable {doc doc' : Document} (arena : Arena doc) (arena' : Arena doc')
include arena arena'

/-- Growth below one node changes the values of that node and of those above it only. -/
theorem toJson_keeps {n m : Nat} (keeps : Keeps doc doc' n) (inside : m < doc.size) (other : m ≠ n)
    (apart : ¬ doc.Below m n) : doc'.toJson m = doc.toJson m := by
  induction m using arena.toLinked.child_induction with
  | step m ih =>
    have same := keeps.kind inside other
    have children := keeps.children inside other
    have below : ∀ c ∈ doc.children m, doc'.toJson c = doc.toJson c := by
      intro c child
      obtain ⟨within, parent⟩ := arena.toLinked.mem_children.mp child
      refine ih c child within ?_ fun deeper => apart (.tail deeper parent)
      rintro rfl
      exact apart (.single parent)
    cases kind : doc.kind m with
    | value v => rw [toJson_value kind, toJson_value (same.trans kind)]
    | property name =>
      have property : doc.isProperty m = true := by simp [isProperty, nodeType, kind, Kind.nodeType]
      have property' : doc'.isProperty m = true := by
        simp [isProperty, nodeType, same.trans kind, Kind.nodeType]
      obtain ⟨v, value, _⟩ := arena.property_children property
      rw [arena.toJson_property property value, arena'.toJson_property property' (children.trans value),
        below v (value ▸ List.mem_singleton_self v)]
    | array | constructor =>
      have indexable : doc.isIndexable m = true := by simp [isIndexable, nodeType, kind, Kind.nodeType]
      have indexable' : doc'.isIndexable m = true := by
        simp [isIndexable, nodeType, same.trans kind, Kind.nodeType]
      rw [arena.toJson_indexable indexable, arena'.toJson_indexable indexable', children,
        List.map_congr_left below]
    | object members =>
      rw [arena.toJson_object kind, arena'.toJson_object (same.trans kind), Json.object.injEq]
      apply List.map_congr_left
      intro entry mem
      rw [below entry.2]
      rw [(arena.consistent.object kind).1]
      exact List.mem_map_of_mem mem

variable {n : Nat}

theorem toJson_child (grows : Grows doc doc' n) : ∀ c ∈ doc.children n, doc'.toJson c = doc.toJson c := by
  intro c child
  have range := arena.toLinked.child_lt child
  refine arena.toJson_keeps arena' grows.toKeeps range.2 (Nat.ne_of_gt range.1) fun below => ?_
  exact Nat.lt_asymm range.1 (arena.toLinked.below_lt below)

/-- An array or constructor with a new item has a value with one item more. -/
theorem toJson_item (indexable : doc.isIndexable n = true) {new : NewNode}
    (inner : Grows (doc.appendItem n new) doc' doc.size) {before : List Json}
    (known : doc.toJson n = .array before) :
    doc'.toJson n = .array (before ++ [doc'.toJson doc.size]) := by
  have inside := lt_size_of_isIndexable indexable
  have grows := arena.grows_item indexable new arena'.toLinked inner
  have takes := takes_item indexable new
  have grown : n < (doc.appendItem n new).size := by
    rw [appendItem_eq, size_attach]
    omega
  have indexable' : doc'.isIndexable n = true := by
    rw [isIndexable, nodeType, inner.kind grown (Nat.ne_of_lt inside), arena.kind_appendItem indexable,
      if_neg (Nat.ne_of_lt inside), if_pos rfl, takes.nodeType_eq]
    exact indexable
  have children : doc'.children n = doc.children n ++ [doc.size] := by
    rw [inner.children grown (Nat.ne_of_lt inside), appendItem_eq,
      children_attach arena.toLinked inside takes new.recorded_kind (vacant_of_isIndexable indexable),
      if_neg (Nat.ne_of_lt inside), if_pos rfl]
  have older : (doc.children n).map doc'.toJson = before := by
    rw [arena.toJson_indexable indexable, Json.array.injEq] at known
    rw [← known]
    exact List.map_congr_left (arena.toJson_child arena' grows)
  rw [arena'.toJson_indexable indexable', children, List.map_append, List.map_singleton, older]

omit arena' in
/-- A new property has the new value as its child. -/
theorem children_appendProperty {members : Array (String × Nat)} (kind : doc.kind n = .object members)
    {name : String} (fresh : name ∉ members.toList.map (·.1)) (new : NewNode) :
    (doc.appendProperty n name new).children doc.size = [doc.size + 1] := by
  have inside := lt_size_of_object kind
  have added := arena.appendProperty kind fresh new
  have named : (doc.appendProperty n name new).kind doc.size = .property name := by
    rw [arena.kind_appendProperty kind fresh, if_neg (by omega), if_pos rfl]
  have property : (doc.appendProperty n name new).isProperty doc.size = true := by
    simp [isProperty, nodeType, named, Kind.nodeType]
  have parent : (doc.appendProperty n name new).parent? (doc.size + 1) = some doc.size := by
    rw [appendProperty_eq, parent_attach (by simp) (arena.enter kind fresh).younger, size_attach,
      if_pos rfl]
  obtain ⟨v, value, _⟩ := added.property_children property
  have child := added.toLinked.child_of_parent parent
  rw [value, List.mem_singleton] at child
  rw [value, child]

/-- An object with a new member has a value with one member more. -/
theorem toJson_member {members : Array (String × Nat)} (kind : doc.kind n = .object members)
    {name : String} (fresh : name ∉ members.toList.map (·.1)) {new : NewNode}
    (inner : Grows (doc.appendProperty n name new) doc' (doc.size + 1)) {before : List (String × Json)}
    (known : doc.toJson n = .object before) :
    doc'.toJson n = .object (before ++ [(name, doc'.toJson (doc.size + 1))]) := by
  have inside := lt_size_of_object kind
  have grows := arena.grows_member kind fresh new arena'.toLinked inner
  have kindOf := arena.kind_appendProperty kind fresh new
  have size : (doc.appendProperty n name new).size = doc.size + 2 := by simp [appendProperty_eq]
  have object' : doc'.kind n = .object (members.push (name, doc.size)) := by
    rw [inner.kind (by omega) (by omega), kindOf, if_neg (by omega), if_neg (by omega), if_pos rfl]
  have entry : doc'.toJson doc.size = doc'.toJson (doc.size + 1) := by
    have property' : doc'.isProperty doc.size = true := by
      rw [isProperty, nodeType, inner.kind (by omega) (by omega), kindOf, if_neg (by omega), if_pos rfl]
      rfl
    apply arena'.toJson_property property'
    rw [inner.children (by omega) (by omega), arena.children_appendProperty kind fresh]
  have older : members.toList.map (fun m => (m.1, doc'.toJson m.2)) = before := by
    rw [arena.toJson_object kind, Json.object.injEq] at known
    rw [← known]
    apply List.map_congr_left
    intro m mem
    rw [arena.toJson_child arena' grows m.2 (arena.toLinked.named_of_mem kind mem).1]
  rw [arena'.toJson_object object', Array.toList_push, List.map_append, List.map_singleton, entry, older]

end Growth

mutual

/-- What is filled in is the value of the node, as far as a document can have it. -/
theorem fill_toJson (json : Json) (keyed : json.isKeyed = true) (finite : json.isFinite = true)
    {doc : Document} (arena : Arena doc) {n : Nat} (kind : doc.kind n = (shell json).kind) :
    (fill doc n json).toJson n = json.rounded := by
  cases json with
  | null | boolean | integer | string => exact toJson_value kind
  | unsigned k =>
    change doc.toJson n = .double k.toDouble
    rw [toJson_value kind, Scalar.toJson, if_pos k.isFinite_toDouble]
  | double x =>
    rw [Json.isFinite] at finite
    change doc.toJson n = .double x
    rw [toJson_value kind, Scalar.toJson, if_pos finite]
  | array items =>
    have indexable := isIndexable_of_shell kind
    have empty : doc.toJson n = .array [] := by
      rw [arena.toJson_indexable indexable, arena.consistent.array kind]
      rfl
    exact fillItems_toJson items keyed finite arena indexable empty
  | object members =>
    simp only [Json.isKeyed, Bool.and_eq_true, decide_eq_true_eq] at keyed
    have empty : doc.toJson n = .object [] := arena.toJson_object kind
    exact fillMembers_toJson members keyed.2 finite arena kind keyed.1 empty

theorem fillItems_toJson (items : List Json) (keyed : Json.itemsKeyed items = true)
    (finite : Json.itemsFinite items = true) {doc : Document} (arena : Arena doc) {n : Nat}
    (indexable : doc.isIndexable n = true) {before : List Json} (known : doc.toJson n = .array before) :
    (fillItems doc n items).toJson n = .array (before ++ Json.itemsRounded items) := by
  cases items with
  | nil => rw [fillItems, known, Json.itemsRounded, List.append_nil]
  | cons item items =>
    simp only [Json.itemsKeyed, Json.itemsFinite, Bool.and_eq_true] at keyed finite
    obtain ⟨added, shelled, filled, still⟩ := arena.fill_item indexable keyed.1
    have inner := fill_grows item keyed.1 added shelled
    have known := arena.toJson_item filled indexable inner known
    rw [fill_toJson item keyed.1 finite.1 added shelled] at known
    rw [fillItems, fillItems_toJson items keyed.2 finite.2 filled still known, List.append_assoc,
      List.singleton_append, Json.itemsRounded]

theorem fillMembers_toJson (members : List (String × Json)) (keyed : Json.membersKeyed members = true)
    (finite : Json.membersFinite members = true) {doc : Document} (arena : Arena doc) {n : Nat}
    {entries : Array (String × Nat)} (kind : doc.kind n = .object entries)
    (distinct : (entries.toList.map (·.1) ++ members.map (·.1)).Nodup)
    {before : List (String × Json)} (known : doc.toJson n = .object before) :
    (fillMembers doc n members).toJson n = .object (before ++ Json.membersRounded members) := by
  match members with
  | [] => rw [fillMembers, known, Json.membersRounded, List.append_nil]
  | (name, json) :: members =>
    simp only [Json.membersKeyed, Json.membersFinite, Bool.and_eq_true] at keyed finite
    obtain ⟨fresh, others⟩ := names_cons distinct doc.size
    obtain ⟨added, shelled, filled, still⟩ := arena.fill_member kind fresh keyed.1
    have inner := fill_grows json keyed.1 added shelled
    have known := arena.toJson_member filled kind fresh inner known
    rw [fill_toJson json keyed.1 finite.1 added shelled] at known
    rw [fillMembers, fillMembers_toJson members keyed.2 finite.2 filled still others known,
      List.append_assoc, List.singleton_append, Json.membersRounded]

end

/-- The document that is made from a JSON value has that value, as far as it can. -/
theorem toJson_ofJson {json : Json} (keyed : json.isKeyed = true) (finite : json.isFinite = true) :
    (Document.ofJson json).toJson root = json.rounded :=
  fill_toJson json keyed finite (.ofRoot (shell json)) rfl

end Arena

/-- Nothing but what JSON has: no constructors, no richer primitives and no doubles beyond all bounds. -/
def IsJson (doc : Document) : Prop := ∀ n, (doc.kind n).isJson = true

namespace IsJson

theorem ofRoot {new : NewNode} (json : new.kind.isJson = true) : IsJson (ofRoot new) := by
  intro n
  rcases Nat.lt_or_ge n 1 with inside | beyond
  · rw [Nat.lt_one_iff.mp inside]
    exact json
  · rw [Document.kind, node_of_size_le (Arena.size_ofRoot new ▸ beyond)]
    rfl

end IsJson

namespace Arena

variable {doc : Document} (arena : Arena doc) {n : Nat}
include arena

theorem isJson_appendItem (json : IsJson doc) (indexable : doc.isIndexable n = true) {new : NewNode}
    (plain : new.kind.isJson = true) : IsJson (doc.appendItem n new) := by
  intro m
  rw [arena.kind_appendItem indexable]
  split
  · exact plain
  split
  · rw [Kind.isJson_addItem]
    exact json n
  · exact json m

theorem isJson_appendProperty (json : IsJson doc) {before : Array (String × Nat)}
    (kind : doc.kind n = .object before) {name : String} (fresh : name ∉ before.toList.map (·.1))
    {new : NewNode} (plain : new.kind.isJson = true) : IsJson (doc.appendProperty n name new) := by
  intro m
  rw [arena.kind_appendProperty kind fresh]
  split
  · exact plain
  split
  · rfl
  split
  · rfl
  · exact json m

omit arena in
theorem isJson_shell {json : Json} (finite : json.isFinite = true) :
    (shell json).kind.isJson = true := by
  cases json with
  | unsigned k => exact k.isFinite_toDouble
  | double => exact finite
  | _ => rfl

omit arena

mutual

theorem fill_isJson (json : Json) (keyed : json.isKeyed = true) (finite : json.isFinite = true)
    {doc : Document} (arena : Arena doc) (isJson : IsJson doc) {n : Nat}
    (kind : doc.kind n = (shell json).kind) : IsJson (fill doc n json) := by
  cases json with
  | null | boolean | integer | unsigned | double | string => exact isJson
  | array items =>
    exact fillItems_isJson items keyed finite arena isJson (isIndexable_of_shell kind)
  | object members =>
    simp only [Json.isKeyed, Bool.and_eq_true, decide_eq_true_eq] at keyed
    exact fillMembers_isJson members keyed.2 finite arena isJson kind keyed.1

theorem fillItems_isJson (items : List Json) (keyed : Json.itemsKeyed items = true)
    (finite : Json.itemsFinite items = true) {doc : Document} (arena : Arena doc) (isJson : IsJson doc)
    {n : Nat} (indexable : doc.isIndexable n = true) : IsJson (fillItems doc n items) := by
  cases items with
  | nil => exact isJson
  | cons item items =>
    simp only [Json.itemsKeyed, Json.itemsFinite, Bool.and_eq_true] at keyed finite
    obtain ⟨added, shelled, filled, still⟩ := arena.fill_item indexable keyed.1
    have longer := arena.isJson_appendItem isJson indexable (isJson_shell finite.1)
    have first := fill_isJson item keyed.1 finite.1 added longer shelled
    exact fillItems_isJson items keyed.2 finite.2 filled first still

theorem fillMembers_isJson (members : List (String × Json)) (keyed : Json.membersKeyed members = true)
    (finite : Json.membersFinite members = true) {doc : Document} (arena : Arena doc)
    (isJson : IsJson doc) {n : Nat} {before : Array (String × Nat)}
    (kind : doc.kind n = .object before)
    (distinct : (before.toList.map (·.1) ++ members.map (·.1)).Nodup) :
    IsJson (fillMembers doc n members) := by
  match members with
  | [] => exact isJson
  | (name, json) :: members =>
    simp only [Json.membersKeyed, Json.membersFinite, Bool.and_eq_true] at keyed finite
    obtain ⟨fresh, others⟩ := names_cons distinct doc.size
    obtain ⟨added, shelled, filled, still⟩ := arena.fill_member kind fresh keyed.1
    have longer := arena.isJson_appendProperty isJson kind fresh (isJson_shell finite.1)
    have first := fill_isJson json keyed.1 finite.1 added longer shelled
    exact fillMembers_isJson members keyed.2 finite.2 filled first still others

end

theorem isJson_ofJson {json : Json} (keyed : json.isKeyed = true) (finite : json.isFinite = true) :
    IsJson (Document.ofJson json) :=
  fill_isJson json keyed finite (.ofRoot (shell json)) (.ofRoot (isJson_shell finite)) rfl

end Arena
end Document
end PathQuery
