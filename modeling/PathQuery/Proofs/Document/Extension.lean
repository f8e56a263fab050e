import Mathlib.Data.List.Basic
import PathQuery.Proofs.Document.Copy
import PathQuery.Proofs.Document.Walk

/-! A document seen from the nodes that it had before it grew. Whatever was added stands behind what was there:
links upwards and backwards stay, rows of children only get longer at their ends, and with the new nodes
left out every view of an older node is what it was. -/
namespace PathQuery

/-- Further entries stand behind the ones that were there, all of them from `k` on. -/
def Continues (k : Nat) (before after : List Nat) : Prop :=
  ∃ new, after = before ++ new ∧ ∀ c ∈ new, k ≤ c

namespace Continues

variable {k : Nat} {before after : List Nat}

theorem refl (k : Nat) (before : List Nat) : Continues k before before :=
  ⟨[], by simp⟩

theorem trans {j : Nat} (further : k ≤ j) {last : List Nat} (first : Continues k before after)
    (second : Continues j after last) : Continues k before last := by
  obtain ⟨new, rfl, fresh⟩ := first
  obtain ⟨more, rfl, fresher⟩ := second
  refine ⟨new ++ more, by simp, ?_⟩
  intro c mem
  rcases List.mem_append.mp mem with mem | mem
  · exact fresh c mem
  · exact Nat.le_trans further (fresher c mem)

theorem mem (continues : Continues k before after) {c : Nat} (mem : c ∈ before) : c ∈ after := by
  obtain ⟨new, rfl, _⟩ := continues
  exact List.mem_append_left new mem

/-- What is not new was there. -/
theorem mem_of_lt (continues : Continues k before after) {c : Nat} (mem : c ∈ after) (old : c < k) :
    c ∈ before := by
  obtain ⟨new, rfl, fresh⟩ := continues
  rcases List.mem_append.mp mem with mem | mem
  · exact mem
  · exact absurd (fresh c mem) (Nat.not_le_of_lt old)

theorem head (continues : Continues k before after) (old : ∀ c ∈ before, c < k) :
    after.head?.filter (· < k) = before.head? := by
  obtain ⟨new, rfl, fresh⟩ := continues
  cases before with
  | cons c cs => simp [old c]
  | nil =>
    cases new with
    | nil => rfl
    | cons c cs => simpa using fresh c

theorem getElem (continues : Continues k before after) (old : ∀ c ∈ before, c < k) (i : Nat) :
    after[i]?.filter (· < k) = before[i]? := by
  obtain ⟨new, rfl, fresh⟩ := continues
  rcases Nat.lt_or_ge i before.length with inside | beyond
  · simp [List.getElem?_append_left inside, List.getElem?_eq_getElem inside, old]
  · rw [List.getElem?_append_right beyond, List.getElem?_eq_none beyond, Option.filter_eq_none_iff]
    intro c entry
    simpa using fresh c (List.mem_of_getElem? entry)

/-- Positions of older entries stay. -/
theorem idxOf (continues : Continues k before after) {c : Nat} (mem : c ∈ before) :
    after.idxOf c = before.idxOf c := by
  obtain ⟨new, rfl, _⟩ := continues
  exact List.idxOf_append_of_mem mem

theorem filter (continues : Continues k before after) (old : ∀ c ∈ before, c < k) :
    after.filter (· < k) = before := by
  obtain ⟨new, rfl, fresh⟩ := continues
  have kept : before.filter (· < k) = before := List.filter_eq_self.mpr (by simpa using old)
  have none : new.filter (· < k) = [] := List.filter_eq_nil_iff.mpr (by simpa using fresh)
  simp [kept, none]

end Continues

namespace Kind

/-- What of a kind never changes: all but the children that are recorded. -/
def bare : Kind → Kind
  | object _ => object #[]
  | array _ => array #[]
  | constructor name _ => constructor name #[]
  | property name => property name
  | value v => value v

@[simp] theorem nodeType_bare (kind : Kind) : kind.bare.nodeType = kind.nodeType := by
  cases kind <;> rfl

end Kind

namespace Document

theorem Takes.bare_eq {id : Nat} {old child new : Kind} (takes : Takes id old child new) :
    new.bare = old.bare := by
  cases takes <;> rfl

/-- The second document is the first one with nodes added to it. -/
structure Extends (doc doc' : Document) : Prop where
  size_le : doc.size ≤ doc'.size
  bare {m : Nat} : m < doc.size → (doc'.kind m).bare = (doc.kind m).bare
  parent {m : Nat} : m < doc.size → doc'.parent? m = doc.parent? m
  previous {m : Nat} : m < doc.size → doc'.previous? m = doc.previous? m
  children (m : Nat) : Continues doc.size (doc.children m) (doc'.children m)

section Bare

variable {doc doc' : Document} {m : Nat} (same : (doc'.kind m).bare = (doc.kind m).bare)
include same

theorem nodeType_of_bare : doc'.nodeType m = doc.nodeType m := by
  rw [nodeType, ← Kind.nodeType_bare, same, Kind.nodeType_bare]
  rfl

theorem value_of_bare : doc'.value? m = doc.value? m := by
  rw [value?, value?]
  cases kind : doc.kind m <;> cases kind' : doc'.kind m <;> simp_all [Kind.bare]

theorem propertyName_of_bare : doc'.propertyName? m = doc.propertyName? m := by
  rw [propertyName?, propertyName?]
  cases kind : doc.kind m <;> cases kind' : doc'.kind m <;> simp_all [Kind.bare]

theorem constructorName_of_bare : doc'.constructorName? m = doc.constructorName? m := by
  rw [constructorName?, constructorName?]
  cases kind : doc.kind m <;> cases kind' : doc'.kind m <;> simp_all [Kind.bare]

end Bare

namespace Extends

theorem refl (doc : Document) : Extends doc doc :=
  ⟨Nat.le_refl _, fun _ => rfl, fun _ => rfl, fun _ => rfl, fun m => .refl _ (doc.children m)⟩

theorem trans {doc doc' doc'' : Document} (first : Extends doc doc') (second : Extends doc' doc'') :
    Extends doc doc'' := by
  have later {m : Nat} (old : m < doc.size) : m < doc'.size := Nat.lt_of_lt_of_le old first.size_le
  constructor
  case size_le => exact Nat.le_trans first.size_le second.size_le
  case bare =>
    intro m old
    exact (second.bare (later old)).trans (first.bare old)
  case parent =>
    intro m old
    exact (second.parent (later old)).trans (first.parent old)
  case previous =>
    intro m old
    exact (second.previous (later old)).trans (first.previous old)
  case children =>
    intro m
    exact (first.children m).trans first.size_le (second.children m)

theorem attach {doc : Document} (linked : Linked doc) {p : Nat} {kind : Kind} {record : Kind → Kind}
    (inside : p < doc.size) (takes : Takes doc.size (doc.kind p) kind (record (doc.kind p)))
    (bare : kind.recorded = []) (vacant : doc.isProperty p = true → doc.first? p = none) :
    Extends doc (doc.attach p kind record) := by
  have younger : ∀ c ∈ doc.last? p, c < doc.size ∧ c ≠ p := linked.younger
  constructor
  case size_le => simp
  case bare =>
    intro m old
    simp only [kind_attach inside younger, if_neg (Nat.ne_of_lt old)]
    split
    · rename_i here
      exact here ▸ takes.bare_eq
    · rfl
  case parent =>
    intro m old
    simp [parent_attach inside younger, Nat.ne_of_lt old]
  case previous =>
    intro m old
    simp [previous_attach inside younger, Nat.ne_of_lt old]
  case children =>
    intro m
    rw [children_attach linked inside takes bare vacant]
    split
    · rename_i new
      simp only [new, linked.children_eq, linked.listed_size]
      exact .refl ..
    split
    · rename_i here
      exact ⟨[doc.size], by simp [here], by simp⟩
    · exact .refl ..

end Extends

namespace Arena

variable {doc : Document} (arena : Arena doc)
include arena

theorem extends_appendItem {container : Nat} (indexable : doc.isIndexable container = true)
    (new : NewNode) : Extends doc (doc.appendItem container new) := by
  rw [appendItem_eq]
  exact .attach arena.toLinked (lt_size_of_isIndexable indexable) (takes_item indexable new)
    new.recorded_kind (vacant_of_isIndexable indexable)

theorem extends_appendProperty {object : Nat} {members : Array (String × Nat)}
    (kind : doc.kind object = .object members) {name : String}
    (fresh : name ∉ members.toList.map (·.1)) (new : NewNode) :
    Extends doc (doc.appendProperty object name new) := by
  have entered : Extends doc (doc.attach object (.property name) (Kind.addMember name doc.size)) :=
    .attach arena.toLinked (lt_size_of_object kind) (takes_member kind fresh) rfl (vacant_of_object kind)
  rw [appendProperty_eq]
  exact entered.trans (.attach (arena.enter kind fresh) (by simp) (arena.enter_takes kind name new)
    new.recorded_kind fun _ => arena.enter_waits kind name)

theorem extends_setLine {n : Nat} (inside : n < doc.size) (line : LineInfo) :
    Extends doc (doc.update n fun node => { node with line := some line }) := by
  have field {α : Type} := @field_setLine doc n inside line α
  have linked' := (arena.setLine inside line).toLinked
  generalize changed : (doc.update n fun node => { node with line := some line }) = doc' at field linked' ⊢
  have kind : ∀ m, doc'.kind m = doc.kind m := field Node.kind fun _ => rfl
  have first : ∀ m, doc'.first? m = doc.first? m := field Node.first fun _ => rfl
  constructor
  case size_le => simp [← changed]
  case bare =>
    intro m _
    rw [kind]
  case parent =>
    intro m _
    exact field Node.parent (fun _ => rfl) m
  case previous =>
    intro m _
    exact field Node.previous (fun _ => rfl) m
  case children =>
    intro m
    rw [linked'.children_eq, arena.toLinked.children_eq, listed, listed, kind, first]
    exact .refl ..

/-- One step of a history only adds nodes. -/
theorem extends_after (edit : Edit) : Extends doc (doc.after edit) := by
  cases edit with
  | insert object name new =>
    rw [Document.after]
    cases done : doc.insert object name new with
    | error e => exact .refl doc
    | ok r =>
      obtain ⟨members, kind, fresh, rfl⟩ := insert_cases done
      exact arena.extends_appendProperty kind fresh new
  | push container new =>
    rw [Document.after]
    cases done : doc.push container new with
    | error e => exact .refl doc
    | ok r =>
      obtain ⟨indexable, rfl⟩ := push_cases done
      exact arena.extends_appendItem indexable new
  | setLine n line =>
    rw [Document.after]
    cases done : doc.setLine n line with
    | error e => exact .refl doc
    | ok changed =>
      obtain ⟨inside, rfl⟩ := setLine_cases done
      exact arena.extends_setLine inside line

end Arena

namespace Extends

section Bare

variable {doc doc' : Document} (ext : Extends doc doc') {m : Nat} (old : m < doc.size)
include ext old

theorem nodeType : doc'.nodeType m = doc.nodeType m := nodeType_of_bare (ext.bare old)

theorem value : doc'.value? m = doc.value? m := value_of_bare (ext.bare old)

theorem propertyName : doc'.propertyName? m = doc.propertyName? m := propertyName_of_bare (ext.bare old)

theorem constructorName : doc'.constructorName? m = doc.constructorName? m :=
  constructorName_of_bare (ext.bare old)

theorem isObject : doc'.isObject m = doc.isObject m := by
  simp [Document.isObject, ext.nodeType old]

theorem isProperty : doc'.isProperty m = doc.isProperty m := by
  simp [Document.isProperty, ext.nodeType old]

theorem isIndexable : doc'.isIndexable m = doc.isIndexable m := by
  simp [Document.isIndexable, ext.nodeType old]

end Bare

section Views

variable {doc doc' : Document} (ext : Extends doc doc') (arena : Arena doc) (arena' : Arena doc')
include ext arena arena'

theorem first (n : Nat) : (doc'.first? n).filter (· < doc.size) = doc.first? n := by
  have head := (ext.children n).head fun c child => (arena.toLinked.child_lt child).2
  rwa [arena.toLinked.children_eq, arena'.toLinked.children_eq, ← arena.toLinked.first,
    ← arena'.toLinked.first] at head

theorem childValue {c : Nat} (old : c < doc.size) : doc'.childValue? c = doc.childValue? c := by
  cases property : doc.isProperty c with
  | true =>
    obtain ⟨v, first⟩ := Option.isSome_iff_exists.mp (arena.complete c property)
    have same := ext.first arena arena' c
    rw [first, Option.filter_eq_some_iff] at same
    simp [childValue?, ext.isProperty old, property, first, same.1]
  | false => rw [childValue_plain property, childValue_plain ((ext.isProperty old).trans property)]

theorem values (n : Nat) : Continues doc.size (doc.values n) (doc'.values n) := by
  obtain ⟨new, children, fresh⟩ := ext.children n
  refine ⟨new.filterMap doc'.childValue?, ?_, ?_⟩
  · have older : (doc.children n).filterMap doc'.childValue? = doc.values n := by
      apply List.filterMap_congr
      intro c child
      exact ext.childValue arena arena' (arena.toLinked.child_lt child).2
    rw [Document.values, children, List.filterMap_append, older]
  · intro v mem
    obtain ⟨c, among, value⟩ := List.mem_filterMap.mp mem
    have new := fresh c among
    obtain ⟨_, rfl | below⟩ := arena'.childValue_below value
    · exact new
    · exact Nat.le_trans new (Nat.le_of_lt (arena'.toLinked.below_lt below))

/-- A new node holds new values only, so none of them is among the older ones. -/
theorem item (n i : Nat) : (doc'.item? n i).filter (· < doc.size) = doc.item? n i := by
  have range : ∀ v ∈ doc.values n, n < v ∧ v < doc.size :=
    fun v mem => arena.toLinked.below_range (arena.values_below mem).2
  have values := (ext.values arena arena' n).getElem (fun v mem => (range v mem).2) i
  rw [arena'.item_eq, arena.item_eq]
  rcases Nat.lt_or_ge n doc.size with old | fresh
  · rw [ext.isIndexable old]
    split
    · exact values
    · rfl
  · have empty : doc.values n = [] := List.eq_nil_iff_forall_not_mem.mpr fun v mem => by
      have := range v mem
      omega
    rw [empty] at values ⊢
    split <;> simp [values]

theorem get (n : Nat) (name : String) :
    (doc'.get? n name).filter (· < doc.size) = doc.get? n name := by
  ext v
  simp only [Option.filter_eq_some_iff, arena'.get_eq_some_iff, arena.get_eq_some_iff, decide_eq_true_eq]
  constructor
  · rintro ⟨⟨p, child, named, value⟩, old⟩
    have inner := arena'.toLinked.child_lt (value ▸ List.mem_singleton_self v)
    have older : p < doc.size := Nat.lt_trans inner.1 old
    refine ⟨p, (ext.children n).mem_of_lt child older, ext.propertyName older ▸ named, ?_⟩
    have kept := (ext.children p).filter fun c child => (arena.toLinked.child_lt child).2
    rw [← kept, value]
    simp [old]
  · rintro ⟨p, child, named, value⟩
    -- A property has one child in either document, so what it had is still the only one.
    have older := (arena.toLinked.child_lt child).2
    have old := (arena.toLinked.child_lt (value ▸ List.mem_singleton_self v)).2
    have named' := (ext.propertyName older).trans named
    obtain ⟨w, children, _⟩ := arena'.property_children (isProperty_of_name named')
    have mem := (ext.children p).mem (value ▸ List.mem_singleton_self v)
    rw [children, List.mem_singleton] at mem
    exact ⟨⟨p, (ext.children n).mem child, named', mem ▸ children⟩, old⟩

/-- The nodes below a node, with the new ones left out, are those that were there, in the same order. -/
theorem preorder (n : Nat) : (doc'.preorder n).filter (· < doc.size) = doc.preorder n := by
  -- The induction is over the larger tree: it has the children of the smaller one among its own.
  induction n using arena'.toLinked.child_induction with
  | step n ih =>
    obtain ⟨new, children, fresh⟩ := ext.children n
    have older : ∀ c ∈ doc.children n,
        (c :: doc'.preorder c).filter (· < doc.size) = c :: doc.preorder c := by
      intro c child
      have old := (arena.toLinked.child_lt child).2
      simp [old, ih c ((ext.children n).mem child)]
    have younger : ∀ c ∈ new, (c :: doc'.preorder c).filter (· < doc.size) = [] := by
      intro c mem
      have range := fresh c mem
      rw [List.filter_eq_nil_iff]
      rintro m (_ | ⟨_, below⟩)
      · simpa using range
      · have := (arena'.toLinked.preorder_lt below).1
        simp
        omega
    rw [arena'.toLinked.preorder_eq, children, arena.toLinked.preorder_eq, List.filter_flatMap,
      List.flatMap_append, List.flatMap_congr older]
    simpa using younger

/-- No turn on the way down to an older node changes: items keep their positions. -/
theorem turn {p c : Nat} (child : c ∈ doc.children p) : doc'.turn? p c = doc.turn? p c := by
  have range := arena.toLinked.child_lt child
  rw [turn?, turn?, ext.propertyName range.2, ext.isProperty (Nat.lt_trans range.1 range.2)]
  cases named : doc.propertyName? c with
  | some name => rfl
  | none =>
    have plain := propertyName_eq_none.mp named
    have mem : c ∈ doc.values p := List.mem_filterMap.mpr ⟨c, child, childValue_plain plain⟩
    rw [(ext.values arena arena' p).idxOf mem]

theorem turns {n : Nat} (old : n < doc.size) : doc'.turns n = doc.turns n := by
  induction n using Nat.strongRecOn with
  | _ n ih =>
    rcases Nat.eq_zero_or_pos n with rfl | positive
    · exact arena'.turns_root.trans arena.turns_root.symm
    · obtain ⟨p, older, parent⟩ := arena.toLinked.parent n positive old
      have child : n ∈ doc.children p := arena.toLinked.mem_children.mpr ⟨old, parent⟩
      rw [arena.turns_child child, arena'.turns_child ((ext.children p).mem child),
        ext.turn arena arena' child, ih p older (Nat.lt_trans older old)]

end Views

end Extends

/-- A whole history only adds nodes. -/
theorem Reachable.extends_run {doc : Document} (reachable : Reachable doc) (edits : List Edit) :
    Extends doc (edits.foldl after doc) := by
  induction edits generalizing doc with
  | nil => exact .refl doc
  | cons edit edits ih =>
    exact ((Arena.of_reachable reachable).extends_after edit).trans (ih (reachable.edit edit))

end Document
end PathQuery
