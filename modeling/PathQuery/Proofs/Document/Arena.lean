import PathQuery.Proofs.Document.Attach

/-! The invariant of documents. Each child is known three times: by its parent's record, by its own link
to the parent, and by the links between siblings. `Linked` says that the three agree. It holds while a
property still waits for its value; `Arena` says moreover that none does. -/
namespace PathQuery.Document

/-- The children that a node's record names, in order; a property has its value. -/
def listed (doc : Document) (n : Nat) : List Nat :=
  match doc.kind n with
  | .property _ => (doc.first? n).toList
  | kind => kind.recorded

theorem listed_of_property {doc : Document} {n : Nat} (property : doc.isProperty n = true) :
    doc.listed n = (doc.first? n).toList := by
  unfold listed
  simp only [isProperty, nodeType] at property
  cases kind : doc.kind n <;> simp_all [Kind.nodeType]

theorem listed_of_plain {doc : Document} {n : Nat} (plain : doc.isProperty n = false) :
    doc.listed n = (doc.kind n).recorded := by
  unfold listed
  simp only [isProperty, nodeType] at plain
  cases kind : doc.kind n <;> simp_all [Kind.nodeType]

/-- The nodes are linked to each other in this order; `before` precedes the first of them. -/
inductive Row (doc : Document) : (before : Option Nat) → List Nat → Prop where
  | nil {before : Option Nat} : Row doc before []
  | cons {before : Option Nat} {c : Nat} {cs : List Nat} (previous : doc.previous? c = before)
      (next : doc.next? c = cs.head?) (rest : Row doc (some c) cs) : Row doc before (c :: cs)

structure Linked (doc : Document) : Prop where
  rootParent : doc.parent? root = none
  rootPrevious : doc.previous? root = none
  rootNext : doc.next? root = none
  rootPlain : doc.isProperty root = false
  parent : ∀ n, 0 < n → n < doc.size → ∃ p, p < n ∧ doc.parent? n = some p
  child : ∀ p c, c ∈ doc.listed p ↔ c < doc.size ∧ doc.parent? c = some p
  ascending : ∀ p, (doc.listed p).Pairwise (· < ·)
  first : ∀ p, doc.first? p = (doc.listed p).head?
  last : ∀ p, doc.last? p = (doc.listed p).getLast?
  row : ∀ p, doc.Row none (doc.listed p)
  named : ∀ p members, doc.kind p = .object members →
    ∀ m ∈ members.toList, doc.kind m.2 = .property m.1
  distinct : ∀ p members, doc.kind p = .object members → (members.toList.map (·.1)).Nodup
  plain : ∀ p, doc.isObject p = false → ∀ c ∈ doc.listed p, doc.isProperty c = false

structure Arena (doc : Document) : Prop extends Linked doc where
  complete : ∀ n, doc.isProperty n = true → (doc.first? n).isSome = true

section Row

variable {doc doc' : Document}

theorem row_congr {before : Option Nat} {cs : List Nat}
    (previous : ∀ c ∈ cs, doc'.previous? c = doc.previous? c)
    (next : ∀ c ∈ cs, doc'.next? c = doc.next? c) (row : doc.Row before cs) :
    doc'.Row before cs := by
  induction row with
  | nil => exact .nil
  | @cons before c cs front link _ ih =>
    refine .cons ?_ ?_ (ih (fun d hd => previous d (List.mem_cons_of_mem c hd))
      (fun d hd => next d (List.mem_cons_of_mem c hd)))
    · rw [previous c List.mem_cons_self, front]
    · rw [next c List.mem_cons_self, link]

/-- A row gets longer at its end: only the last node's next link changes. -/
theorem row_append {before : Option Nat} {cs : List Nat} {n : Nat} (nodup : cs.Nodup)
    (previous : ∀ c ∈ cs, doc'.previous? c = doc.previous? c)
    (next : ∀ c ∈ cs, doc'.next? c = if cs.getLast? = some c then some n else doc.next? c)
    (newPrevious : doc'.previous? n = cs.getLast?.or before) (newNext : doc'.next? n = none)
    (row : doc.Row before cs) : doc'.Row before (cs ++ [n]) := by
  induction row with
  | nil => exact .cons newPrevious newNext .nil
  | @cons before c cs front link _ ih =>
    have inner : ∀ d ∈ cs, d ≠ c := by
      rintro d hd rfl
      exact (List.nodup_cons.mp nodup).1 hd
    refine .cons ?_ ?_ (ih (List.nodup_cons.mp nodup).2
      (fun d hd => previous d (List.mem_cons_of_mem c hd)) ?_ ?_)
    · rw [previous c List.mem_cons_self, front]
    · rw [next c List.mem_cons_self]
      cases cs with
      | nil => simp
      | cons d ds =>
        have other : (c :: d :: ds).getLast? ≠ some c := by
          rw [List.getLast?_cons_cons]
          intro last
          exact inner c (List.mem_of_getLast? last) rfl
        rw [if_neg other, link]
        rfl
    · intro d hd
      rw [next d (List.mem_cons_of_mem c hd)]
      cases cs with
      | nil => cases hd
      | cons e es => rw [List.getLast?_cons_cons]
    · rw [newPrevious]
      cases cs with
      | nil => rfl
      | cons e es => simp [List.getLast?_cons]

end Row

/-- How the kind of a node changes when it gets the child `id`: names are new, and only objects have
properties. -/
inductive Takes (id : Nat) : (old child new : Kind) → Prop where
  | member {members : Array (String × Nat)} {name : String}
      (fresh : name ∉ members.toList.map (·.1)) :
      Takes id (.object members) (.property name) (.object (members.push (name, id)))
  | item {items : Array Nat} {child : Kind} (plain : child.isProperty = false) :
      Takes id (.array items) child (.array (items.push id))
  | argument {name : String} {items : Array Nat} {child : Kind} (plain : child.isProperty = false) :
      Takes id (.constructor name items) child (.constructor name (items.push id))
  | value {name : String} {child : Kind} (plain : child.isProperty = false) :
      Takes id (.property name) child (.property name)

theorem Takes.nodeType_eq {id : Nat} {old child new : Kind} (takes : Takes id old child new) :
    new.nodeType = old.nodeType := by
  cases takes <;> rfl

theorem Takes.child_plain {id : Nat} {old child new : Kind} (takes : Takes id old child new)
    (other : old.nodeType ≠ .object) : child.isProperty = false := by
  cases takes with
  | member => exact absurd rfl other
  | item plain | argument plain | value plain => exact plain

theorem Takes.property_eq {id : Nat} {child new : Kind} {name : String}
    (takes : Takes id (.property name) child new) : new = .property name := by
  cases takes
  rfl

theorem Takes.object_cases {id : Nat} {old child : Kind} {members : Array (String × Nat)}
    (takes : Takes id old child (.object members)) :
    ∃ before name, old = .object before ∧ child = .property name ∧
      members = before.push (name, id) ∧ name ∉ before.toList.map (·.1) := by
  cases takes with
  | member fresh => exact ⟨_, _, rfl, rfl, rfl, fresh⟩

theorem Takes.recorded_eq {id : Nat} {old child new : Kind} (takes : Takes id old child new)
    (plain : old.isProperty = false) : new.recorded = old.recorded ++ [id] := by
  cases takes with
  | value => cases plain
  | member | item | argument => simp [Kind.recorded]

namespace Linked

variable {doc : Document}

theorem listed_lt (linked : Linked doc) {p c : Nat} (mem : c ∈ doc.listed p) :
    p < c ∧ c < doc.size := by
  obtain ⟨inside, parent⟩ := (linked.child p c).mp mem
  have positive : 0 < c := by
    rcases Nat.eq_zero_or_pos c with rfl | positive
    · rw [show doc.parent? 0 = none from linked.rootParent] at parent
      cases parent
    · exact positive
  obtain ⟨q, less, known⟩ := linked.parent c positive inside
  rw [parent, Option.some.injEq] at known
  exact ⟨known ▸ less, inside⟩

theorem nodup (linked : Linked doc) (p : Nat) : (doc.listed p).Nodup :=
  (linked.ascending p).imp Nat.ne_of_lt

theorem younger (linked : Linked doc) {p : Nat} : ∀ c ∈ doc.last? p, c < doc.size ∧ c ≠ p := by
  intro c last
  rw [linked.last] at last
  have range := linked.listed_lt (List.mem_of_getLast? last)
  exact ⟨range.2, Nat.ne_of_gt range.1⟩

/-- A node that is a child of one parent is not the last child of another. -/
theorem last_eq_some (linked : Linked doc) {p q c : Nat} (mem : c ∈ doc.listed q) :
    doc.last? p = some c → p = q := by
  intro last
  rw [linked.last] at last
  have here := ((linked.child p c).mp (List.mem_of_getLast? last)).2
  rw [((linked.child q c).mp mem).2, Option.some.injEq] at here
  exact here.symm

theorem listed_size (linked : Linked doc) : doc.listed doc.size = [] := by
  cases children : doc.listed doc.size with
  | nil => rfl
  | cons c cs =>
    have range := linked.listed_lt (children ▸ List.mem_cons_self)
    omega

theorem size_not_listed (linked : Linked doc) (q : Nat) : doc.size ∉ doc.listed q :=
  fun mem => Nat.lt_irrefl _ (linked.listed_lt mem).2

theorem parent_older_attach (linked : Linked doc) {p : Nat} (inside : p < doc.size) (kind : Kind)
    (record : Kind → Kind) (n : Nat) (positive : 0 < n)
    (within : n < (doc.attach p kind record).size) :
    ∃ q, q < n ∧ (doc.attach p kind record).parent? n = some q := by
  rw [parent_attach inside linked.younger]
  rw [size_attach] at within
  by_cases fresh : n = doc.size
  · exact ⟨p, fresh ▸ inside, if_pos fresh⟩
  · rw [if_neg fresh]
    exact linked.parent n positive (by omega)

section Attach

variable {p : Nat} {kind : Kind} {record : Kind → Kind} (linked : Linked doc) (inside : p < doc.size)
  (takes : Takes doc.size (doc.kind p) kind (record (doc.kind p)))

include linked inside takes

theorem nodeType_attach (m : Nat) :
    (doc.attach p kind record).nodeType m = if m = doc.size then kind.nodeType else doc.nodeType m := by
  rw [nodeType, kind_attach inside linked.younger]
  split
  · rfl
  split
  · rename_i same
    rw [takes.nodeType_eq, same]
    rfl
  · rfl

theorem kind_attach_property {m : Nat} {name : String} (property : doc.kind m = .property name) :
    (doc.attach p kind record).kind m = .property name := by
  have old : m < doc.size := lt_size_of_kind (by simp [property])
  rw [kind_attach inside linked.younger, if_neg (Nat.ne_of_lt old)]
  split
  · rename_i same
    subst same
    rw [property] at takes ⊢
    exact takes.property_eq
  · exact property

variable (bare : kind.recorded = [])

include bare

/-- The objects of the longer document: the new node without members, the parent with one more, and
those that were there. -/
theorem object_attach {q : Nat} {members : Array (String × Nat)}
    (object : (doc.attach p kind record).kind q = .object members) :
    members = #[] ∨ doc.kind q = .object members ∨
      ∃ before name, doc.kind p = .object before ∧ kind = .property name ∧
        members = before.push (name, doc.size) ∧ name ∉ before.toList.map (·.1) := by
  rw [kind_attach inside linked.younger] at object
  split at object
  · rw [object] at bare
    exact .inl (by simpa [Kind.recorded] using bare)
  split at object
  · rw [object] at takes
    exact .inr (.inr takes.object_cases)
  · exact .inr (.inl object)

theorem named_attach {q : Nat} {members : Array (String × Nat)}
    (object : (doc.attach p kind record).kind q = .object members) :
    ∀ m ∈ members.toList, (doc.attach p kind record).kind m.2 = .property m.1 := by
  intro m mem
  rcases linked.object_attach inside takes bare object with
    rfl | known | ⟨before, name, known, named, rfl, _⟩
  · cases mem
  · exact linked.kind_attach_property inside takes (linked.named q members known m mem)
  · rw [Array.toList_push] at mem
    rcases List.mem_append.mp mem with mem | new
    · exact linked.kind_attach_property inside takes (linked.named p before known m mem)
    · rw [List.mem_singleton.mp new, kind_attach inside linked.younger, if_pos rfl, named]

theorem distinct_attach {q : Nat} {members : Array (String × Nat)}
    (object : (doc.attach p kind record).kind q = .object members) :
    (members.toList.map (·.1)).Nodup := by
  rcases linked.object_attach inside takes bare object with
    rfl | known | ⟨before, name, known, _, rfl, fresh⟩
  · exact List.nodup_nil
  · exact linked.distinct q members known
  · rw [Array.toList_push, List.map_append]
    refine List.nodup_append.mpr ⟨linked.distinct p before known, by simp, ?_⟩
    rintro a ha b hb rfl
    rw [List.map_singleton, List.mem_singleton] at hb
    rw [hb] at ha
    exact fresh ha

variable (vacant : doc.isProperty p = true → doc.first? p = none)

include vacant

theorem listed_attach (m : Nat) :
    (doc.attach p kind record).listed m =
      if m = doc.size then [] else if m = p then doc.listed p ++ [doc.size] else doc.listed m := by
  have kindOf := kind_attach inside linked.younger kind record m
  have firstOf := first_attach inside linked.younger kind record m
  by_cases fresh : m = doc.size
  · rw [if_pos fresh] at kindOf firstOf ⊢
    rw [listed, kindOf, firstOf]
    cases kind with
    | property => rfl
    | object | array | constructor | value => exact bare
  rw [if_neg fresh] at kindOf firstOf ⊢
  by_cases same : m = p
  · subst same
    rw [if_pos rfl] at kindOf firstOf ⊢
    have kept : (doc.attach m kind record).isProperty m = doc.isProperty m := by
      rw [isProperty, linked.nodeType_attach inside takes, if_neg fresh]
      rfl
    cases property : doc.isProperty m with
    | true =>
      have empty : doc.first? m = none := vacant property
      have noLast : doc.last? m = none := by
        rw [linked.last, listed_of_property property, empty]
        rfl
      rw [listed_of_property (kept.trans property), firstOf, listed_of_property property, empty, noLast]
      rfl
    | false =>
      rw [listed_of_plain (kept.trans property), listed_of_plain property, kindOf]
      exact takes.recorded_eq property
  · rw [if_neg same] at kindOf firstOf ⊢
    rw [listed, kindOf, firstOf, listed]

theorem plain_attach {q c : Nat} (other : (doc.attach p kind record).isObject q = false)
    (mem : c ∈ (doc.attach p kind record).listed q) :
    (doc.attach p kind record).isProperty c = false := by
  have typeOf := linked.nodeType_attach inside takes
  rw [linked.listed_attach inside takes bare vacant] at mem
  split at mem
  · cases mem
  rename_i older
  rw [isObject, typeOf, if_neg older] at other
  have kept (c : Nat) (child : c ∈ doc.listed q) : (doc.attach p kind record).isProperty c = false := by
    rw [isProperty, typeOf, if_neg (Nat.ne_of_lt (linked.listed_lt child).2)]
    exact linked.plain q other c child
  split at mem
  · rename_i here
    subst here
    rcases List.mem_append.mp mem with mem | new
    · exact kept c mem
    · rw [List.mem_singleton.mp new, isProperty, typeOf, if_pos rfl]
      exact takes.child_plain (of_decide_eq_false other)
  · exact kept c mem

theorem child_attach (q c : Nat) :
    c ∈ (doc.attach p kind record).listed q ↔
      c < doc.size + 1 ∧ (doc.attach p kind record).parent? c = some q := by
  rw [linked.listed_attach inside takes bare vacant, parent_attach inside linked.younger]
  have known := linked.child q c
  by_cases fresh : c = doc.size
  · subst fresh
    have notListed := linked.size_not_listed q
    rw [if_pos rfl, Option.some.injEq]
    split
    · rename_i new
      simp [new, Nat.ne_of_lt inside]
    split
    · rename_i here
      simp [here]
    · rename_i other
      simp [notListed, Ne.symm other]
  · have shorter : c < doc.size + 1 ↔ c < doc.size := by omega
    rw [if_neg fresh, shorter, ← known]
    split
    · rename_i new
      rw [new, linked.listed_size]
    split
    · rename_i here
      simp [here, fresh]
    · rfl

theorem row_attach (q : Nat) :
    (doc.attach p kind record).Row none ((doc.attach p kind record).listed q) := by
  have previousOf := previous_attach inside linked.younger kind record
  have nextOf := next_attach inside linked.younger kind record
  have older : ∀ c ∈ doc.listed q, c ≠ doc.size := fun c hc => Nat.ne_of_lt (linked.listed_lt hc).2
  have previous : ∀ c ∈ doc.listed q, (doc.attach p kind record).previous? c = doc.previous? c :=
    fun c hc => by rw [previousOf, if_neg (older c hc)]
  rw [linked.listed_attach inside takes bare vacant]
  split
  · exact .nil
  split
  · rename_i here
    subst here
    refine row_append (linked.nodup q) previous ?_ ?_ ?_ (linked.row q)
    · intro c hc
      rw [nextOf, if_neg (older c hc), linked.last]
    · rw [previousOf, if_pos rfl, linked.last, Option.or_none]
    · rw [nextOf, if_pos rfl]
  · rename_i other
    refine row_congr previous ?_ (linked.row q)
    intro c hc
    rw [nextOf, if_neg (older c hc), if_neg fun last => other (linked.last_eq_some hc last).symm]

theorem ascending_attach (q : Nat) : ((doc.attach p kind record).listed q).Pairwise (· < ·) := by
  rw [linked.listed_attach inside takes bare vacant]
  split
  · exact .nil
  split
  · refine List.pairwise_append.mpr ⟨linked.ascending p, List.pairwise_singleton _ _, ?_⟩
    intro a ha b hb
    rw [List.mem_singleton.mp hb]
    exact (linked.listed_lt ha).2
  · exact linked.ascending q

theorem head_attach (q : Nat) :
    (doc.attach p kind record).first? q = ((doc.attach p kind record).listed q).head? := by
  rw [first_attach inside linked.younger, linked.listed_attach inside takes bare vacant]
  split
  · rfl
  split
  · rw [linked.last, linked.first]
    cases doc.listed p <;> simp
  · exact linked.first q

theorem getLast_attach (q : Nat) :
    (doc.attach p kind record).last? q = ((doc.attach p kind record).listed q).getLast? := by
  rw [last_attach inside linked.younger, linked.listed_attach inside takes bare vacant]
  split
  · rfl
  split
  · simp
  · exact linked.last q

/-- A longer document is linked if its parent's record takes the child. -/
theorem attach : Linked (doc.attach p kind record) := by
  have old : root ≠ doc.size := Nat.ne_of_lt doc.nonempty
  constructor
  case rootParent => rw [parent_attach inside linked.younger, if_neg old, linked.rootParent]
  case rootPrevious => rw [previous_attach inside linked.younger, if_neg old, linked.rootPrevious]
  case rootNext =>
    have notLast : doc.last? p ≠ some root := by
      intro last
      rw [linked.last] at last
      exact Nat.not_lt_zero p (linked.listed_lt (List.mem_of_getLast? last)).1
    rw [next_attach inside linked.younger, if_neg old, if_neg notLast, linked.rootNext]
  case rootPlain =>
    rw [isProperty, linked.nodeType_attach inside takes, if_neg old]
    exact linked.rootPlain
  case parent => exact linked.parent_older_attach inside kind record
  case child =>
    intro q c
    rw [size_attach]
    exact linked.child_attach inside takes bare vacant q c
  case ascending => exact linked.ascending_attach inside takes bare vacant
  case first => exact linked.head_attach inside takes bare vacant
  case last => exact linked.getLast_attach inside takes bare vacant
  case row => exact linked.row_attach inside takes bare vacant
  case named =>
    intro q members object
    exact linked.named_attach inside takes bare object
  case distinct =>
    intro q members object
    exact linked.distinct_attach inside takes bare object
  case plain =>
    intro q other c mem
    exact linked.plain_attach inside takes bare vacant other mem

end Attach

/-- The parent has a first child, and what had one still has it. -/
theorem first_isSome_attach (linked : Linked doc) {p : Nat} (inside : p < doc.size)
    {kind : Kind} {record : Kind → Kind} {m : Nat} (older : m ≠ doc.size)
    (had : m ≠ p → (doc.first? m).isSome = true) :
    ((doc.attach p kind record).first? m).isSome = true := by
  rw [first_attach inside linked.younger, if_neg older]
  split
  · rw [linked.last, linked.first]
    cases doc.listed p <;> simp
  · rename_i other
    exact had other

theorem setLine (linked : Linked doc) {n : Nat} (inside : n < doc.size) (line : LineInfo) :
    Linked (doc.update n fun node => { node with line := some line }) := by
  have field {α : Type} := @field_setLine doc n inside line α
  generalize changed : (doc.update n fun node => { node with line := some line }) = doc' at field ⊢
  have size : doc'.size = doc.size := by rw [← changed, size_update]
  have kind : ∀ m, doc'.kind m = doc.kind m := field Node.kind fun _ => rfl
  have parent : ∀ m, doc'.parent? m = doc.parent? m := field Node.parent fun _ => rfl
  have previous : ∀ m, doc'.previous? m = doc.previous? m := field Node.previous fun _ => rfl
  have next : ∀ m, doc'.next? m = doc.next? m := field Node.next fun _ => rfl
  have first : ∀ m, doc'.first? m = doc.first? m := field Node.first fun _ => rfl
  have last : ∀ m, doc'.last? m = doc.last? m := field Node.last fun _ => rfl
  have listed (m : Nat) : doc'.listed m = doc.listed m := by
    rw [Document.listed, kind, first, Document.listed]
  have property (m : Nat) : doc'.isProperty m = doc.isProperty m := by
    rw [isProperty, nodeType, kind]
    rfl
  have object (m : Nat) : doc'.isObject m = doc.isObject m := by
    rw [isObject, nodeType, kind]
    rfl
  constructor
  case row =>
    intro p
    rw [listed]
    exact row_congr (fun c _ => previous c) (fun c _ => next c) (linked.row p)
  all_goals simp only [size, kind, parent, previous, next, first, last, listed, property, object]
  · exact linked.rootParent
  · exact linked.rootPrevious
  · exact linked.rootNext
  · exact linked.rootPlain
  · exact linked.parent
  · exact linked.child
  · exact linked.ascending
  · exact linked.first
  · exact linked.last
  · exact linked.named
  · exact linked.distinct
  · exact linked.plain

end Linked

end PathQuery.Document
