import Mathlib.Tactic.SplitIfs
import PathQuery.Document.Navigate

/-! Every change of a document adds one node as the last child of another and enters it in that node's
record. What the nodes of the new document are is said here once; everything about growing documents
follows from it. -/
namespace PathQuery

namespace Kind

def isProperty (kind : Kind) : Bool := kind.nodeType = .property

/-- The children that an object, array or constructor records. -/
def recorded : Kind → List Nat
  | object members => members.toList.map (·.2)
  | array items | constructor _ items => items.toList
  | property _ | value _ => []

def addItem (item : Nat) : Kind → Kind
  | array items => array (items.push item)
  | constructor name items => constructor name (items.push item)
  | kind => kind

def addMember (name : String) (property : Nat) : Kind → Kind
  | object members => object (members.push (name, property))
  | kind => kind

end Kind

namespace Document

theorem node_eq (doc : Document) (n : Nat) :
    doc.node n = doc.nodes[n]?.getD { kind := .value .null } := by
  rw [node, Array.getD_eq_getD_getElem?]

theorem node_of_size_le {doc : Document} {n : Nat} (beyond : doc.size ≤ n) :
    doc.node n = { kind := .value .null } := by
  rw [node_eq, Array.getElem?_eq_none beyond, Option.getD_none]

/-- Beyond the last node there are no containers. -/
theorem lt_size_of_kind {doc : Document} {n : Nat} (kind : doc.kind n ≠ .value .null) :
    n < doc.size := by
  rcases Nat.lt_or_ge n doc.size with inside | beyond
  · exact inside
  · rw [Document.kind, node_of_size_le beyond] at kind
    exact absurd rfl kind

@[simp] theorem size_update (doc : Document) (n : Nat) (f : Node → Node) :
    (doc.update n f).size = doc.size := Array.size_modify ..

@[simp] theorem size_alloc (doc : Document) (kind : Kind) :
    (doc.alloc kind).size = doc.size + 1 := Array.size_push ..

@[simp] theorem size_link (doc : Document) (parent child : Nat) :
    (doc.link parent child).size = doc.size := by
  unfold link
  cases (doc.node parent).last <;> simp

theorem node_update {doc : Document} {n : Nat} (inside : n < doc.size) (f : Node → Node) (m : Nat) :
    (doc.update n f).node m = if m = n then f (doc.node m) else doc.node m := by
  rw [node_eq, node_eq, update, Array.getElem?_modify]
  by_cases same : n = m
  · subst same
    simp [Array.getElem?_eq_getElem (show n < doc.nodes.size from inside)]
  · simp [same, Ne.symm same]

theorem node_alloc (doc : Document) (kind : Kind) (m : Nat) :
    (doc.alloc kind).node m = if m = doc.size then { kind } else doc.node m := by
  rw [node_eq, node_eq, alloc, Array.getElem?_push]
  by_cases same : m = doc.size
  · simp [same, size]
  · simp [same, show m ≠ doc.nodes.size from same]

/-- Recording a line changes nothing else. -/
theorem field_setLine {doc : Document} {n : Nat} (inside : n < doc.size) (line : LineInfo) {α : Type}
    (field : Node → α) (blind : ∀ node : Node, field { node with line := some line } = field node)
    (m : Nat) :
    field ((doc.update n fun node => { node with line := some line }).node m) = field (doc.node m) := by
  rw [node_update inside]
  split
  · exact blind (doc.node m)
  · rfl

/-- Linking changes the child, its parent, and the child that was the last one before. -/
theorem node_link {doc : Document} {p c : Nat} (parent : p < doc.size) (child : c < doc.size)
    (other : p ≠ c) (older : ∀ q ∈ doc.last? p, q < doc.size ∧ q ≠ p ∧ q ≠ c) (m : Nat) :
    (doc.link p c).node m =
      if m = c then { doc.node c with parent := some p, previous := doc.last? p }
      else if m = p then
        { doc.node p with
          first := if (doc.last? p).isSome then doc.first? p else some c
          last := some c }
      else if doc.last? p = some m then { doc.node m with next := some c }
      else doc.node m := by
  rw [link, ← last?]
  cases previous : doc.last? p with
  | none =>
    dsimp only
    rw [node_update (by simpa using child), node_update (by simpa using parent), node_update parent]
    by_cases here : m = c
    · simp [here, Ne.symm other]
    · by_cases above : m = p <;> simp [here, above, other]
  | some q =>
    obtain ⟨inside, different, before⟩ := older q previous
    dsimp only
    rw [node_update (by simpa using child), node_update (by simpa using parent), node_update inside]
    by_cases here : m = c
    · simp [here, Ne.symm other, Ne.symm before]
    · by_cases above : m = p
      · subst above
        simp [here, Ne.symm different, first?]
      · by_cases sibling : m = q
        · subst sibling
          simp [here, above]
        · simp [here, above, sibling, Ne.symm sibling]

/-- Adds a node as the last child of `p`, whose record changes as `record` says. -/
def attach (doc : Document) (p : Nat) (kind : Kind) (record : Kind → Kind) : Document :=
  ((doc.alloc kind).update p fun node => { node with kind := record node.kind }).link p doc.size

@[simp] theorem size_attach (doc : Document) (p : Nat) (kind : Kind) (record : Kind → Kind) :
    (doc.attach p kind record).size = doc.size + 1 := by
  simp [attach]

theorem appendItem_eq (doc : Document) (container : Nat) (new : NewNode) :
    doc.appendItem container new = doc.attach container new.kind (Kind.addItem doc.size) := by
  have record (node : Node) :
      Node.addItem doc.size node = { node with kind := node.kind.addItem doc.size } := by
    obtain ⟨kind⟩ := node
    cases kind <;> rfl
  rw [appendItem, attach, funext record]

theorem update_same (doc : Document) (n : Nat) : (doc.update n fun node => node) = doc := by
  obtain ⟨nodes, nonempty⟩ := doc
  have same : (nodes.modify n fun node => node) = nodes := by
    apply Array.ext_getElem?
    intro i
    rw [Array.getElem?_modify]
    split <;> simp
  simp [update, same]

theorem appendProperty_eq (doc : Document) (object : Nat) (name : String) (new : NewNode) :
    doc.appendProperty object name new =
      (doc.attach object (.property name) (Kind.addMember name doc.size)).attach doc.size new.kind id := by
  have record (node : Node) : Node.addMember name doc.size node =
      { node with kind := node.kind.addMember name doc.size } := by
    obtain ⟨kind⟩ := node
    cases kind <;> rfl
  have entered : ((doc.alloc (.property name)).update object (Node.addMember name doc.size)).link
      object doc.size = doc.attach object (.property name) (Kind.addMember name doc.size) := by
    rw [attach, funext record]
  unfold appendProperty
  simp only [entered]
  rw [attach.eq_1 (doc.attach ..), size_attach]
  exact congrArg (fun d => link d doc.size (doc.size + 1)) (update_same _ doc.size).symm

/-- What the nodes of the longer document are: the new one, its parent, and the child that was the last
one before. -/
theorem node_attach {doc : Document} {p : Nat} (inside : p < doc.size)
    (younger : ∀ c ∈ doc.last? p, c < doc.size ∧ c ≠ p) (kind : Kind) (record : Kind → Kind) (m : Nat) :
    (doc.attach p kind record).node m =
      if m = doc.size then { kind, parent := some p, previous := doc.last? p }
      else if m = p then
        { doc.node p with
          kind := record (doc.kind p)
          first := if (doc.last? p).isSome then doc.first? p else some doc.size
          last := some doc.size }
      else if doc.last? p = some m then { doc.node m with next := some doc.size }
      else doc.node m := by
  have other : p ≠ doc.size := Nat.ne_of_lt inside
  have grown : p < (doc.alloc kind).size := by simp; omega
  have nodes := node_update grown fun node => { node with kind := record node.kind }
  have last : ((doc.alloc kind).update p fun node => { node with kind := record node.kind }).last? p =
      doc.last? p := by
    rw [last?, nodes, if_pos rfl, node_alloc, if_neg other, last?]
  have older : ∀ q ∈ doc.last? p, q < doc.size + 1 ∧ q ≠ p ∧ q ≠ doc.size := by
    intro q mem
    have range := younger q mem
    omega
  rw [attach, node_link (by simpa using grown) (by simp) other (by simpa [last] using older), last]
  simp only [nodes, node_alloc, first?, if_pos, if_neg other, if_neg (Ne.symm other)]
  split
  · rfl
  split
  · rfl
  · rfl

section Links

variable {doc : Document} {p : Nat} (inside : p < doc.size)
  (younger : ∀ c ∈ doc.last? p, c < doc.size ∧ c ≠ p) (kind : Kind) (record : Kind → Kind) (m : Nat)

include inside younger

theorem kind_attach : (doc.attach p kind record).kind m =
    if m = doc.size then kind else if m = p then record (doc.kind p) else doc.kind m := by
  rw [Document.kind, node_attach inside younger]
  split_ifs <;> rfl

theorem parent_attach : (doc.attach p kind record).parent? m =
    if m = doc.size then some p else doc.parent? m := by
  rw [parent?, node_attach inside younger]
  split_ifs with _ same <;> simp [parent?, *]

theorem previous_attach : (doc.attach p kind record).previous? m =
    if m = doc.size then doc.last? p else doc.previous? m := by
  rw [previous?, node_attach inside younger]
  split_ifs with _ same <;> simp [previous?, *]

theorem next_attach : (doc.attach p kind record).next? m =
    if m = doc.size then none else if doc.last? p = some m then some doc.size else doc.next? m := by
  rw [next?, node_attach inside younger]
  by_cases fresh : m = doc.size
  · rw [if_pos fresh, if_pos fresh]
  rw [if_neg fresh, if_neg fresh]
  by_cases same : m = p
  · have other : doc.last? p ≠ some m := fun last => (younger m last).2 same
    rw [if_pos same, if_neg other, next?, same]
  rw [if_neg same]
  split <;> rfl

theorem first_attach : (doc.attach p kind record).first? m =
    if m = doc.size then none
    else if m = p then if (doc.last? p).isSome then doc.first? p else some doc.size
    else doc.first? m := by
  rw [first?, node_attach inside younger]
  split_ifs <;> rfl

theorem last_attach : (doc.attach p kind record).last? m =
    if m = doc.size then none else if m = p then some doc.size else doc.last? m := by
  rw [last?, node_attach inside younger]
  split_ifs <;> rfl

theorem line_attach : (doc.attach p kind record).line? m =
    if m = doc.size then none else doc.line? m := by
  rw [line?, node_attach inside younger]
  split_ifs with _ same <;> simp [line?, *]

end Links

end Document
end PathQuery
