import PathQuery.Proofs.Document.Descend

/-! What growth leaves alone. A document that grows below one node keeps the kinds and children of all other
nodes. What is filled in from a JSON value is numbered in document order. -/
namespace PathQuery.Document

/-- The older nodes other than `n` have the kinds and children that they had. -/
structure Keeps (doc doc' : Document) (n : Nat) : Prop where
  size_le : doc.size ≤ doc'.size
  kind {m : Nat} : m < doc.size → m ≠ n → doc'.kind m = doc.kind m
  children {m : Nat} : m < doc.size → m ≠ n → doc'.children m = doc.children m

/-- All new nodes are below `n`, behind those that were there, in the order of their numbers. -/
structure Grows (doc doc' : Document) (n : Nat) : Prop extends Keeps doc doc' n where
  preorder : doc'.preorder n = doc.preorder n ++ List.range' doc.size (doc'.size - doc.size)

theorem range_append {a b c : Nat} (front : a ≤ b) (back : b ≤ c) :
    List.range' a (b - a) ++ List.range' b (c - b) = List.range' a (c - a) := by
  have start : b = a + (b - a) := by omega
  have total : b - a + (c - b) = c - a := by omega
  calc
    List.range' a (b - a) ++ List.range' b (c - b)
      = List.range' a (b - a) ++ List.range' (a + (b - a)) (c - b) := by rw [← start]
    _ = List.range' a (c - a) := by rw [List.range'_append_1, total]

section Attach

variable {doc : Document} {p : Nat} {kind : Kind} {record : Kind → Kind} (linked : Linked doc)
  (inside : p < doc.size) (takes : Takes doc.size (doc.kind p) kind (record (doc.kind p)))
  (bare : kind.recorded = []) (vacant : doc.isProperty p = true → doc.first? p = none)

include linked inside takes bare vacant

theorem children_attach (m : Nat) : (doc.attach p kind record).children m =
    if m = doc.size then []
    else if m = p then doc.children p ++ [doc.size]
    else doc.children m := by
  rw [(linked.attach inside takes bare vacant).children_eq, linked.children_eq, linked.children_eq]
  exact linked.listed_attach inside takes bare vacant m

theorem keeps_attach : Keeps doc (doc.attach p kind record) p := by
  constructor
  case size_le => simp
  case kind =>
    intro m older other
    rw [kind_attach inside linked.younger, if_neg (Nat.ne_of_lt older), if_neg other]
  case children =>
    intro m older other
    rw [children_attach linked inside takes bare vacant, if_neg (Nat.ne_of_lt older), if_neg other]

end Attach

namespace Keeps

variable {doc doc' doc'' : Document} {n : Nat}

theorem refl (doc : Document) (n : Nat) : Keeps doc doc n :=
  ⟨Nat.le_refl _, fun _ _ => rfl, fun _ _ => rfl⟩

/-- Further growth may be below the same node or below a new one. -/
theorem trans (first : Keeps doc doc' n) {k : Nat} (new : k = n ∨ doc.size ≤ k)
    (second : Keeps doc' doc'' k) : Keeps doc doc'' n := by
  have other {m : Nat} (older : m < doc.size) (away : m ≠ n) : m < doc'.size ∧ m ≠ k := by
    have := first.size_le
    omega
  constructor
  case size_le => exact Nat.le_trans first.size_le second.size_le
  case kind =>
    intro m older away
    have here := other older away
    rw [second.kind here.1 here.2, first.kind older away]
  case children =>
    intro m older away
    have here := other older away
    rw [second.children here.1 here.2, first.children older away]

/-- Younger nodes do not have `n` below them. -/
theorem preorder (keeps : Keeps doc doc' n) (linked : Linked doc) (linked' : Linked doc') {m : Nat}
    (younger : n < m) (inside : m < doc.size) : doc'.preorder m = doc.preorder m := by
  induction m using linked.child_induction with
  | step m ih =>
    rw [linked'.preorder_eq, linked.preorder_eq, keeps.children inside (Nat.ne_of_gt younger)]
    apply List.flatMap_congr
    intro c child
    have range := linked.child_lt child
    rw [ih c child (Nat.lt_trans younger range.1) range.2]

end Keeps

namespace Grows

variable {doc doc' doc'' : Document} {n : Nat}

theorem refl (doc : Document) (n : Nat) : Grows doc doc n :=
  ⟨.refl doc n, by simp⟩

theorem trans (first : Grows doc doc' n) (second : Grows doc' doc'' n) : Grows doc doc'' n := by
  refine ⟨first.toKeeps.trans (.inl rfl) second.toKeeps, ?_⟩
  rw [second.preorder, first.preorder, List.append_assoc, range_append first.size_le second.size_le]

/-- A new child brings with it what grows below it. -/
theorem attach {p : Nat} {kind : Kind} {record : Kind → Kind} (linked : Linked doc)
    (inside : p < doc.size) (takes : Takes doc.size (doc.kind p) kind (record (doc.kind p)))
    (bare : kind.recorded = []) (vacant : doc.isProperty p = true → doc.first? p = none)
    (linked'' : Linked doc'') (inner : Grows (doc.attach p kind record) doc'' doc.size) :
    Grows doc doc'' p := by
  have keeps : Keeps doc doc'' p :=
    (keeps_attach linked inside takes bare vacant).trans (.inr (Nat.le_refl _)) inner.toKeeps
  refine ⟨keeps, ?_⟩
  have attached := linked.attach inside takes bare vacant
  have childrenOf := children_attach linked inside takes bare vacant
  have children : doc''.children p = doc.children p ++ [doc.size] := by
    rw [inner.children (by rw [size_attach]; omega) (Nat.ne_of_lt inside), childrenOf,
      if_neg (Nat.ne_of_lt inside), if_pos rfl]
  have older : (doc.children p).flatMap (fun c => c :: doc''.preorder c) = doc.preorder p := by
    rw [linked.preorder_eq]
    apply List.flatMap_congr
    intro c child
    have range := linked.child_lt child
    rw [keeps.preorder linked linked'' range.1 range.2]
  have leaf : (doc.attach p kind record).preorder doc.size = [] := by
    rw [attached.preorder_eq, childrenOf, if_pos rfl]
    rfl
  have new : doc''.preorder doc.size = List.range' (doc.size + 1) (doc''.size - (doc.size + 1)) := by
    rw [inner.preorder, leaf, size_attach, List.nil_append]
  have grown : doc.size + 1 ≤ doc''.size := size_attach doc p kind record ▸ inner.size_le
  have count : doc''.size - doc.size = doc''.size - (doc.size + 1) + 1 := by omega
  rw [linked''.preorder_eq, children, List.flatMap_append, older, List.flatMap_singleton, new, count,
    List.range'_succ]

end Grows

theorem isIndexable_of_shell {doc : Document} {n : Nat} {items : List Json}
    (kind : doc.kind n = (shell (.array items)).kind) : doc.isIndexable n = true := by
  rw [isIndexable, nodeType, kind]
  rfl

namespace Arena

variable {doc doc' : Document} {n : Nat}

theorem grows_item (arena : Arena doc) (indexable : doc.isIndexable n = true) (new : NewNode)
    (linked' : Linked doc') (inner : Grows (doc.appendItem n new) doc' doc.size) : Grows doc doc' n := by
  rw [appendItem_eq] at inner
  exact .attach arena.toLinked (lt_size_of_isIndexable indexable) (takes_item indexable new)
    new.recorded_kind (vacant_of_isIndexable indexable) linked' inner

/-- A member adds two nodes, the property and below it the value. -/
theorem grows_member (arena : Arena doc) {before : Array (String × Nat)}
    (kind : doc.kind n = .object before) {name : String} (fresh : name ∉ before.toList.map (·.1))
    (new : NewNode) (linked' : Linked doc')
    (inner : Grows (doc.appendProperty n name new) doc' (doc.size + 1)) : Grows doc doc' n := by
  have inside := lt_size_of_object kind
  have entered := arena.enter kind fresh
  have valued := arena.enter_takes kind name new
  rw [appendProperty_eq] at inner
  have below : Grows (doc.attach n (.property name) (Kind.addMember name doc.size)) doc' doc.size := by
    refine .attach entered (by simp) valued new.recorded_kind (fun _ => arena.enter_waits kind name)
      linked' ?_
    rw [size_attach]
    exact inner
  exact .attach arena.toLinked inside (takes_member kind fresh) rfl (vacant_of_object kind) linked' below

/-- One item more: the new node is the item's, and filling it in leaves a document to which further items
can be added. -/
theorem fill_item (arena : Arena doc) (indexable : doc.isIndexable n = true) {item : Json}
    (keyed : item.isKeyed = true) :
    Arena (doc.appendItem n (shell item)) ∧
    (doc.appendItem n (shell item)).kind doc.size = (shell item).kind ∧
    Arena (fill (doc.appendItem n (shell item)) doc.size item) ∧
    (fill (doc.appendItem n (shell item)) doc.size item).isIndexable n = true := by
  have inside := lt_size_of_isIndexable indexable
  have kindOf := arena.kind_appendItem indexable (shell item)
  have added := arena.appendItem indexable (shell item)
  have shelled := (kindOf doc.size).trans (if_pos rfl)
  obtain ⟨filled, older⟩ := fill_arena item keyed added shelled
  refine ⟨added, shelled, filled, ?_⟩
  rw [isIndexable, nodeType, older n inside, kindOf, if_neg (Nat.ne_of_lt inside), if_pos rfl,
    (takes_item indexable (shell item)).nodeType_eq]
  exact indexable

/-- One member more, likewise; the name is now taken. -/
theorem fill_member (arena : Arena doc) {before : Array (String × Nat)}
    (kind : doc.kind n = .object before) {name : String} (fresh : name ∉ before.toList.map (·.1))
    {json : Json} (keyed : json.isKeyed = true) :
    Arena (doc.appendProperty n name (shell json)) ∧
    (doc.appendProperty n name (shell json)).kind (doc.size + 1) = (shell json).kind ∧
    Arena (fill (doc.appendProperty n name (shell json)) (doc.size + 1) json) ∧
    (fill (doc.appendProperty n name (shell json)) (doc.size + 1) json).kind n =
      .object (before.push (name, doc.size)) := by
  have inside := lt_size_of_object kind
  have kindOf := arena.kind_appendProperty kind fresh (shell json)
  have added := arena.appendProperty kind fresh (shell json)
  have shelled := (kindOf (doc.size + 1)).trans (if_pos rfl)
  obtain ⟨filled, older⟩ := fill_arena json keyed added shelled
  refine ⟨added, shelled, filled, ?_⟩
  rw [older n (by omega), kindOf, if_neg (by omega), if_neg (by omega), if_pos rfl]

/-- Of the names that are still to come, the first is new and the others are not it. -/
theorem names_cons {before : Array (String × Nat)} {name : String} {json : Json}
    {members : List (String × Json)}
    (distinct : (before.toList.map (·.1) ++ ((name, json) :: members).map (·.1)).Nodup) (id : Nat) :
    name ∉ before.toList.map (·.1) ∧
    ((before.push (name, id)).toList.map (·.1) ++ members.map (·.1)).Nodup := by
  constructor
  · intro mem
    exact (List.nodup_append.mp distinct).2.2 name mem name List.mem_cons_self rfl
  · simpa using distinct

mutual

theorem fill_grows (json : Json) (keyed : json.isKeyed = true) {doc : Document} (arena : Arena doc)
    {n : Nat} (kind : doc.kind n = (shell json).kind) : Grows doc (fill doc n json) n := by
  cases json with
  | null | boolean | integer | unsigned | double | string => exact .refl doc n
  | array items =>
    exact fillItems_grows items keyed arena (isIndexable_of_shell kind)
  | object members =>
    simp only [Json.isKeyed, Bool.and_eq_true, decide_eq_true_eq] at keyed
    exact fillMembers_grows members keyed.2 arena kind keyed.1

theorem fillItems_grows (items : List Json) (keyed : Json.itemsKeyed items = true) {doc : Document}
    (arena : Arena doc) {n : Nat} (indexable : doc.isIndexable n = true) :
    Grows doc (fillItems doc n items) n := by
  cases items with
  | nil => exact .refl doc n
  | cons item items =>
    simp only [Json.itemsKeyed, Bool.and_eq_true] at keyed
    obtain ⟨added, shelled, filled, still⟩ := arena.fill_item indexable keyed.1
    have inner := fill_grows item keyed.1 added shelled
    have first := arena.grows_item indexable (shell item) filled.toLinked inner
    exact first.trans (fillItems_grows items keyed.2 filled still)

theorem fillMembers_grows (members : List (String × Json)) (keyed : Json.membersKeyed members = true)
    {doc : Document} (arena : Arena doc) {n : Nat} {before : Array (String × Nat)}
    (kind : doc.kind n = .object before)
    (distinct : (before.toList.map (·.1) ++ members.map (·.1)).Nodup) :
    Grows doc (fillMembers doc n members) n := by
  match members with
  | [] => exact .refl doc n
  | (name, json) :: members =>
    simp only [Json.membersKeyed, Bool.and_eq_true] at keyed
    obtain ⟨fresh, others⟩ := names_cons distinct doc.size
    obtain ⟨added, shelled, filled, still⟩ := arena.fill_member kind fresh keyed.1
    have inner := fill_grows json keyed.1 added shelled
    have first := arena.grows_member kind fresh (shell json) filled.toLinked inner
    exact first.trans (fillMembers_grows members keyed.2 filled still others)

end

/-- A JSON value is numbered in document order. -/
theorem preorder_ofJson {json : Json} (keyed : json.isKeyed = true) :
    (Document.ofJson json).preorder root = List.range' 1 ((Document.ofJson json).size - 1) := by
  have grows := fill_grows json keyed (Arena.ofRoot (shell json)) (n := root) rfl
  have bare : (Document.ofRoot (shell json)).preorder root = [] := by
    have linked := (Arena.ofRoot (shell json)).toLinked
    rw [linked.preorder_eq, linked.children_eq,
      listed_of_plain (kind_ofRoot (shell json) root).2, (kind_ofRoot (shell json) root).1]
    rfl
  rw [Document.ofJson, grows.preorder, bare]
  rfl

end Arena

/-- The walk below a node ends, and it visits in document order the nodes which are below, each once; from the
root these are all other nodes, and in a document read from a JSON value they come in the order of
their numbers. -/
theorem descendants_preorder {doc : Document} (reachable : Reachable doc) (n : Nat) :
    doc.Tour n (some n) (n :: doc.descendants n) ∧
    doc.descendants n = doc.preorder n ∧
    doc.preorder n = (doc.children n).flatMap (fun c => c :: doc.preorder c) ∧
    (doc.descendants n).Nodup ∧
    (∀ m, m ∈ doc.descendants n ↔ doc.Below n m) ∧
    n ∉ doc.descendants n ∧
    (doc.descendants root).Perm (List.range' 1 (doc.size - 1)) ∧
    ∀ json, json.isKeyed = true →
      (ofJson json).descendants root = List.range' 1 ((ofJson json).size - 1) := by
  have linked := (Arena.of_reachable reachable).toLinked
  have same := linked.descendants_eq
  refine ⟨?_, same n, linked.preorder_eq n, ?_, ?_, ?_, ?_, ?_⟩
  · rw [same]
    exact linked.tour_origin n
  · rw [same]
    exact linked.preorder_nodup n
  · intro m
    rw [same]
    exact linked.mem_preorder_iff
  · intro mem
    rw [same] at mem
    exact Nat.lt_irrefl n (linked.preorder_lt mem).1
  · rw [same]
    exact linked.preorder_root
  · intro json keyed
    rw [(Arena.ofJson keyed).toLinked.descendants_eq]
    exact Arena.preorder_ofJson keyed

/-- A document whose nodes were not added in document order. -/
def scattered : Document :=
  [Edit.push 0 .array, .push 0 .object, .push 1 (.value .null), .insert 2 "a" .array,
    .push 1 (.value (.boolean true))].foldl after (ofRoot .array)

theorem descendants_scattered : Reachable scattered ∧
    scattered.preorder root = [1, 3, 6, 2, 4, 5] ∧ scattered.preorder 4 = [5] := by
  have reachable : Reachable scattered := (Reachable.root .array).run _
  have whole : scattered.descendants root = [1, 3, 6, 2, 4, 5] := by cbv
  have property : scattered.descendants 4 = [5] := by cbv
  refine ⟨reachable, ?_, ?_⟩
  · rw [← (descendants_preorder reachable root).2.1, whole]
  · rw [← (descendants_preorder reachable 4).2.1, property]

end PathQuery.Document
