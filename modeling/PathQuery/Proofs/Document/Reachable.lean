import PathQuery.Document.Json
import PathQuery.Proofs.Document.Arena

/-! Every way to build a document keeps the invariant: starting with a root or from a JSON value, and any
number of changes, whether they succeed or fail. -/
namespace PathQuery

namespace NewNode

@[simp] theorem recorded_kind (new : NewNode) : new.kind.recorded = [] := by
  cases new <;> rfl

@[simp] theorem isProperty_kind (new : NewNode) : new.kind.isProperty = false := by
  cases new <;> rfl

end NewNode

namespace Json

mutual

/-- No object repeats a name, at any depth. -/
def isKeyed : Json → Bool
  | .array items => itemsKeyed items
  | .object members => decide (members.map (·.1)).Nodup && membersKeyed members
  | _ => true

def itemsKeyed : List Json → Bool
  | [] => true
  | item :: items => item.isKeyed && itemsKeyed items

def membersKeyed : List (String × Json) → Bool
  | [] => true
  | (_, json) :: members => json.isKeyed && membersKeyed members

end

end Json

namespace Document

/-- One request to change a document, of any node and with any name. -/
inductive Edit where
  | insert (object : Nat) (name : String) (new : NewNode)
  | push (container : Nat) (new : NewNode)
  | setLine (n : Nat) (line : LineInfo)

/-- The document after a request; one that fails changes nothing. -/
def after (doc : Document) : Edit → Document
  | .insert object name new => match doc.insert object name new with
    | .ok (changed, _) => changed
    | .error _ => doc
  | .push container new => match doc.push container new with
    | .ok (changed, _) => changed
    | .error _ => doc
  | .setLine n line => match doc.setLine n line with
    | .ok changed => changed
    | .error _ => doc

section Outcomes

variable {doc : Document}

theorem hasMember_iff {members : Array (String × Nat)} {name : String} :
    hasMember members name = true ↔ name ∈ members.toList.map (·.1) := by
  simp only [hasMember, Array.any_eq_true', List.mem_map, Array.mem_toList_iff, beq_iff_eq]

/-- What an insertion does where it succeeds. -/
theorem insert_cases {object : Nat} {name : String} {new : NewNode} {r : Document × Nat}
    (done : doc.insert object name new = .ok r) :
    ∃ members, doc.kind object = .object members ∧ name ∉ members.toList.map (·.1) ∧
      r = (doc.appendProperty object name new, doc.size + 1) := by
  rw [insert] at done
  split at done
  · split at done
    · rename_i members kind
      split at done
      · cases done
      · rename_i absent
        exact ⟨members, kind, fun mem => absent (hasMember_iff.mpr mem), (Except.ok.inj done).symm⟩
    · cases done
  · cases done

theorem push_cases {container : Nat} {new : NewNode} {r : Document × Nat}
    (done : doc.push container new = .ok r) :
    doc.isIndexable container = true ∧ r = (doc.appendItem container new, doc.size) := by
  rw [push] at done
  split at done
  · split at done
    · rename_i items kind
      exact ⟨by simp [isIndexable, nodeType, kind, Kind.nodeType], (Except.ok.inj done).symm⟩
    · rename_i name items kind
      exact ⟨by simp [isIndexable, nodeType, kind, Kind.nodeType], (Except.ok.inj done).symm⟩
    · cases done
  · cases done

theorem setLine_cases {n : Nat} {line : LineInfo} {changed : Document}
    (done : doc.setLine n line = .ok changed) :
    n < doc.size ∧ changed = doc.update n fun node => { node with line := some line } := by
  rw [setLine] at done
  split at done
  · rename_i inside
    exact ⟨of_decide_eq_true inside, (Except.ok.inj done).symm⟩
  · cases done

end Outcomes

inductive Reachable : Document → Prop where
  | root (new : NewNode) : Reachable (ofRoot new)
  | json {json : Json} (keyed : json.isKeyed = true) : Reachable (ofJson json)
  | edit {doc : Document} (reachable : Reachable doc) (edit : Edit) : Reachable (doc.after edit)

/-- A whole history from any document that can be reached. -/
theorem Reachable.run {doc : Document} (reachable : Reachable doc) (edits : List Edit) :
    Reachable (edits.foldl after doc) := by
  induction edits generalizing doc with
  | nil => exact reachable
  | cons edit edits ih => exact ih (reachable.edit edit)

namespace Arena

variable {doc : Document}

theorem size_ofRoot (new : NewNode) : (Document.ofRoot new).size = 1 := rfl

theorem node_ofRoot (new : NewNode) (n : Nat) :
    (Document.ofRoot new).node n = { kind := (Document.ofRoot new).kind n } := by
  rcases Nat.lt_or_ge n 1 with inside | beyond
  · rw [Nat.lt_one_iff.mp inside]
    rfl
  · rw [Document.kind, node_of_size_le (size_ofRoot new ▸ beyond)]

theorem kind_ofRoot (new : NewNode) (n : Nat) : ((Document.ofRoot new).kind n).recorded = [] ∧
    ((Document.ofRoot new).kind n).isProperty = false := by
  rcases Nat.lt_or_ge n 1 with inside | beyond
  · rw [Nat.lt_one_iff.mp inside]
    exact ⟨new.recorded_kind, new.isProperty_kind⟩
  · rw [Document.kind, node_of_size_le (size_ofRoot new ▸ beyond)]
    exact ⟨rfl, rfl⟩

theorem ofRoot (new : NewNode) : Arena (ofRoot new) := by
  have bare := node_ofRoot new
  have kind := kind_ofRoot new
  have listed (n : Nat) : (Document.ofRoot new).listed n = [] := by
    rw [listed_of_plain (kind n).2, (kind n).1]
  have parent (n : Nat) : (Document.ofRoot new).parent? n = none := by rw [parent?, bare]
  have memberless {n : Nat} {members : Array (String × Nat)}
      (object : (Document.ofRoot new).kind n = .object members) : members = #[] := by
    have none := (kind n).1
    rw [object] at none
    simpa [Kind.recorded] using none
  constructor
  case complete =>
    intro n property
    rw [show (Document.ofRoot new).isProperty n = false from (kind n).2] at property
    cases property
  constructor
  case rootParent => exact parent root
  case rootPrevious => rw [previous?, bare]
  case rootNext => rw [next?, bare]
  case rootPlain => exact (kind root).2
  case parent =>
    intro n positive inside
    rw [size_ofRoot] at inside
    omega
  case child =>
    intro p c
    simp [listed, parent]
  case ascending => simp [listed]
  case first =>
    intro p
    rw [first?, bare, listed]
    rfl
  case last =>
    intro p
    rw [last?, bare, listed]
    rfl
  case row =>
    intro p
    rw [listed]
    exact .nil
  case named =>
    intro p members object m mem
    rw [memberless object] at mem
    cases mem
  case distinct =>
    intro p members object
    rw [memberless object]
    exact List.nodup_nil
  case plain =>
    intro p _ c mem
    rw [listed] at mem
    cases mem

theorem setLine (arena : Arena doc) {n : Nat} (inside : n < doc.size) (line : LineInfo) :
    Arena (doc.update n fun node => { node with line := some line }) := by
  refine ⟨arena.toLinked.setLine inside line, ?_⟩
  intro m property
  rw [isProperty, nodeType, Document.kind, field_setLine inside line Node.kind fun _ => rfl] at property
  rw [first?, field_setLine inside line Node.first fun _ => rfl]
  exact arena.complete m property

theorem takes_item {container : Nat} (indexable : doc.isIndexable container = true) (new : NewNode) :
    Takes doc.size (doc.kind container) new.kind ((doc.kind container).addItem doc.size) := by
  simp only [isIndexable, nodeType] at indexable
  cases kind : doc.kind container with
  | array items => exact .item new.isProperty_kind
  | constructor name items => exact .argument new.isProperty_kind
  | object | property | value => simp [kind, Kind.nodeType] at indexable

theorem lt_size_of_isIndexable {container : Nat} (indexable : doc.isIndexable container = true) :
    container < doc.size := by
  apply lt_size_of_kind
  intro value
  simp [isIndexable, nodeType, value, Kind.nodeType] at indexable

theorem isProperty_of_isIndexable {n : Nat} (indexable : doc.isIndexable n = true) :
    doc.isProperty n = false := by
  simp only [isIndexable, Bool.or_eq_true, decide_eq_true_eq] at indexable
  rcases indexable with type | type <;> simp [isProperty, type]

theorem vacant_of_isIndexable {n : Nat} (indexable : doc.isIndexable n = true) :
    doc.isProperty n = true → doc.first? n = none := by
  intro property
  rw [isProperty_of_isIndexable indexable] at property
  cases property

theorem appendItem (arena : Arena doc) {container : Nat} (indexable : doc.isIndexable container = true)
    (new : NewNode) : Arena (doc.appendItem container new) := by
  have inside := lt_size_of_isIndexable indexable
  have takes := takes_item indexable new
  rw [appendItem_eq]
  refine ⟨arena.toLinked.attach inside takes new.recorded_kind ?_, ?_⟩
  · exact vacant_of_isIndexable indexable
  · intro n property
    rw [isProperty, arena.toLinked.nodeType_attach inside takes] at property
    split at property
    · rw [← Kind.isProperty, new.isProperty_kind] at property
      cases property
    · rename_i older
      exact arena.toLinked.first_isSome_attach inside older fun _ => arena.complete n property

theorem kind_appendItem (arena : Arena doc) {container : Nat}
    (indexable : doc.isIndexable container = true) (new : NewNode) (m : Nat) :
    (doc.appendItem container new).kind m =
      if m = doc.size then new.kind
      else if m = container then (doc.kind container).addItem doc.size else doc.kind m := by
  rw [appendItem_eq, kind_attach (lt_size_of_isIndexable indexable) arena.toLinked.younger]

theorem lt_size_of_object {object : Nat} {members : Array (String × Nat)}
    (kind : doc.kind object = .object members) : object < doc.size :=
  lt_size_of_kind (by simp [kind])

theorem vacant_of_object {object : Nat} {members : Array (String × Nat)}
    (kind : doc.kind object = .object members) :
    doc.isProperty object = true → doc.first? object = none := by
  intro property
  simp [isProperty, nodeType, kind, Kind.nodeType] at property

/-- What has a record of members takes a property of a new name. -/
theorem takes_member {object : Nat} {members : Array (String × Nat)}
    (kind : doc.kind object = .object members) {name : String}
    (fresh : name ∉ members.toList.map (·.1)) :
    Takes doc.size (doc.kind object) (.property name) ((doc.kind object).addMember name doc.size) := by
  rw [kind]
  exact .member fresh

/-- Halfway through an insertion the new property has no value yet. -/
theorem enter (arena : Arena doc) {object : Nat} {members : Array (String × Nat)}
    (kind : doc.kind object = .object members) {name : String}
    (fresh : name ∉ members.toList.map (·.1)) :
    Linked (doc.attach object (.property name) (Kind.addMember name doc.size)) := by
  exact arena.toLinked.attach (lt_size_of_object kind) (takes_member kind fresh) rfl
    (vacant_of_object kind)

/-- The new property then takes its value. -/
theorem enter_takes (arena : Arena doc) {object : Nat} {members : Array (String × Nat)}
    (kind : doc.kind object = .object members) (name : String) (new : NewNode) :
    Takes (doc.attach object (.property name) (Kind.addMember name doc.size)).size
      ((doc.attach object (.property name) (Kind.addMember name doc.size)).kind doc.size) new.kind
      (id ((doc.attach object (.property name) (Kind.addMember name doc.size)).kind doc.size)) := by
  have property := kind_attach (lt_size_of_object kind) arena.toLinked.younger (.property name)
    (Kind.addMember name doc.size) doc.size
  rw [property, if_pos rfl]
  exact .value new.isProperty_kind

/-- Until then it has no child. -/
theorem enter_waits (arena : Arena doc) {object : Nat} {members : Array (String × Nat)}
    (kind : doc.kind object = .object members) (name : String) :
    (doc.attach object (.property name) (Kind.addMember name doc.size)).first? doc.size = none := by
  rw [first_attach (lt_size_of_object kind) arena.toLinked.younger, if_pos rfl]

theorem kind_appendProperty (arena : Arena doc) {object : Nat} {members : Array (String × Nat)}
    (kind : doc.kind object = .object members) {name : String}
    (fresh : name ∉ members.toList.map (·.1)) (new : NewNode) (m : Nat) :
    (doc.appendProperty object name new).kind m =
      if m = doc.size + 1 then new.kind else if m = doc.size then .property name
      else if m = object then .object (members.push (name, doc.size)) else doc.kind m := by
  have entered := kind_attach (lt_size_of_object kind) arena.toLinked.younger (.property name)
    (Kind.addMember name doc.size)
  rw [appendProperty_eq, kind_attach (by simp) (arena.enter kind fresh).younger, size_attach, entered m,
    entered doc.size, if_pos rfl, kind]
  split
  · rfl
  · split <;> rfl

theorem appendProperty (arena : Arena doc) {object : Nat} {members : Array (String × Nat)}
    (kind : doc.kind object = .object members) {name : String}
    (fresh : name ∉ members.toList.map (·.1)) (new : NewNode) :
    Arena (doc.appendProperty object name new) := by
  have linked := arena.toLinked
  have inside := lt_size_of_object kind
  have entered := arena.enter kind fresh
  have valued := arena.enter_takes kind name new
  have within : doc.size <
      (doc.attach object (.property name) (Kind.addMember name doc.size)).size := by simp
  rw [appendProperty_eq]
  refine ⟨entered.attach within valued new.recorded_kind fun _ => arena.enter_waits kind name, ?_⟩
  intro n named
  rw [isProperty, entered.nodeType_attach within valued] at named
  split at named
  · rw [← Kind.isProperty, new.isProperty_kind] at named
    cases named
  rename_i older
  apply entered.first_isSome_attach within older
  intro other
  rw [linked.nodeType_attach inside (takes_member kind fresh), if_neg other] at named
  exact linked.first_isSome_attach inside other fun _ => arena.complete n named

/-- One step of a history: every change keeps the invariant, also one that fails. -/
theorem after (arena : Arena doc) (edit : Edit) : Arena (doc.after edit) := by
  cases edit with
  | insert object name new =>
    rw [Document.after]
    cases done : doc.insert object name new with
    | error e => exact arena
    | ok r =>
      obtain ⟨members, kind, fresh, rfl⟩ := insert_cases done
      exact arena.appendProperty kind fresh new
  | push container new =>
    rw [Document.after]
    cases done : doc.push container new with
    | error e => exact arena
    | ok r =>
      obtain ⟨indexable, rfl⟩ := push_cases done
      exact arena.appendItem indexable new
  | setLine n line =>
    rw [Document.after]
    cases done : doc.setLine n line with
    | error e => exact arena
    | ok changed =>
      obtain ⟨inside, rfl⟩ := setLine_cases done
      exact arena.setLine inside line

mutual

/-- Filling a node in changes the node itself and adds nodes; none that is older changes its kind. -/
theorem fill_arena (json : Json) (keyed : json.isKeyed = true) {doc : Document} (arena : Arena doc)
    {n : Nat} (kind : doc.kind n = (shell json).kind) :
    Arena (fill doc n json) ∧ ∀ m < n, (fill doc n json).kind m = doc.kind m := by
  cases json with
  | null | boolean | integer | unsigned | double | string => exact ⟨arena, fun _ _ => rfl⟩
  | array items =>
    have indexable : doc.isIndexable n = true := by
      rw [isIndexable, nodeType, kind]
      rfl
    exact fillItems_arena items keyed arena indexable
  | object members =>
    simp only [Json.isKeyed, Bool.and_eq_true, decide_eq_true_eq] at keyed
    exact fillMembers_arena members keyed.2 arena kind keyed.1

theorem fillItems_arena (items : List Json) (keyed : Json.itemsKeyed items = true) {doc : Document}
    (arena : Arena doc) {n : Nat} (indexable : doc.isIndexable n = true) :
    Arena (fillItems doc n items) ∧ ∀ m < n, (fillItems doc n items).kind m = doc.kind m := by
  cases items with
  | nil => exact ⟨arena, fun _ _ => rfl⟩
  | cons item items =>
    simp only [Json.itemsKeyed, Bool.and_eq_true] at keyed
    have inside := lt_size_of_isIndexable indexable
    have kindOf := arena.kind_appendItem indexable (shell item)
    have added := arena.appendItem indexable (shell item)
    obtain ⟨filled, older⟩ := fill_arena item keyed.1 added (kindOf doc.size ▸ if_pos rfl)
    have still : (fill (doc.appendItem n (shell item)) doc.size item).isIndexable n = true := by
      have takes := takes_item indexable (shell item)
      rw [isIndexable, nodeType, older n inside, kindOf, if_neg (by omega), if_pos rfl,
        takes.nodeType_eq]
      exact indexable
    obtain ⟨done, frame⟩ := fillItems_arena items keyed.2 filled still
    refine ⟨done, fun m less => ?_⟩
    rw [fillItems, frame m less, older m (Nat.lt_trans less inside), kindOf,
      if_neg (by omega), if_neg (by omega)]

theorem fillMembers_arena (members : List (String × Json)) (keyed : Json.membersKeyed members = true)
    {doc : Document} (arena : Arena doc) {n : Nat} {before : Array (String × Nat)}
    (kind : doc.kind n = .object before)
    (distinct : (before.toList.map (·.1) ++ members.map (·.1)).Nodup) :
    Arena (fillMembers doc n members) ∧ ∀ m < n, (fillMembers doc n members).kind m = doc.kind m := by
  match members with
  | [] => exact ⟨arena, fun _ _ => rfl⟩
  | (name, json) :: members =>
    simp only [Json.membersKeyed, Bool.and_eq_true] at keyed
    have inside : n < doc.size := lt_size_of_kind (by simp [kind])
    have fresh : name ∉ before.toList.map (·.1) := by
      intro mem
      exact (List.nodup_append.mp distinct).2.2 name mem name List.mem_cons_self rfl
    have kindOf := arena.kind_appendProperty kind fresh (shell json)
    have added := arena.appendProperty kind fresh (shell json)
    obtain ⟨filled, older⟩ := fill_arena json keyed.1 added (kindOf (doc.size + 1) ▸ if_pos rfl)
    have still : (fill (doc.appendProperty n name (shell json)) (doc.size + 1) json).kind n =
        .object (before.push (name, doc.size)) := by
      rw [older n (by omega), kindOf, if_neg (by omega), if_neg (by omega), if_pos rfl]
    obtain ⟨done, frame⟩ := fillMembers_arena members keyed.2 filled still (by
      simpa using distinct)
    refine ⟨done, fun m less => ?_⟩
    rw [fillMembers, frame m less, older m (by omega), kindOf, if_neg (by omega), if_neg (by omega),
      if_neg (by omega)]

end

theorem ofJson {json : Json} (keyed : json.isKeyed = true) : Arena (ofJson json) :=
  (fill_arena json keyed (ofRoot (shell json)) rfl).1

theorem of_reachable {doc : Document} (reachable : Reachable doc) : Arena doc := by
  induction reachable with
  | root new => exact ofRoot new
  | json keyed => exact ofJson keyed
  | edit _ edit arena => exact arena.after edit

end Arena
end Document
end PathQuery
