import PathQuery.Document.Place
import PathQuery.Proofs.Document.Tree

/-! Walking down a document. The turns of a node lead from the root to what the node stands for, and no
other turns do: a walk of turns ends where those turns are the place. -/
namespace PathQuery

def Turn.target? (doc : Document) (n : Nat) : Turn → Option Nat
  | name s => doc.get? n s
  | index i => doc.item? n i

namespace Document

def walk? (doc : Document) : List Turn → Nat → Option Nat
  | [], n => some n
  | turn :: turns, n => (turn.target? doc n).bind (doc.walk? turns)

theorem walk_append (doc : Document) (a b : List Turn) (n : Nat) :
    doc.walk? (a ++ b) n = (doc.walk? a n).bind (doc.walk? b) := by
  induction a generalizing n with
  | nil => rfl
  | cons turn a ih =>
    rw [List.cons_append, walk?, walk?]
    cases turn.target? doc n with
    | none => rfl
    | some m => exact ih m

theorem walk_one (doc : Document) (turn : Turn) (n : Nat) :
    doc.walk? [turn] n = turn.target? doc n := by
  rw [walk?]
  cases turn.target? doc n <;> rfl

/-- There is no turn from a property to its value. -/
theorem turn_eq_none {doc : Document} {p v : Nat} (property : doc.isProperty p = true)
    (plain : doc.isProperty v = false) : doc.turn? p v = none := by
  rw [turn?, propertyName_eq_none.mpr plain, property]
  rfl

namespace Arena

variable {doc : Document} (arena : Arena doc)
include arena

theorem turns_root : doc.turns root = [] := by
  rw [turns, arena.toLinked.rootParent]

theorem turns_child {p c : Nat} (mem : c ∈ doc.children p) :
    doc.turns c = doc.turns p ++ (doc.turn? p c).toList := by
  have parent := (arena.toLinked.mem_children.mp mem).2
  rw [turns, parent]
  exact if_pos (arena.toLinked.parent_lt parent)

/-- What holds items is what has children that are no properties, apart from properties. -/
theorem isIndexable_of_child {p c : Nat} (mem : c ∈ doc.children p) (plain : doc.isProperty c = false)
    (above : doc.isProperty p = false) : doc.isIndexable p = true := by
  cases kind : doc.kind p with
  | array | constructor => simp [isIndexable, nodeType, kind, Kind.nodeType]
  | property => simp [isProperty, nodeType, kind, Kind.nodeType] at above
  | value v =>
    rw [arena.consistent.value kind] at mem
    cases mem
  | object members =>
    obtain ⟨children, _, named⟩ := arena.consistent.object kind
    rw [children] at mem
    obtain ⟨m, among, rfl⟩ := List.mem_map.mp mem
    simp [isProperty, nodeType, named m among, Kind.nodeType] at plain

/-- From anything but a property, the turn to a child leads to what the child stands for. -/
theorem target_turn {p c : Nat} (mem : c ∈ doc.children p) (above : doc.isProperty p = false) :
    ∃ turn, doc.turn? p c = some turn ∧ turn.target? doc p = doc.childValue? c := by
  cases named : doc.propertyName? c with
  | some name =>
    have property := isProperty_of_name named
    obtain ⟨v, children, first, _⟩ := arena.property_children property
    refine ⟨.name name, by rw [turn?, named], ?_⟩
    rw [childValue?, if_pos property, first]
    exact arena.get_eq_some_iff.mpr ⟨c, mem, named, children⟩
  | none =>
    have plain := propertyName_eq_none.mp named
    have indexable := arena.isIndexable_of_child mem plain above
    have value := childValue_plain plain
    have among : c ∈ doc.values p := List.mem_filterMap.mpr ⟨c, mem, value⟩
    refine ⟨.index ((doc.values p).idxOf c), by rw [turn?, named, above]; rfl, ?_⟩
    rw [Turn.target?, arena.item_eq, if_pos indexable, value]
    exact List.getElem?_idxOf among

theorem turns_get {p v : Nat} {name : String} (found : doc.get? p name = some v) :
    doc.turns v = doc.turns p ++ [.name name] := by
  obtain ⟨q, mem, named, value⟩ := arena.get_eq_some_iff.mp found
  have property := isProperty_of_name named
  obtain ⟨w, children, _, plain⟩ := arena.property_children property
  rw [value, List.cons.injEq] at children
  rw [← children.1] at plain
  have outer : doc.turn? p q = some (.name name) := by rw [turn?, named]
  rw [arena.turns_child (value ▸ List.mem_singleton_self v), turn_eq_none property plain,
    arena.turns_child mem, outer]
  exact List.append_nil _

/-- Items are distinct, so the position of an item is the one where it was found. -/
theorem turns_item {p v i : Nat} (found : doc.item? p i = some v) :
    doc.turns v = doc.turns p ++ [.index i] := by
  rw [arena.item_eq] at found
  split at found
  · rename_i indexable
    obtain ⟨within, here⟩ := List.getElem?_eq_some_iff.mp found
    have values := arena.values_of_isIndexable indexable
    have mem : v ∈ doc.children p := by
      rw [← values, ← here]
      exact List.getElem_mem within
    have nodup : (doc.values p).Nodup := by
      rw [values]
      exact arena.consistent.nodup p
    have position : (doc.values p).idxOf v = i := by
      rw [← here]
      exact nodup.idxOf_getElem i within
    have plain := arena.plain_of_isIndexable indexable mem
    have turn : doc.turn? p v = some (.index i) := by
      rw [turn?, propertyName_eq_none.mpr plain, isProperty_of_isIndexable indexable, position]
      rfl
    rw [arena.turns_child mem, turn]
    rfl
  · cases found

/-- Conversely, where a turn leads from a node is one turn further down. -/
theorem turns_target {p v : Nat} {turn : Turn} (found : turn.target? doc p = some v) :
    doc.turns v = doc.turns p ++ [turn] := by
  cases turn with
  | name name => exact arena.turns_get found
  | index i => exact arena.turns_item found

/-- A walk goes as many turns down as it has. -/
theorem turns_walk {n m : Nat} {turns : List Turn} (found : doc.walk? turns n = some m) :
    doc.turns m = doc.turns n ++ turns := by
  induction turns generalizing n with
  | nil =>
    cases found
    exact (List.append_nil _).symm
  | cons turn turns ih =>
    obtain ⟨v, first, rest⟩ := Option.bind_eq_some_iff.mp found
    rw [ih rest, arena.turns_target first, List.append_assoc, List.singleton_append]

theorem exists_childValue (n : Nat) : ∃ m, doc.childValue? n = some m := by
  cases property : doc.isProperty n with
  | true =>
    obtain ⟨v, _, first, _⟩ := arena.property_children property
    exact ⟨v, by rw [childValue?, if_pos property, first]⟩
  | false => exact ⟨n, childValue_plain property⟩

/-- The induction is on the number of the node: its parent is older. -/
theorem walk_turns {n : Nat} (inside : n < doc.size) :
    doc.walk? (doc.turns n) root = doc.childValue? n := by
  induction n using Nat.strongRecOn with
  | _ n ih =>
    have linked := arena.toLinked
    rcases Nat.eq_zero_or_pos n with rfl | positive
    · rw [show (0 : Nat) = root from rfl, arena.turns_root,
        childValue_plain (show doc.isProperty root = false from linked.rootPlain)]
      rfl
    · obtain ⟨p, older, parent⟩ := linked.parent n positive inside
      have mem : n ∈ doc.children p := linked.mem_children.mpr ⟨inside, parent⟩
      have above := ih p older (Nat.lt_trans older inside)
      rw [arena.turns_child mem, walk_append, above]
      cases property : doc.isProperty p with
      | true =>
        obtain ⟨v, children, first, plain⟩ := arena.property_children property
        rw [children, List.mem_singleton] at mem
        subst mem
        rw [childValue?, if_pos property, first, turn_eq_none property plain, childValue_plain plain]
        rfl
      | false =>
        obtain ⟨turn, known, target⟩ := arena.target_turn mem property
        rw [childValue_plain property, known, ← target]
        exact walk_one doc turn p

end Arena
end Document
end PathQuery
