import Mathlib
import PathQuery.Proofs.Scalar.Order
import PathQuery.Select.Comparison

/-! What a relation says of one operand on either side. An operand stands for a value, or to the right of
a match for a pattern; on values the relations are those of the natural order, but for loose equality,
which also knows string forms. Main statements: the lookups of an operand and the tests of two values are
these relations. -/
namespace PathQuery

namespace Operand

/-- The value that an operand stands for. A pattern counts as its text. -/
inductive Denotes (doc : Document) : Operand → Scalar → Prop where
  | node {n : Nat} {v : Scalar} (held : doc.value? n = some v) : Denotes doc (.node n) v
  | literal (v : Scalar) : Denotes doc (.literal v) v
  | pattern (p : Pattern) : Denotes doc (.pattern p) (.string p.text)

/-- A node that holds no value. -/
inductive IsContainer (doc : Document) : Operand → Prop where
  | node {n : Nat} (bare : doc.value? n = none) : IsContainer doc (.node n)

/-- The pattern that an operand is, or that it spells as a string between slashes. -/
inductive Spells (doc : Document) : Operand → Pattern → Prop where
  | pattern (p : Pattern) : Spells doc (.pattern p) p
  | node {n : Nat} {s : String} {p : Pattern} (held : doc.value? n = some (.string s))
      (form : Pattern.ofText? s = some p) : Spells doc (.node n) p
  | literal {s : String} {p : Pattern} (form : Pattern.ofText? s = some p) :
      Spells doc (.literal (.string s)) p

variable {doc : Document} {a : Operand}

theorem denotes_iff {v : Scalar} : a.Denotes doc v ↔ a.value? doc = some v := by
  constructor
  · rintro (held | _ | _)
    · exact held
    · rfl
    · rfl
  · intro value
    cases a with
    | node n => exact .node value
    | literal w =>
      cases value
      exact .literal v
    | pattern p =>
      cases value
      exact .pattern p

theorem isContainer_iff : a.IsContainer doc ↔ a.value? doc = none := by
  constructor
  · rintro ⟨bare⟩
    exact bare
  · intro none
    cases a with
    | node n => exact .node none
    | literal | pattern => cases none

/-- A string among the values spells what it has between its slashes. -/
theorem pattern_eq_some_iff {v : Option Scalar} {p : Pattern} :
    (v.bind Scalar.asString?).bind Pattern.ofText? = some p ↔
      ∃ s, v = some (.string s) ∧ Pattern.ofText? s = some p := by
  constructor
  · intro spelled
    obtain ⟨s, text, form⟩ := Option.bind_eq_some_iff.mp spelled
    obtain ⟨w, value, string⟩ := Option.bind_eq_some_iff.mp text
    cases w <;> cases string
    exact ⟨s, value, form⟩
  · rintro ⟨s, rfl, form⟩
    exact form

theorem spells_iff {p : Pattern} : a.Spells doc p ↔ a.pattern? doc = some p := by
  constructor
  · rintro (_ | ⟨held, form⟩ | form)
    · rfl
    · exact pattern_eq_some_iff.mpr ⟨_, held, form⟩
    · exact form
  · intro spelled
    cases a with
    | node n =>
      obtain ⟨s, held, form⟩ := pattern_eq_some_iff.mp spelled
      exact .node held form
    | literal v =>
      obtain ⟨s, value, form⟩ := pattern_eq_some_iff.mp spelled
      cases value
      exact .literal form
    | pattern q =>
      cases spelled
      exact .pattern p

end Operand

namespace Scalar

/-- Equal in the natural order; or what is asked for is a string, and it is the string form of the value. -/
def EqualsLoosely (value queried : Scalar) : Prop :=
  value.compare? queried = some .eq ∨ ∃ s, queried = .string s ∧ value.stringForm? = some s

theorem looseEq_iff {value queried : Scalar} :
    value.looseEq queried = true ↔ value.EqualsLoosely queried := by
  unfold looseEq
  rw [Bool.or_eq_true, strictEq_iff]
  refine or_congr_right ?_
  constructor
  · intro same
    split at same
    · rename_i s form text
      exact ⟨s, rfl, text.trans (congrArg some (beq_iff_eq.mp same).symm)⟩
    · cases same
  · rintro ⟨s, rfl, form⟩
    simp [form]

end Scalar

namespace Relation

/-- What a relation says of two values. Values that cannot be compared come in no order. -/
def Compares (l r : Scalar) : Relation → Prop
  | looseEq => l.EqualsLoosely r
  | looseNe => ¬l.EqualsLoosely r
  | strictEq => l.compare? r = some .eq
  | strictNe => l.compare? r ≠ some .eq
  | less => l.compare? r = some .lt
  | lessEq => l.compare? r = some .lt ∨ l.compare? r = some .eq
  | greater => l.compare? r = some .gt
  | greaterEq => l.compare? r = some .gt ∨ l.compare? r = some .eq
  | matching => False
  | present => True

theorem holdsFor_iff {relation : Relation} {l r : Scalar} :
    relation.holdsFor l r = true ↔ relation.Compares l r := by
  cases relation with
  | looseEq => exact Scalar.looseEq_iff
  | looseNe =>
    rw [holdsFor, Bool.not_eq_true', ← Bool.not_eq_true]
    exact not_congr Scalar.looseEq_iff
  | strictEq => exact Scalar.strictEq_iff l r
  | strictNe => simp [holdsFor, Compares, Scalar.strictEq]
  | less | greater | lessEq | greaterEq | matching | present => simp [holdsFor, Compares]

/-- The relation holds between two operands. Containers are only ever different. -/
inductive Links (doc : Document) (left right : Operand) : Relation → Prop where
  | matching {s : String} {p : Pattern} {regex : Expression} (text : left.Denotes doc (.string s))
      (pattern : right.Spells doc p) (compiled : p.compile? = some regex)
      (found : regex.isFoundIn s.toList = true) : Links doc left right .matching
  | container {relation : Relation} (container : left.IsContainer doc ∨ right.IsContainer doc)
      (different : relation = .looseNe ∨ relation = .present) : Links doc left right relation
  | values {relation : Relation} {l r : Scalar} (leftValue : left.Denotes doc l)
      (rightValue : right.Denotes doc r) (compares : relation.Compares l r) : Links doc left right relation

variable {doc : Document} {left right : Operand} {relation : Relation}

theorem links_matching_iff : Links doc left right .matching ↔
    ∃ s p regex, left.value? doc = some (.string s) ∧ right.pattern? doc = some p ∧
      p.compile? = some regex ∧ regex.isFoundIn s.toList = true := by
  simp only [← Operand.denotes_iff, ← Operand.spells_iff]
  constructor
  · intro links
    cases links with
    | matching text pattern compiled found => exact ⟨_, _, _, text, pattern, compiled, found⟩
    | container _ different => simp at different
    | values _ _ compares => cases compares
  · rintro ⟨s, p, regex, text, pattern, compiled, found⟩
    exact .matching text pattern compiled found

theorem links_values_iff (other : relation ≠ .matching) {l r : Scalar}
    (leftValue : left.value? doc = some l) (rightValue : right.value? doc = some r) :
    relation.Links doc left right ↔ relation.Compares l r := by
  constructor
  · intro links
    cases links with
    | matching => exact absurd rfl other
    | container container => simp [Operand.isContainer_iff, leftValue, rightValue] at container
    | values leftValue' rightValue' compares =>
      rw [Operand.denotes_iff, leftValue, Option.some.injEq] at leftValue'
      rw [Operand.denotes_iff, rightValue, Option.some.injEq] at rightValue'
      rwa [leftValue', rightValue']
  · exact .values (Operand.denotes_iff.mpr leftValue) (Operand.denotes_iff.mpr rightValue)

theorem links_container_iff (other : relation ≠ .matching)
    (container : left.value? doc = none ∨ right.value? doc = none) :
    relation.Links doc left right ↔ relation = .looseNe ∨ relation = .present := by
  rw [← Operand.isContainer_iff, ← Operand.isContainer_iff] at container
  constructor
  · intro links
    cases links with
    | matching => exact absurd rfl other
    | container _ different => exact different
    | values leftValue rightValue =>
      rw [Operand.denotes_iff] at leftValue rightValue
      simp [Operand.isContainer_iff, leftValue, rightValue] at container
  · exact .container container

theorem holdsForContainer_iff (relation : Relation) :
    relation.holdsForContainer = true ↔ relation = .looseNe ∨ relation = .present := by
  cases relation <;> simp [holdsForContainer]

end Relation
end PathQuery
