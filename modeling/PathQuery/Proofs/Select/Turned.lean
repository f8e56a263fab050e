import PathQuery.Proofs.Select.Meaning

/-! Comparisons turned around. The two sides of a comparison are evaluated in different ways, but where
neither has an error only the pairs of their values count, and the natural order of values can be turned
around. Loose equality cannot: only the value on the left of it may stand for its text. -/
namespace PathQuery

namespace Relation

/-- The relation that says the same with its sides exchanged. -/
def turned? : Relation → Option Relation
  | less => some greater
  | lessEq => some greaterEq
  | greater => some less
  | greaterEq => some lessEq
  | strictEq => some strictEq
  | strictNe => some strictNe
  | present => some present
  | looseEq | looseNe | matching => none

variable {relation turned : Relation} (turns : relation.turned? = some turned)
include turns

theorem turned_back : turned.turned? = some relation := by
  cases relation <;> cases turns <;> rfl

theorem ne_matching_of_turned : relation ≠ .matching := by
  rintro rfl
  cases turns

theorem compares_turned (l r : Scalar) : turned.Compares r l ↔ relation.Compares l r := by
  have swap := Scalar.compare_swap l r
  cases relation <;> cases turns
  case present => rfl
  all_goals
    simp only [Compares, swap]
    cases l.compare? r with
    | none => simp
    | some o => cases o <;> simp

/-- With a container on either side the exchange changes nothing. -/
theorem Links.exchange {doc : Document} {l r : Operand} (links : relation.Links doc l r) :
    turned.Links doc r l := by
  cases links with
  | matching => cases turns
  | container container different =>
    rcases different with rfl | rfl
    · cases turns
    · cases turns
      exact .container container.symm (.inr rfl)
  | values leftValue rightValue compares =>
    exact .values rightValue leftValue ((compares_turned turns _ _).mpr compares)

end Relation

namespace Condition

open Select

variable {doc : Document} {root n : Nat}

theorem Means.exchange {relation turned : Relation} (turns : relation.turned? = some turned)
    {left right : Term} (means : (compare relation left (some right)).Means doc root n) :
    (compare turned right (some left)).Means doc root n := by
  cases means with
  | pair lefts rights onLeft onRight links =>
    exact .pair rights lefts onRight onLeft (links.exchange turns)

theorem means_turned_iff {relation turned : Relation} (turns : relation.turned? = some turned)
    {left right : Term} : (compare turned right (some left)).Means doc root n ↔
      (compare relation left (some right)).Means doc root n :=
  ⟨fun means => means.exchange (Relation.turned_back turns), fun means => means.exchange turns⟩

/-- Only matches try patterns. -/
theorem not_tries_of_turned {relation turned : Relation} (turns : relation.turned? = some turned)
    {left right : Term} (p : Pattern) : ¬(compare relation left (some right)).Tries doc root n p := by
  intro tries
  exact Relation.ne_matching_of_turned turns (exists_operand_of_tries tries).1

theorem holds_of_turned {relation turned : Relation} (turns : relation.turned? = some turned)
    {left right : Term} (leftSound : ∀ e, .error e ∉ left.operands doc root n)
    (rightSound : ∀ e, .error e ∉ right.operands doc root n) :
    (compare relation left (some right)).holds doc root n =
      (compare turned right (some left)).holds doc root n := by
  obtain ⟨ls, lefts⟩ := Term.exists_yields leftSound
  obtain ⟨rs, rights⟩ := Term.exists_yields rightSound
  have straight : Decides ((compare relation left (some right)).holds doc root n) _ :=
    pair_decides lefts rights fun p tries => absurd tries (not_tries_of_turned turns p)
  have around : Decides ((compare turned right (some left)).holds doc root n) _ :=
    pair_decides rights lefts fun p tries =>
      absurd tries (not_tries_of_turned (Relation.turned_back turns) p)
  exact straight.unique around (means_turned_iff turns).symm

/-- Where neither side has an error, comparisons by order and by strict equality may be turned around. -/
theorem holds_turned (doc : Document) (root n : Nat) (left right : Term)
    (leftSound : ∀ e, .error e ∉ left.operands doc root n)
    (rightSound : ∀ e, .error e ∉ right.operands doc root n) :
    (compare .less left (some right)).holds doc root n =
      (compare .greater right (some left)).holds doc root n ∧
    (compare .lessEq left (some right)).holds doc root n =
      (compare .greaterEq right (some left)).holds doc root n ∧
    (compare .strictEq left (some right)).holds doc root n =
      (compare .strictEq right (some left)).holds doc root n ∧
    (compare .strictNe left (some right)).holds doc root n =
      (compare .strictNe right (some left)).holds doc root n := by
  refine ⟨?_, ?_, ?_, ?_⟩
  · exact holds_of_turned rfl leftSound rightSound
  · exact holds_of_turned rfl leftSound rightSound
  · exact holds_of_turned rfl leftSound rightSound
  · exact holds_of_turned rfl leftSound rightSound

/-- Two rows of values of many types, some of which cannot be compared. -/
def mixed : Document := .ofJson (.object [
  ("low", .array [.null, .string "b", .array [], .integer 1]),
  ("high", .array [.string "a", .double (.ofInt 2), .boolean true])])

/-- The last integer on the one side is below the double on the other; nothing is equal to anything. -/
theorem holds_turned_mixed :
    let low := Term.path [.member (some "low"), .item none]
    let high := Term.path [.member (some "high"), .item none]
    (compare .greater high (some low)).holds mixed 0 0 = .ok true ∧
    (compare .strictEq high (some low)).holds mixed 0 0 = .ok false := by
  intro low high
  have lows : low.operands mixed 0 0 = [.ok (.node 3), .ok (.node 4), .ok (.node 5), .ok (.node 6)] := by cbv
  have highs : high.operands mixed 0 0 = [.ok (.node 9), .ok (.node 10), .ok (.node 11)] := by cbv
  obtain ⟨less, -, equal, -⟩ := holds_turned mixed 0 0 low high (by simp [lows]) (by simp [highs])
  refine ⟨less.symm.trans ?_, equal.symm.trans ?_⟩
  · cbv
  · cbv

end Condition
end PathQuery
