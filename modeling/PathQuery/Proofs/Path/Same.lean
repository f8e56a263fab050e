import PathQuery.Proofs.Path.RoundTrip

/-! Equality of paths keeps their shape. A path that equals a well-formed one is well formed itself; so a
path whose text is read back as an equal path is printable, and what was read is that path exactly. -/
namespace PathQuery

theorem Scalar.wellFormed_of_same {a b : Scalar} (same : a.same b = true)
    (wellFormed : a.isWellFormed = true) : b.isWellFormed = true := by
  cases a with
  | double x =>
    cases b with
    | double y =>
      simp only [Scalar.same, Double.numericEq, Bool.and_eq_true, decide_eq_true_eq] at same
      obtain ⟨number, keys⟩ := same
      cases y with
      | number => simp [Scalar.isWellFormed]
      | nan =>
        -- The key of NaN is below all others.
        cases x with
        | nan => exact absurd rfl number
        | number negative rank =>
          have bound := rank.isLt
          cases negative <;> simp only [Double.key] at keys <;> omega
    | _ => simp [Scalar.same] at same
  | null | boolean | integer | string =>
    rw [Scalar.same, beq_iff_eq] at same
    · exact same ▸ wellFormed
    all_goals simp
  | bytes | guid | uri | timeSpan | date => cases wellFormed

theorem Condition.connective_of_same {a b : Condition} (same : a.same b = true) :
    a.connective? = b.connective? ∧ a.isComparison = b.isComparison := by
  cases a with
  | compare r left right =>
    cases b with
    | compare => exact ⟨rfl, rfl⟩
    | compound => cases right <;> simp [Condition.same] at same
  | compound c as =>
    cases b with
    | compare s left right => cases right <;> simp [Condition.same] at same
    | compound d bs =>
      simp only [Condition.same, Bool.and_eq_true, beq_iff_eq] at same
      exact ⟨congrArg some same.1, rfl⟩

theorem length_of_conditionsSame {as bs : List Condition} (same : conditionsSame as bs = true) :
    as.length = bs.length := by
  induction as generalizing bs with
  | nil =>
    cases bs with
    | nil => rfl
    | cons => simp [conditionsSame] at same
  | cons a as ih =>
    cases bs with
    | nil => simp [conditionsSame] at same
    | cons b bs =>
      simp only [conditionsSame, Bool.and_eq_true] at same
      rw [List.length_cons, List.length_cons, ih same.2]

mutual

theorem Step.wellFormed_of_same {a b : Step} (same : a.same b = true)
    (wellFormed : a.isWellFormed = true) : b.isWellFormed = true := by
  cases a with
  | root | pipe | union => cases wellFormed
  | query condition =>
    cases b with
    | query other =>
      rw [Step.same] at same
      exact Condition.wellFormed_of_same same wellFormed
    | _ => simp [Step.same] at same
  | scanQuery condition =>
    cases b with
    | scanQuery other =>
      rw [Step.same] at same
      exact Condition.wellFormed_of_same same wellFormed
    | _ => simp [Step.same] at same
  | member | scan | item | slice | members | scanNames | items =>
    cases b <;> simp_all [Step.same, Step.isWellFormed]

theorem stepsWellFormed_of_same {as bs : List Step} (same : stepsSame as bs = true)
    (wellFormed : stepsWellFormed as = true) : stepsWellFormed bs = true := by
  cases as with
  | nil =>
    cases bs with
    | nil => rfl
    | cons => simp [stepsSame] at same
  | cons a as =>
    cases bs with
    | nil => simp [stepsSame] at same
    | cons b bs =>
      simp only [stepsSame, Bool.and_eq_true] at same
      simp only [stepsWellFormed, Bool.and_eq_true] at wellFormed ⊢
      exact ⟨Step.wellFormed_of_same same.1 wellFormed.1, stepsWellFormed_of_same same.2 wellFormed.2⟩

theorem Condition.wellFormed_of_same {a b : Condition} (same : a.same b = true)
    (wellFormed : a.isWellFormed = true) : b.isWellFormed = true := by
  cases a with
  | compare relation left right =>
    cases b with
    | compound => cases right <;> simp [Condition.same] at same
    | compare other left' right' =>
      cases right with
      | none =>
        cases right' with
        | some => simp [Condition.same] at same
        | none =>
          simp only [Condition.same, Bool.and_eq_true, beq_iff_eq] at same
          simp only [Condition.isWellFormed, Bool.and_eq_true] at wellFormed ⊢
          exact ⟨same.1 ▸ wellFormed.1, Term.wellFormed_of_same same.2 wellFormed.2⟩
      | some right =>
        cases right' with
        | none => simp [Condition.same] at same
        | some right' =>
          simp only [Condition.same, Bool.and_eq_true, beq_iff_eq] at same
          simp only [Condition.isWellFormed, Bool.and_eq_true] at wellFormed ⊢
          exact ⟨⟨same.1.1 ▸ wellFormed.1.1, Term.wellFormed_of_same same.1.2 wellFormed.1.2⟩,
            Term.wellFormed_of_same same.2 wellFormed.2⟩
  | compound connective members =>
    cases b with
    | compare _ _ right => cases right <;> simp [Condition.same] at same
    | compound other members' =>
      simp only [Condition.same, Bool.and_eq_true, beq_iff_eq] at same
      simp only [Condition.isWellFormed, Bool.and_eq_true] at wellFormed ⊢
      exact ⟨length_of_conditionsSame same.2 ▸ wellFormed.1,
        same.1 ▸ membersWellFormed_of_same connective same.2 wellFormed.2⟩

theorem membersWellFormed_of_same (connective : Connective) {as bs : List Condition}
    (same : conditionsSame as bs = true) (wellFormed : membersWellFormed connective as = true) :
    membersWellFormed connective bs = true := by
  match as, bs with
  | [], _ => cases wellFormed
  | _ :: _, [] => simp [conditionsSame] at same
  | [a], [b] =>
    simp only [conditionsSame, Bool.and_eq_true] at same
    simp only [membersWellFormed, Bool.and_eq_true] at wellFormed ⊢
    rw [← (Condition.connective_of_same same.1).1]
    exact ⟨Condition.wellFormed_of_same same.1 wellFormed.1, wellFormed.2⟩
  | [_], _ :: _ :: _ => simp [conditionsSame] at same
  | _ :: _ :: _, [_] => simp [conditionsSame] at same
  | a :: a' :: as, b :: b' :: bs =>
    rw [conditionsSame, Bool.and_eq_true] at same
    simp only [membersWellFormed, Bool.and_eq_true] at wellFormed ⊢
    rw [← (Condition.connective_of_same same.1).2]
    exact ⟨⟨wellFormed.1.1, Condition.wellFormed_of_same same.1 wellFormed.1.2⟩,
      membersWellFormed_of_same connective same.2 wellFormed.2⟩

theorem Term.wellFormed_of_same {a b : Term} (same : a.same b = true)
    (wellFormed : a.isWellFormed = true) : b.isWellFormed = true := by
  cases a with
  | literal v =>
    cases b with
    | literal w =>
      rw [Term.same] at same
      exact Scalar.wellFormed_of_same same wellFormed
    | pattern | path => simp [Term.same] at same
  | pattern p =>
    cases b with
    | pattern q =>
      rw [Term.same, beq_iff_eq] at same
      exact same ▸ wellFormed
    | literal | path => simp [Term.same] at same
  | path as =>
    cases b with
    | literal | pattern => simp [Term.same] at same
    | path bs =>
      rw [Term.same] at same
      by_cases rooted : ∃ inner, as = .root :: inner
      · obtain ⟨inner, rfl⟩ := rooted
        cases bs with
        | nil => simp [stepsSame] at same
        | cons b bs =>
          rw [stepsSame, Bool.and_eq_true] at same
          cases b with
          | root => exact stepsWellFormed_of_same same.2 wellFormed
          | _ => simp [Step.same] at same
      · rw [Term.isWellFormed] at wellFormed
        · exact term_path_wellFormed (stepsWellFormed_of_same same wellFormed)
        · exact fun inner h => rooted ⟨inner, h⟩

end

namespace Path

/-- A path is read back from its own text exactly if it is printable. -/
theorem reread_iff_printable {path : Path} :
    (∃ again, parse path.text = .ok again ∧ again.same path = true) ↔ path.isPrintable = true := by
  rw [isPrintable, Bool.and_eq_true]
  constructor
  · rintro ⟨again, reread, same⟩
    have wellFormed : path.isWellFormed = true :=
      stepsWellFormed_of_same same (wellFormed_of_parse reread)
    refine ⟨wellFormed, ?_⟩
    by_contra infinite
    exact parse_text_of_infinite wellFormed (Bool.not_eq_true _ ▸ infinite) again reread
  · rintro ⟨wellFormed, finite⟩
    exact ⟨path, parse_text_of_finite wellFormed finite, same_refl finite⟩

end Path
end PathQuery
