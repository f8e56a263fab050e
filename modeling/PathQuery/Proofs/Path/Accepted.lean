import PathQuery.Proofs.Decimal.Nearest
import PathQuery.Proofs.Path.Outcome
import PathQuery.Proofs.Path.Printable

/-! Every path that is read is well formed. Only an infinite number keeps it from being printable. -/
namespace PathQuery

namespace Pattern

theorem isSource_append {a b : List Char} (ha : isSource a = true) (hb : isSource b = true) :
    isSource (a ++ b) = true := by
  fun_induction isSource a with
  | case1 => exact hb
  | case2 c =>
    have single : c ≠ '\\' := by simpa using ha
    cases b with
    | nil => simpa [isSource] using single
    | cons d b => simpa [isSource, single] using hb
  | case3 e cs ih =>
    simp only [Bool.and_eq_true, decide_eq_true_eq] at ha
    simp [isSource, ha.1, ih ha.2]
  | case4 c e cs single ih =>
    have := ih ha
    simpa [isSource, single] using this

end Pattern

namespace Lexeme

theorem patternChars_isSource {seen s : List Char} {r : List Char × List Char}
    (h : patternChars seen s = some r) (source : Pattern.isSource seen.reverse = true) :
    Pattern.isSource r.1 = true := by
  fun_induction patternChars seen s with
  | case1 => cases h
  | case2 =>
    cases h
    exact source
  | case3 => cases h
  | case4 =>
    cases h
    exact source
  | case5 seen rest _ ih =>
    apply ih h
    rw [List.reverse_cons]
    exact Pattern.isSource_append source rfl
  | case6 seen e rest slash _ ih =>
    apply ih h
    rw [List.reverse_cons, List.reverse_cons, List.append_assoc]
    exact Pattern.isSource_append source (by simpa [Pattern.isSource] using slash)
  | case7 seen c e rest _ single ih =>
    apply ih h
    rw [List.reverse_cons]
    exact Pattern.isSource_append source (by simpa [Pattern.isSource] using single)

theorem pattern_accepted {s rest : List Char} {p : Pattern} (h : found (readPattern s) = .ok (p, rest)) :
    p.isWellFormed = true := by
  rw [found_readPattern] at h
  split at h
  · cases h
  · rename_i source left read
    cases h
    have flags : ∀ cs : List Char, (cs.filter Pattern.isFlag).all Pattern.isFlag = true := by simp
    simp only [Pattern.isWellFormed, String.toList_ofList, flags, Bool.and_true]
    exact patternChars_isSource read rfl

theorem numberValue_accepted (w : WrittenNumber) : (numberValue w).isWellFormed = true := by
  unfold numberValue
  split
  · rfl
  · rw [WrittenNumber.nearestDouble, Decimal.toDouble_eq, Double.ofMagnitude]
    rfl

theorem number_accepted {s rest : List Char} {value : Scalar}
    (h : found (readNumber s) = .ok (value, rest)) : value.isWellFormed = true := by
  rw [found_readNumber] at h
  split at h
  · cases h
  · rename_i w _ _
    cases h
    exact numberValue_accepted w

theorem readWord_mem {α : Type} {s : List Char} {words : List (List Char × α)} {t : Taken s α}
    (h : readWord? s words = some t) : t.value ∈ words.map Prod.snd := by
  induction words with
  | nil => cases h
  | cons entry words ih =>
    obtain ⟨word, value⟩ := entry
    rw [readWord?] at h
    split at h
    · split at h
      · cases h
        exact List.mem_cons_self
      · cases h
    · exact List.mem_cons_of_mem _ (ih h)

theorem relation_accepted {s rest : List Char} {relation : Relation}
    (h : found (readRelation s) = .ok (relation, rest)) : relation ≠ .present := by
  rw [found_readRelation] at h
  split at h
  · cases h
  · cases h
  · split at h
    · rename_i t read
      cases h
      have all : ∀ r ∈ relations.map Prod.snd, r ≠ .present := by decide
      exact all t.value (readWord_mem read)
    · cases h

end Lexeme

namespace Indexer

theorem indexes_accepted {close : Char} {s rest : List Char} {indexes : List Int32}
    (h : found (readIndexes close s) = .ok (indexes, rest)) : indexes ≠ [] := by
  rw [found_readIndexes] at h
  obtain ⟨⟨segment, left⟩, _, h⟩ := bind_eq_ok h
  dsimp only at h
  split at h
  · obtain ⟨i, _, same⟩ := map_eq_ok h
    cases same
    exact List.cons_ne_nil i []
  · split at h
    · obtain ⟨i, _, h⟩ := bind_eq_ok h
      obtain ⟨more, _, same⟩ := map_eq_ok h
      cases same
      exact List.cons_ne_nil i more.1
    · cases h

theorem positions_accepted {close : Char} {s rest : List Char} {step : Step}
    (h : found (readPositions close s) = .ok (step, rest)) : step.isWellFormed = true := by
  rw [found_readPositions] at h
  obtain ⟨⟨segment, left⟩, _, h⟩ := bind_eq_ok h
  dsimp only at h
  split at h
  · obtain ⟨i, _, same⟩ := map_eq_ok h
    cases same
    rfl
  split at h
  · obtain ⟨i, _, h⟩ := bind_eq_ok h
    obtain ⟨⟨more, after⟩, read, same⟩ := map_eq_ok h
    cases same
    have : 1 ≤ more.length := List.length_pos_iff.mpr (indexes_accepted read)
    simpa [Step.isWellFormed] using this
  split at h
  · obtain ⟨start, _, h⟩ := bind_eq_ok h
    obtain ⟨bounds, _, same⟩ := map_eq_ok h
    cases same
    rfl
  split at h
  · obtain ⟨_, _, same⟩ := map_eq_ok h
    cases same
    rfl
  · cases h

theorem names_accepted {close : Char} {s rest : List Char} {names : List String}
    (h : found (readNames close s) = .ok (names, rest)) : names ≠ [] := by
  rw [found_readNames] at h
  obtain ⟨⟨name, left⟩, _, h⟩ := bind_eq_ok h
  dsimp only at h
  split at h
  · cases h
  split at h
  · cases h
    exact List.cons_ne_nil name []
  split at h
  · split at h
    · cases h
    · split at h
      · obtain ⟨more, _, same⟩ := map_eq_ok h
        cases same
        exact List.cons_ne_nil name more.1
      · cases h
  · cases h

theorem namesStep_wellFormed (deep : Bool) {names : List String} (nonempty : names ≠ []) :
    (namesStep deep names).isWellFormed = true := by
  match names with
  | [] => exact absurd rfl nonempty
  | [_] => cases deep <;> rfl
  | _ :: _ :: _ => cases deep <;> simp [namesStep, Step.isWellFormed]

end Indexer

namespace Condition

/-- Joining keeps the connectives alternating: a chain of the same connective is taken in. -/
theorem join_wellFormed (connective : Connective) {first rest : Condition}
    (comparison : first.isComparison = true) (hf : first.isWellFormed = true)
    (hr : rest.isWellFormed = true) : (join connective first rest).isWellFormed = true := by
  have pair : rest.connective? ≠ some connective →
      (compound connective [first, rest]).isWellFormed = true := by
    intro other
    simp [isWellFormed, membersWellFormed, comparison, hf, hr, other]
  cases rest with
  | compare => exact pair (by simp [connective?])
  | compound c members =>
    by_cases same : c = connective
    · subst same
      simp only [isWellFormed, Bool.and_eq_true, decide_eq_true_eq] at hr
      obtain ⟨m, ms, rfl⟩ := List.exists_cons_of_length_pos (Nat.lt_of_lt_of_le Nat.two_pos hr.1)
      simp [join, isWellFormed, membersWellFormed, comparison, hf, hr.2]
    · rw [join, if_neg same]
      exact pair (by simpa [connective?] using same)

end Condition

theorem stepsWellFormed_append {a b : List Step} (ha : stepsWellFormed a = true)
    (hb : stepsWellFormed b = true) : stepsWellFormed (a ++ b) = true := by
  induction a with
  | nil => exact hb
  | cons step a ih =>
    simp only [stepsWellFormed, Bool.and_eq_true] at ha
    simp [stepsWellFormed, ha.1, ih ha.2]

theorem term_path_wellFormed {steps : List Step} (wellFormed : stepsWellFormed steps = true) :
    (Term.path steps).isWellFormed = true := by
  rw [Term.isWellFormed]
  · exact wellFormed
  · rintro inner rfl
    cases wellFormed

namespace Reader

open Lexeme Indexer

theorem nameSteps_wellFormed (deep : Bool) (name : List Char) :
    stepsWellFormed (nameSteps deep name) = true := by
  unfold nameSteps
  split
  · rfl
  · cases deep <;> rfl

mutual

theorem steps_accepted {inQuery : Bool} {before : Before} {deep : Bool} {s rest : List Char}
    {steps : List Step} (h : reached (readSteps inQuery before deep s) = .ok (steps, rest)) :
    stepsWellFormed steps = true := by
  have le := (List.dropWhile_suffix (l := s) (!endsName inQuery ·)).length_le
  have name := nameSteps_wellFormed deep (s.takeWhile (!endsName inQuery ·))
  rw [reached_readSteps] at h
  dsimp only at h
  split at h
  · cases h
  split at h
  · split at h
    · cases h
    · cases h
      exact name
  · rename_i left ends
    have inside := lt_of_eq_cons le ends
    split at h
    · obtain ⟨⟨step, behind⟩, bracket, h⟩ := bind_eq_ok h
      obtain ⟨⟨more, _⟩, following, same⟩ := map_eq_ok h
      cases same
      have shorter := found_shorter bracket
      have first := indexer_accepted bracket
      have others := steps_accepted following
      apply stepsWellFormed_append name
      rw [stepsWellFormed, first, others]
      rfl
    split at h
    · obtain ⟨⟨more, _⟩, following, same⟩ := map_eq_ok h
      cases same
      have shorter := afterDot_le left
      exact stepsWellFormed_append name (steps_accepted following)
    split at h
    · cases h
    · cases h
      exact name
termination_by 2 * s.length
decreasing_by all_goals omega

theorem indexer_accepted {close : Char} {deep : Bool} {s rest : List Char} {step : Step}
    (h : found (readIndexer close deep s) = .ok (step, rest)) : step.isWellFormed = true := by
  have le := length_skipSpaces_le s
  rw [found_readIndexer] at h
  split at h
  · cases h
  rename_i left ends
  have inside := lt_of_eq_cons le ends
  split at h
  · obtain ⟨⟨names, _⟩, read, same⟩ := map_eq_ok h
    cases same
    exact namesStep_wellFormed deep (names_accepted read)
  split at h
  · split at h
    · cases h
    split at h
    · obtain ⟨⟨condition, behind⟩, read, h⟩ := bind_eq_ok h
      obtain ⟨_, _, same⟩ := map_eq_ok h
      cases same
      have inner := condition_accepted read
      cases deep <;> exact inner
    · cases h
  · exact positions_accepted h
termination_by 2 * s.length
decreasing_by all_goals (simp only [List.length_cons] at *; omega)

theorem condition_accepted {s rest : List Char} {condition : Condition}
    (h : found (readCondition s) = .ok (condition, rest)) : condition.isWellFormed = true := by
  rw [found_readCondition] at h
  obtain ⟨⟨first, behind⟩, read, h⟩ := bind_eq_ok h
  obtain ⟨⟨left, afterLeft⟩, readLeft, readFirst⟩ := bind_eq_ok read
  have shorter := found_shorter readLeft
  have le := reached_le readFirst
  have good := comparison_accepted (term_accepted readLeft) readFirst
  dsimp only at h
  split at h
  · cases h
  split at h
  · cases h
    exact good.2
  split at h
  · cases h
  split at h
  · cases h
  · obtain ⟨⟨others, _⟩, following, same⟩ := map_eq_ok h
    cases same
    exact Condition.join_wellFormed _ good.1 good.2 (condition_accepted following)
termination_by 2 * s.length + 1
decreasing_by all_goals (simp only [List.length_cons] at *; omega)

theorem comparison_accepted {left : Term} (wellFormed : left.isWellFormed = true)
    {s rest : List Char} {condition : Condition}
    (h : reached (readComparison left s) = .ok (condition, rest)) :
    condition.isComparison = true ∧ condition.isWellFormed = true := by
  cases text : s with
  | nil =>
    rw [text, reached_readComparison] at h
    cases h
  | cons c left =>
  rw [text, reached_readComparison] at h
  dsimp only at h
  split at h
  · cases h
    exact ⟨rfl, by simpa [Condition.isWellFormed] using wellFormed⟩
  · obtain ⟨⟨relation, behind⟩, readRelation, h⟩ := bind_eq_ok h
    obtain ⟨⟨right, _⟩, readRight, same⟩ := map_eq_ok h
    cases same
    have shorter : behind.length < s.length := text ▸ found_shorter readRelation
    have two := relation_accepted readRelation
    have good := term_accepted readRight
    exact ⟨rfl, by simp [Condition.isWellFormed, wellFormed, two, good]⟩
termination_by 2 * s.length
decreasing_by all_goals omega

theorem term_accepted {s rest : List Char} {term : Term}
    (h : found (readTerm s) = .ok (term, rest)) : term.isWellFormed = true := by
  have le := length_skipSpaces_le s
  rw [found_readTerm] at h
  split at h
  · cases h
  rename_i left ends
  have inside := lt_of_eq_cons le ends
  obtain ⟨⟨value, behind⟩, read, h⟩ := bind_eq_ok h
  have good : value.isWellFormed = true := by
    unfold termAt at read
    split at read
    · obtain ⟨⟨steps, _⟩, inner, same⟩ := map_eq_ok read
      cases same
      have steps := steps_accepted inner
      dsimp only
      split
      · exact steps
      · exact term_path_wellFormed steps
    split at read
    · obtain ⟨_, _, same⟩ := map_eq_ok read
      cases same
      rfl
    split at read
    · obtain ⟨⟨pattern, _⟩, inner, same⟩ := map_eq_ok read
      cases same
      exact pattern_accepted inner
    split at read
    · obtain ⟨⟨number, _⟩, inner, same⟩ := map_eq_ok read
      cases same
      exact number_accepted inner
    split at read
    · rename_i t constant
      cases read
      have all : ∀ v ∈ constants.map Prod.snd, v.isWellFormed = true := by decide
      exact all t.value (readWord_mem constant)
    · cases read
  dsimp only at h
  split at h
  · cases h
  · cases h
    exact good
termination_by 2 * s.length
decreasing_by all_goals omega

end

theorem readPath_accepted {text : List Char} {steps : List Step}
    (h : readPath text = .ok steps) : stepsWellFormed steps = true := by
  rw [readPath_eq] at h
  split at h
  · cases h
    rfl
  · obtain ⟨⟨value, left⟩, read, h⟩ := bind_eq_ok h
    dsimp only at h
    split at h
    · cases h
      exact steps_accepted read
    · cases h

end Reader
end PathQuery
