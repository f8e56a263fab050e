import PathQuery.Document.Json
import PathQuery.Proofs.Path.Same
import PathQuery.Select.Step

/-! Chains of comparisons joined by connectives, without parentheses. A chain is the canonical text of a
condition, which groups it from the right, and the grouped condition evaluates the chain from left to
right. -/
namespace PathQuery

/-- What a connective makes of the outcome in front of it and of the one behind it, which does not matter
when the first decides; an error decides too. -/
def Connective.shortcut : Connective → (first rest : Except SelectError Bool) → Except SelectError Bool
  | .all, .ok true, rest => rest
  | .any, .ok false, rest => rest
  | _, first, _ => first

/-- Nothing behind a connective is true of all and false of any. -/
theorem Connective.shortcut_empty (connective : Connective) (first : Except SelectError Bool) :
    connective.shortcut first (.ok (connective = .all)) = first := by
  rcases first with e | b
  · cases connective <;> rfl
  · cases connective <;> cases b <;> rfl

/-- Conditions with connectives between them: `a && (b || (… c))` for `a && b || … c`. -/
inductive Chain where
  | last (condition : Condition)
  | link (first : Condition) (connective : Connective) (rest : Chain)

namespace Condition

variable (doc : Document) (root n : Nat)

theorem holds_nil (connective : Connective) :
    (compound connective []).holds doc root n = .ok (connective = .all) := by
  cases connective with
  | all => rw [holds, allHold, decide_eq_true rfl]
  | any => rw [holds, anyHolds, decide_eq_false (by decide)]

theorem holds_cons (connective : Connective) (first : Condition) (members : List Condition) :
    (compound connective (first :: members)).holds doc root n =
      connective.shortcut (first.holds doc root n) ((compound connective members).holds doc root n) := by
  cases connective with
  | all =>
    rw [holds, holds, allHold]
    rcases first.holds doc root n with e | b
    · rfl
    · cases b <;> rfl
  | any =>
    rw [holds, holds, anyHolds]
    rcases first.holds doc root n with e | b
    · rfl
    · cases b <;> rfl

/-- A chain of the same connective is taken in; anything else becomes the last of two members. -/
theorem join_cases (connective : Connective) (first rest : Condition) :
    join connective first rest = compound connective [first, rest] ∨
    ∃ members, rest = compound connective members ∧
      join connective first rest = compound connective (first :: members) := by
  cases rest with
  | compare => exact .inl rfl
  | compound c members =>
    rw [join]
    by_cases same : c = connective
    · exact .inr ⟨members, same ▸ rfl, if_pos same⟩
    · exact .inl (if_neg same)

/-- Either way the rest is evaluated as one condition. -/
theorem holds_join (connective : Connective) (first rest : Condition) :
    (join connective first rest).holds doc root n =
      connective.shortcut (first.holds doc root n) (rest.holds doc root n) := by
  rcases join_cases connective first rest with joined | ⟨members, rfl, joined⟩
  · rw [joined, holds_cons, holds_cons, holds_nil, Connective.shortcut_empty]
  · rw [joined, holds_cons]

/-- The text of a joined condition does not show how it is grouped. -/
theorem chars_join (connective : Connective) (first : Condition) {rest : Condition}
    (wellFormed : rest.isWellFormed = true) :
    (join connective first rest).chars =
      first.chars ++ ' ' :: (connective.chars ++ ' ' :: rest.chars) := by
  rcases join_cases connective first rest with joined | ⟨members, rfl, joined⟩
  · rw [joined, chars, conditionsChars, conditionsChars]
    simp
  · simp only [isWellFormed, Bool.and_eq_true, decide_eq_true_eq] at wellFormed
    obtain ⟨m, ms, rfl⟩ := List.exists_cons_of_length_pos (Nat.lt_of_lt_of_le Nat.two_pos wellFormed.1)
    rw [joined, chars, conditionsChars, chars]
    simp

theorem join_finite (connective : Connective) (first rest : Condition) :
    (join connective first rest).isFinite = (first.isFinite && rest.isFinite) := by
  rcases join_cases connective first rest with joined | ⟨members, rfl, joined⟩
  · rw [joined, isFinite, conditionsFinite, conditionsFinite, conditionsFinite, Bool.and_true]
  · rw [joined, isFinite, conditionsFinite, isFinite]

end Condition

theorem Path.text_query (condition : Condition) :
    Path.text ⟨[.query condition]⟩ = "$[?(" ++ condition.text ++ ")]" := by
  have chars : Path.chars ⟨[.query condition]⟩ = '$' :: ((Step.query condition).chars ++ []) := rfl
  apply String.toList_injective
  rw [text_toList, chars, Reader.query_text]
  simp [Condition.text, Reader.depthChars]

namespace Chain

def members : Chain → List Condition
  | last condition => [condition]
  | link first _ rest => first :: rest.members

/-- The texts of the conditions and the connectives with spaces around these. -/
def text : Chain → String
  | last condition => condition.text
  | link first connective rest =>
    first.text ++ " " ++ String.ofList connective.chars ++ " " ++ rest.text

/-- From left to right, given the outcomes of the conditions. -/
def evaluate (outcome : Condition → Except SelectError Bool) : Chain → Except SelectError Bool
  | last condition => outcome condition
  | link first connective rest => connective.shortcut (outcome first) (rest.evaluate outcome)

/-- The grouping from the right as one condition. -/
def grouped : Chain → Condition
  | last condition => condition
  | link first connective rest => .join connective first rest.grouped

theorem grouped_holds (doc : Document) (root n : Nat) (chain : Chain) :
    chain.grouped.holds doc root n = chain.evaluate fun condition => condition.holds doc root n := by
  induction chain with
  | last condition => rfl
  | link first connective rest ih => rw [grouped, Condition.holds_join, ih, evaluate]

theorem grouped_printable {chain : Chain}
    (comparisons : ∀ c ∈ chain.members, c.isComparison = true)
    (printable : ∀ c ∈ chain.members, c.isWellFormed = true ∧ c.isFinite = true) :
    chain.grouped.isWellFormed = true ∧ chain.grouped.isFinite = true ∧
      chain.grouped.text = chain.text := by
  induction chain with
  | last condition =>
    obtain ⟨wellFormed, finite⟩ := printable condition List.mem_cons_self
    exact ⟨wellFormed, finite, rfl⟩
  | link first connective rest ih =>
    obtain ⟨wellFormed, finite⟩ := printable first List.mem_cons_self
    obtain ⟨restFormed, restFinite, restText⟩ := ih
      (fun c mem => comparisons c (List.mem_cons_of_mem first mem))
      (fun c mem => printable c (List.mem_cons_of_mem first mem))
    refine ⟨?_, ?_, ?_⟩
    · exact Condition.join_wellFormed connective (comparisons first List.mem_cons_self) wellFormed restFormed
    · rw [grouped, Condition.join_finite, finite, restFinite]
      rfl
    · rw [text, ← restText, grouped, Condition.text, Condition.chars_join connective first restFormed]
      simp [Condition.text, String.append_assoc]

/-- A chain of comparisons that can be read one by one is read as one condition, which gives what the
evaluation of the chain from left to right gives: the same truth value or the same error. -/
theorem parse_evaluates (chain : Chain) (comparisons : ∀ c ∈ chain.members, c.isComparison = true)
    (reread : ∀ c ∈ chain.members, ∃ again,
      Path.parse ("$[?(" ++ c.text ++ ")]") = .ok again ∧ again.same ⟨[.query c]⟩ = true) :
    ∃ condition, Path.parse ("$[?(" ++ chain.text ++ ")]") = .ok ⟨[.query condition]⟩ ∧
      ∀ doc root n, condition.holds doc root n =
        chain.evaluate fun c => c.holds doc root n := by
  have printable : ∀ c ∈ chain.members, c.isWellFormed = true ∧ c.isFinite = true := by
    intro c mem
    have both := Path.reread_iff_printable.mp (Path.text_query c ▸ reread c mem)
    simpa [Path.isPrintable, Path.isWellFormed, Path.isFinite, stepsWellFormed, stepsFinite,
      Step.isWellFormed, Step.isFinite] using both
  obtain ⟨wellFormed, finite, text⟩ := grouped_printable comparisons printable
  refine ⟨chain.grouped, ?_, fun doc root n => grouped_holds doc root n chain⟩
  rw [← text, ← Path.text_query]
  apply Path.parse_text_of_finite
  · simpa [Path.isWellFormed, stepsWellFormed, Step.isWellFormed] using wellFormed
  · simpa [Path.isFinite, stepsFinite, Step.isFinite] using finite

/-- Whether a path from the candidate leads anywhere. -/
def leads (steps : List Step) : Condition := .compare .present (.path steps) none

/-- `@.a && @.b || @[::0] && @.c`, where the stride of zero is an error. -/
def alternating : Chain :=
  .link (leads [.member (some "a")]) .all (.link (leads [.member (some "b")]) .any
    (.link (leads [.slice none none (some 0)]) .all (.last (leads [.member (some "c")]))))

/-- The slice is reached only if there is an `a` but no `b`. -/
theorem parse_evaluates_alternating :
    alternating.text = "@.a && @.b || @[::0] && @.c" ∧
    ∃ condition, Path.parse ("$[?(" ++ alternating.text ++ ")]") = .ok ⟨[.query condition]⟩ ∧
      condition.holds (.ofJson (.object [("c", .null)])) 0 0 = .ok false ∧
      condition.holds (.ofJson (.object [("a", .null), ("c", .null)])) 0 0 = .error .zeroStep ∧
      condition.holds (.ofJson (.object [("a", .null), ("b", .null)])) 0 0 = .ok true := by
  have reread : ∀ c ∈ alternating.members, ∃ again,
      Path.parse ("$[?(" ++ c.text ++ ")]") = .ok again ∧ again.same ⟨[.query c]⟩ = true := by
    intro c mem
    rw [← Path.text_query, Path.reread_iff_printable]
    simp only [alternating, members, List.mem_cons, List.not_mem_nil, or_false] at mem
    rcases mem with rfl | rfl | rfl | rfl <;> cbv
  obtain ⟨condition, read, holds⟩ := parse_evaluates alternating (by decide) reread
  refine ⟨by decide +kernel, condition, read, ?_, ?_, ?_⟩
  · exact (holds _ _ _).trans (by cbv)
  · exact (holds _ _ _).trans (by cbv)
  · exact (holds _ _ _).trans (by cbv)

end Chain
end PathQuery
