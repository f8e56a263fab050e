import Mathlib
import PathQuery.Path.Same
import PathQuery.Proofs.Path.Accepted
import PathQuery.Proofs.Path.Reread

/-! Paths and their texts. Printing and reading are inverse on the printable paths, and an accepted path
has a text that means the same path exactly if it is printable, that is, if its numbers are finite. -/
namespace PathQuery

theorem Scalar.same_refl {value : Scalar} (finite : value.isFinite = true) :
    value.same value = true := by
  cases value with
  | double x =>
    have number : x ≠ .nan := by
      rintro rfl
      cases finite
    simp [Scalar.same, Double.numericEq, number]
  | date t => simp [Scalar.same, Timestamp.compare]
  | null | boolean | integer | string | bytes | guid | uri | timeSpan => simp [Scalar.same]

mutual

theorem Step.same_refl (step : Step) (finite : step.isFinite = true) : step.same step = true := by
  cases step with
  | query condition | scanQuery condition =>
    rw [Step.same]
    exact Condition.same_refl condition finite
  | pipe steps | union steps =>
    rw [Step.same]
    exact stepsSame_refl steps finite
  | root => rw [Step.same]
  | member | members | item | items | slice | scan | scanNames => simp [Step.same]

theorem stepsSame_refl (steps : List Step) (finite : stepsFinite steps = true) :
    stepsSame steps steps = true := by
  cases steps with
  | nil => rw [stepsSame]
  | cons step steps =>
    simp only [stepsFinite, Bool.and_eq_true] at finite
    simp [stepsSame, Step.same_refl step finite.1, stepsSame_refl steps finite.2]

theorem Condition.same_refl (condition : Condition) (finite : condition.isFinite = true) :
    condition.same condition = true := by
  cases condition with
  | compare relation left right =>
    cases right with
    | none => simp [Condition.same, Term.same_refl left finite]
    | some right =>
      simp only [Condition.isFinite, Bool.and_eq_true] at finite
      simp [Condition.same, Term.same_refl left finite.1, Term.same_refl right finite.2]
  | compound connective members => simp [Condition.same, conditionsSame_refl members finite]

theorem conditionsSame_refl (conditions : List Condition)
    (finite : conditionsFinite conditions = true) : conditionsSame conditions conditions = true := by
  cases conditions with
  | nil => rw [conditionsSame]
  | cons condition conditions =>
    simp only [conditionsFinite, Bool.and_eq_true] at finite
    simp [conditionsSame, Condition.same_refl condition finite.1,
      conditionsSame_refl conditions finite.2]

theorem Term.same_refl (term : Term) (finite : term.isFinite = true) : term.same term = true := by
  cases term with
  | literal value =>
    rw [Term.same]
    exact Scalar.same_refl finite
  | pattern pattern => simp [Term.same]
  | path steps =>
    rw [Term.same]
    exact stepsSame_refl steps finite

end

namespace Path

theorem same_refl {path : Path} (finite : path.isFinite = true) : path.same path = true :=
  stepsSame_refl path.steps finite

theorem parse_ok {text : String} {path : Path} :
    parse text = .ok path ↔ Reader.readPath text.toList = .ok path.steps := by
  unfold parse
  cases Reader.readPath text.toList with
  | error fault => constructor <;> (intro h; cases h)
  | ok steps => constructor <;> (intro h; cases h; rfl)

theorem wellFormed_of_parse {text : String} {path : Path} (accepted : parse text = .ok path) :
    path.isWellFormed = true :=
  Reader.readPath_accepted (parse_ok.mp accepted)

theorem text_toList (path : Path) : path.text.toList = path.chars := String.toList_ofList

theorem parse_text_of_finite {path : Path} (wellFormed : path.isWellFormed = true)
    (finite : path.isFinite = true) : parse path.text = .ok path := by
  have read := Reader.readPath_chars wellFormed
  rw [finite, ← text_toList] at read
  exact parse_ok.mpr read

theorem parse_text_of_infinite {path : Path} (wellFormed : path.isWellFormed = true)
    (infinite : path.isFinite = false) (again : Path) : parse path.text ≠ .ok again := by
  have read := Reader.readPath_chars wellFormed
  rw [infinite, ← text_toList] at read
  obtain ⟨fault, fails⟩ := read
  rw [ne_eq, parse_ok, fails]
  intro same
  cases same

/-- A printable path is read from its own text. -/
theorem parse_text (path : Path) (printable : path.isPrintable = true) :
    parse path.text = .ok path := by
  simp only [isPrintable, Bool.and_eq_true] at printable
  exact parse_text_of_finite printable.1 printable.2

/-- Names that need quotes or look like something else, both connectives, and every other kind of
step. -/
def intricate : Path :=
  ⟨[.member (some "$"), .scan (some "*"), .members ["it's", "\n"], .items [0, -2147483648],
    .slice none (some 3) (some (-1)), .scanQuery (.compound .all
      [.compare .present (.path [.root, .member (some ""), .item none]) none,
        .compound .any
          [.compare .matching (.path [.scan none]) (some (.pattern ⟨"\\d/\\n", "xi"⟩)),
            .compare .lessEq (.literal (.double (.number true ⟨1, by decide⟩)))
              (some (.literal (.string "\\'")))]]), .member none]⟩

theorem parse_text_intricate : intricate.isPrintable = true ∧ parse intricate.text = .ok intricate :=
  ⟨by decide +kernel, parse_text intricate (by decide +kernel)⟩

/-- An accepted path has a text that means the same path exactly if its numbers are finite. -/
theorem reparse_iff_finite {text : String} {path : Path} (accepted : parse text = .ok path) :
    (∃ again, parse path.text = .ok again ∧ again.same path = true) ↔ path.isFinite = true := by
  have wellFormed := wellFormed_of_parse accepted
  constructor
  · rintro ⟨again, reread, _⟩
    by_contra infinite
    exact parse_text_of_infinite wellFormed (Bool.not_eq_true _ ▸ infinite) again reread
  · intro finite
    exact ⟨path, parse_text_of_finite wellFormed finite, same_refl finite⟩

set_option maxRecDepth 2000 in
/-- A text that is not canonical: round brackets, an operator with a second spelling, a number with a
trailing zero and a flag without a meaning. -/
theorem reparse_loose : ∃ path, parse " $.x('a', 'b')..c[?(@<>1.50||$.d=~/x\\/y/zi)]" = .ok path ∧
    ∃ again, parse path.text = .ok again ∧ again.same path = true := by
  have accepted : parse " $.x('a', 'b')..c[?(@<>1.50||$.d=~/x\\/y/zi)]" =
      .ok ⟨[.member (some "x"), .members ["a", "b"], .scan (some "c"), .query (.compound .any
        [.compare .looseNe (.path []) (some (.literal (.double (.number false ⟨0x3FF8000000000000, by decide⟩)))),
          .compare .matching (.path [.root, .member (some "d")]) (some (.pattern ⟨"x/y", "i"⟩))])]⟩ := by
    cbv
  exact ⟨_, accepted, (reparse_iff_finite accepted).mpr (by cbv)⟩

/-- A number too large for a double is written as `inf`, which is no number when it is read. -/
theorem reparse_overflow : ∃ path, parse "$[?(@ == 1e999)]" = .ok path ∧
    ¬∃ again, parse path.text = .ok again ∧ again.same path = true := by
  refine ⟨⟨[.query (.compare .looseEq (.path []) (some (.literal (.double (.infinity false)))))]⟩,
    by cbv, ?_⟩
  rintro ⟨again, reread, _⟩
  exact parse_text_of_infinite (by cbv) (by cbv) again reread

end Path
end PathQuery
