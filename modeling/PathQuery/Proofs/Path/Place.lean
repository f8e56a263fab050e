import PathQuery.Document.Place
import PathQuery.Proofs.Path.Reread

/-! Reading the place of a node as a path. A place has no `$` in front, so a name at its front is
written without a dot and read where a path may begin with `$`: only a front name that is `$` itself is
taken for the root and lost. -/
namespace PathQuery

namespace Turn

def step : Turn → Step
  | name s => .member (some s)
  | index i => .item (some (Int32.ofNat i))

/-- Positions beyond this range have no place in a path. -/
def inRange : Turn → Bool
  | name _ => true
  | index i => i < 2 ^ 31

/-- The turns that the text of a place is read as. -/
def read (turns : List Turn) : List Turn :=
  if turns.head? = some (.name "$") then turns.tail else turns

theorem index_toInt {i : Nat} (small : i < 2 ^ 31) : (Int32.ofNat i).toInt = i :=
  Int32.toInt_ofNat_of_lt small

theorem chars_step {turn : Turn} (small : turn.inRange = true) : turn.step.chars = turn.chars true := by
  cases turn with
  | name s => rfl
  | index i =>
    have toInt := index_toInt (of_decide_eq_true small)
    rw [show (Turn.index i).step.chars = '[' :: (indexChars (Int32.ofNat i) ++ [']']) from rfl]
    simp [chars, Indexer.indexChars_eq, toInt, Layout.signed]

theorem stepsChars_step {turns : List Turn} (small : turns.all inRange = true) :
    stepsChars (turns.map step) = turns.flatMap (chars true) := by
  induction turns with
  | nil => rfl
  | cons turn turns ih =>
    simp only [List.all_cons, Bool.and_eq_true] at small
    rw [List.map_cons, stepsChars, List.flatMap_cons, chars_step small.1, ih small.2]

theorem wellFormed_step (turns : List Turn) : stepsWellFormed (turns.map step) = true := by
  induction turns with
  | nil => rfl
  | cons turn turns ih =>
    rw [List.map_cons, stepsWellFormed, ih, Bool.and_true]
    cases turn <;> rfl

theorem finite_step (turns : List Turn) : stepsFinite (turns.map step) = true := by
  induction turns with
  | nil => rfl
  | cons turn turns ih =>
    rw [List.map_cons, stepsFinite, ih, Bool.and_true]
    cases turn <;> rfl

end Turn

namespace Reader

open Lexeme Indexer

theorem plain_ne_nil {name : List Char} (plain : isPlainName name = true) : name ≠ [] := by
  rintro rfl
  cases plain

theorem plain_ne {name : List Char} (plain : isPlainName name = true) {c : Char} (mem : c ∈ name)
    {d : Char} (special : isSpecialInName d = true) : c ≠ d := by
  rintro rfl
  simp only [isPlainName, Bool.and_eq_true, Bool.not_eq_true'] at plain
  exact List.any_eq_false.mp plain.2 c mem special

/-- No turn is written with a space at its end. -/
theorem chars_back (dot : Bool) (turn : Turn) : ∃ s c, turn.chars dot = s ++ [c] ∧ c ≠ ' ' := by
  cases turn with
  | index i => exact ⟨'[' :: Numeral.digits i, ']', rfl, by decide⟩
  | name name =>
    by_cases plain : isPlainName name.toList = true
    · obtain empty | ⟨s, c, text⟩ := List.eq_nil_or_concat name.toList
      · exact absurd empty (plain_ne_nil plain)
      · refine ⟨(if dot then ['.'] else []) ++ s, c, ?_, plain_ne plain (by simp [text]) (by decide)⟩
        rw [Turn.chars, memberChars_plain dot plain, text, List.concat_eq_append, List.append_assoc]
    · refine ⟨'[' :: Quoted.encode name.toList, ']', ?_, by decide⟩
      rw [Turn.chars, memberChars, if_neg plain]
      rfl

theorem placeChars_back (turn : Turn) (turns : List Turn) :
    ∃ s c, placeChars (turn :: turns) = s ++ [c] ∧ c ≠ ' ' := by
  obtain rfl | ⟨inner, last, rfl⟩ := List.eq_nil_or_concat turns
  · obtain ⟨s, c, text, visible⟩ := chars_back false turn
    exact ⟨s, c, by rw [placeChars, text]; simp, visible⟩
  · obtain ⟨s, c, text, visible⟩ := chars_back true last
    refine ⟨turn.chars false ++ (inner.flatMap (Turn.chars true) ++ s), c, ?_, visible⟩
    simp [placeChars, text]

/-- A text without spaces around it is read as its steps. -/
theorem readPath_of_steps {c : Char} {t : List Char} (front : c ≠ ' ')
    (back : ∃ s d, c :: t = s ++ [d] ∧ d ≠ ' ') (longer : c :: t ≠ ['$']) {steps : List Step}
    (read : reached (readSteps false .start false (dropRoot (c :: t))) = .ok (steps, [])) :
    readPath (c :: t) = .ok steps := by
  obtain ⟨s, d, text, visible⟩ := back
  have trimmed : (skipSpaces (skipSpaces (c :: t)).reverse).reverse = c :: t := by
    rw [skipSpaces_cons t front, text, List.reverse_append, List.reverse_singleton,
      List.singleton_append, skipSpaces_cons _ visible]
    simp
  rw [readPath_eq, trimmed, if_neg (by simp [longer]), skipSpaces_cons t front, read]
  rfl

theorem reached_steps (turns : List Turn) :
    reached (readSteps false .start false (stepsChars (turns.map Turn.step))) =
      .ok (turns.map Turn.step, []) := by
  have read : Gives (reached (readSteps false .start false (stepsChars (turns.map Turn.step) ++ [])))
      (stepsFinite (turns.map Turn.step)) (turns.map Turn.step, []) :=
    steps_reread (turns.map Turn.step) (Turn.wellFormed_step turns) (by decide) (.inl rfl)
  rw [List.append_nil, Turn.finite_step] at read
  exact read

/-- A `$` is dropped only where a dot or a bracket follows. -/
theorem dropRoot_plain {name : List Char} (plain : isPlainName name = true) (further : name ≠ ['$'])
    (s : List Char) : dropRoot (name ++ s) = name ++ s := by
  match name with
  | [] => exact absurd rfl (plain_ne_nil plain)
  | [c] =>
    have other : c ≠ '$' := fun same => further (by rw [same])
    rw [dropRoot]
    · rintro rest ⟨⟩
      exact other rfl
    · rintro rest ⟨⟩
      exact other rfl
  | c :: d :: cs =>
    have mem : d ∈ c :: d :: cs := by simp
    rw [dropRoot]
    · rintro rest ⟨⟩
      exact plain_ne plain mem (d := '.') (by decide) rfl
    · rintro rest ⟨⟩
      exact plain_ne plain mem (d := '[') (by decide) rfl

section Front

variable {turns : List Turn} (small : turns.all Turn.inRange = true)
include small

theorem placeChars_cons (turn : Turn) : placeChars (turn :: turns) =
    turn.chars false ++ stepsChars (turns.map Turn.step) := by
  rw [placeChars, Turn.stepsChars_step small]

theorem readPath_bracket {turn : Turn} {t : List Char} (text : turn.step.chars = '[' :: t)
    (same : turn.chars false = turn.step.chars) :
    readPath (placeChars (turn :: turns)) = .ok ((turn :: turns).map Turn.step) := by
  have back := placeChars_back turn turns
  have read := reached_steps (turn :: turns)
  rw [List.map_cons, stepsChars, text, List.cons_append] at read
  rw [placeChars_cons small, same, text, List.cons_append] at back ⊢
  exact readPath_of_steps (by decide) back (by simp) read

theorem readPath_name {name : String} (plain : isPlainName name.toList = true)
    (further : name.toList ≠ ['$']) :
    readPath (placeChars (.name name :: turns)) = .ok ((.name name :: turns).map Turn.step) := by
  have back := placeChars_back (.name name) turns
  have stop : EndsName false (stepsChars (turns.map Turn.step) ++ []) :=
    endsName_stepsChars (Turn.wellFormed_step turns) (.inl rfl)
  have read : reached (readSteps false .start false
      (dropRoot (name.toList ++ stepsChars (turns.map Turn.step)))) =
      .ok ((Turn.name name :: turns).map Turn.step, []) := by
    rw [List.append_nil] at stop
    rw [dropRoot_plain plain further, reached_readSteps_name false .start false
      (endsName_of_plain false plain) (plain_ne_nil plain) stop (by decide), reached_steps,
      nameStep_plain false plain]
    rfl
  rw [placeChars_cons small, Turn.chars, memberChars_plain false plain] at back ⊢
  obtain ⟨c, cs, text⟩ := List.exists_cons_of_ne_nil (plain_ne_nil plain)
  have visible : c ≠ ' ' := plain_ne plain (by simp [text]) (by decide)
  rw [text] at back further read ⊢
  refine readPath_of_steps visible back ?_ read
  intro single
  obtain ⟨same, rest⟩ := List.cons.inj single
  exact further (by rw [same, (List.append_eq_nil_iff.mp rest).1])

/-- A front `$` is dropped with or without something behind it. -/
theorem readPath_root : readPath (placeChars (.name "$" :: turns)) = .ok (turns.map Turn.step) := by
  have back := placeChars_back (.name "$") turns
  have text : placeChars (.name "$" :: turns) = '$' :: stepsChars (turns.map Turn.step) :=
    placeChars_cons small (.name "$")
  have read := reached_steps turns
  rw [text] at back ⊢
  cases turns with
  | nil => rfl
  | cons turn turns =>
    have wellFormed := Turn.wellFormed_step (turn :: turns)
    rw [List.map_cons, stepsWellFormed, Bool.and_eq_true] at wellFormed
    obtain ⟨c, t, front, stop⟩ := step_front wellFormed.1
    rw [List.map_cons, stepsChars, front, List.cons_append] at back read ⊢
    have dropped : dropRoot ('$' :: c :: (t ++ stepsChars (turns.map Turn.step))) =
        c :: (t ++ stepsChars (turns.map Turn.step)) := by
      rcases stop with rfl | rfl <;> rfl
    rw [← dropped] at read
    exact readPath_of_steps (by decide) back (by simp) read

end Front

/-- The text of a place is read as its turns, less a front name `$`. -/
theorem readPath_placeChars {turns : List Turn} (small : turns.all Turn.inRange = true) :
    readPath (placeChars turns) = .ok ((Turn.read turns).map Turn.step) := by
  cases turns with
  | nil => rfl
  | cons turn turns =>
    simp only [List.all_cons, Bool.and_eq_true] at small
    cases turn with
    | index i =>
      have chars := Turn.chars_step small.1
      exact readPath_bracket small.2 chars chars.symm
    | name name =>
      by_cases root : name = "$"
      · subst root
        exact readPath_root small.2
      · have kept : Turn.read (.name name :: turns) = .name name :: turns := by simp [Turn.read, root]
        rw [kept]
        by_cases plain : isPlainName name.toList = true
        · refine readPath_name small.2 plain fun same => root ?_
          exact String.toList_inj.mp same
        · have quoted (dot : Bool) := memberChars_quoted dot plain
          exact readPath_bracket small.2 (quoted true) ((quoted false).trans (quoted true).symm)

end Reader
end PathQuery
