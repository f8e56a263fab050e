import PathQuery.Proofs.Path.Place
import PathQuery.Proofs.Path.RoundTrip

/-! The text of a place shows its turns. Each turn can be taken off the front again, whatever comes behind it,
so places with different turns have different texts; and behind a `$` the text of a place is that of a path,
with a dot between if it begins with a plain name. -/
namespace PathQuery

namespace Turn

open Lexeme Reader

def takePlain (s : List Char) : Turn × List Char :=
  (name (String.ofList (s.takeWhile (!isSpecialInName ·))), s.dropWhile (!isSpecialInName ·))

/-- The turn at the front of a text and what is behind it: in a bracket a quoted name or a position, otherwise
a plain name with or without a dot. -/
def take : List Char → Turn × List Char
  | '[' :: '\'' :: s =>
    match quotedChars '\'' [] s with
    | .ok (cs, rest) => (name (String.ofList cs), rest.tail)
    | .error _ => (name "", [])
  | '[' :: s => (index (Numeral.ofDigits (takeDigits s).1), (takeDigits s).2.tail)
  | '.' :: s => takePlain s
  | s => takePlain s

theorem take_quoted (s : String) (rest : List Char) :
    take (namesChars [s] ++ rest) = (name s, rest) := by
  have read := quotedChars_encode s.toList [] (']' :: rest)
  have text : namesChars [s] ++ rest =
      '[' :: '\'' :: (s.toList.flatMap Quoted.escaped ++ '\'' :: ']' :: rest) := by
    simp [namesChars, joinChars, Quoted.encode]
  rw [text, take, read]
  simp

theorem take_index (i : Nat) (rest : List Char) :
    take ('[' :: (Numeral.digits i ++ [']']) ++ rest) = (index i, rest) := by
  obtain ⟨c, cs, text⟩ := List.exists_cons_of_ne_nil (Numeral.digits_ne_nil i)
  have digit : Numeral.isDigit c = true := Numeral.isDigit_of_mem_digits (n := i) (by simp [text])
  have other : c ≠ '\'' := by
    rintro rfl
    cases digit
  have span : takeDigits (c :: cs ++ ']' :: rest) = (c :: cs, ']' :: rest) :=
    takeDigits_span (text ▸ isDigits_digits i) (stopsAt_cons.mpr rfl)
  have value : Numeral.ofDigits (c :: cs) = i := text ▸ Numeral.ofDigits_digits i
  rw [text, List.cons_append, List.append_assoc, List.singleton_append, List.cons_append, take]
  · rw [← List.cons_append, span, value]
    rfl
  · intro s same
    exact other (List.cons.inj same).1

theorem take_plain (dot : Bool) {s : String} (plain : isPlainName s.toList = true) {rest : List Char}
    (stop : StopsAt (!isSpecialInName ·) rest) :
    take ((if dot then ['.'] else []) ++ s.toList ++ rest) = (name s, rest) := by
  have visible : ∀ c ∈ s.toList, (!isSpecialInName c) = true := by
    simp only [isPlainName, Bool.and_eq_true, Bool.not_eq_true'] at plain
    intro c mem
    simpa using List.any_eq_false.mp plain.2 c mem
  have whole : takePlain (s.toList ++ rest) = (name s, rest) := by
    rw [takePlain, takeWhile_span visible stop, dropWhile_span visible stop, String.ofList_toList]
  cases dot with
  | true => exact whole
  | false =>
    obtain ⟨c, cs, text⟩ := List.exists_cons_of_ne_nil (plain_ne_nil plain)
    have mem : c ∈ s.toList := by simp [text]
    have bracket : c ≠ '[' := plain_ne plain mem (by decide)
    have point : c ≠ '.' := plain_ne plain mem (by decide)
    rw [text] at whole ⊢
    rw [← whole]
    simp [take, bracket, point]

/-- A turn can be taken off the front, whatever turns come behind it. -/
theorem take_chars (dot : Bool) (turn : Turn) {rest : List Char}
    (stop : StopsAt (!isSpecialInName ·) rest) : take (turn.chars dot ++ rest) = (turn, rest) := by
  cases turn with
  | index i => exact take_index i rest
  | name s =>
    rw [chars]
    by_cases plain : isPlainName s.toList = true
    · rw [memberChars_plain dot plain]
      exact take_plain dot plain stop
    · rw [memberChars_quoted dot plain]
      exact take_quoted s rest

/-- Behind another turn every turn begins with a character that no plain name holds. -/
theorem chars_front (turn : Turn) : ∃ c t, turn.chars true = c :: t ∧ isSpecialInName c = true := by
  cases turn with
  | index i => exact ⟨'[', _, rfl, by decide⟩
  | name s =>
    obtain ⟨c, t, text, front⟩ := step_front (show (name s).step.isWellFormed = true from rfl)
    refine ⟨c, t, text, ?_⟩
    rcases front with rfl | rfl <;> decide

theorem turns_stop (turns : List Turn) :
    StopsAt (!isSpecialInName ·) (turns.flatMap (chars true)) := by
  cases turns with
  | nil => exact stopsAt_nil _
  | cons turn turns =>
    obtain ⟨c, t, text, special⟩ := turn.chars_front
    rw [List.flatMap_cons, text]
    exact stopsAt_cons.mpr (by simp [special])

theorem turns_chars_injective : Function.Injective fun turns : List Turn => turns.flatMap (chars true) := by
  intro as bs same
  dsimp only at same
  induction as generalizing bs with
  | nil =>
    cases bs with
    | nil => rfl
    | cons b bs =>
      obtain ⟨c, t, text, _⟩ := b.chars_front
      simp [text] at same
  | cons a as ih =>
    cases bs with
    | nil =>
      obtain ⟨c, t, text, _⟩ := a.chars_front
      simp [text] at same
    | cons b bs =>
      have taken := congrArg take same
      rw [List.flatMap_cons, List.flatMap_cons, take_chars true a (turns_stop as),
        take_chars true b (turns_stop bs), Prod.mk.injEq] at taken
      rw [taken.1, ih taken.2]

theorem placeChars_injective : Function.Injective placeChars := by
  intro as bs same
  have nonempty (turn : Turn) (turns : List Turn) : placeChars (turn :: turns) ≠ [] := by
    obtain ⟨s, c, text, _⟩ := placeChars_back turn turns
    simp [text]
  cases as with
  | nil =>
    cases bs with
    | nil => rfl
    | cons b bs => exact absurd same.symm (nonempty b bs)
  | cons a as =>
    cases bs with
    | nil => exact absurd same (nonempty a as)
    | cons b bs =>
      have taken := congrArg take same
      rw [placeChars, placeChars, take_chars false a (turns_stop as), take_chars false b (turns_stop bs),
        Prod.mk.injEq] at taken
      rw [taken.1, turns_chars_injective taken.2]

/-- What stands in front of a place in the text of its path: a `$`, and a dot where the place begins with a
plain name. -/
def lead (place : String) : String :=
  if place.toList.head? = none ∨ place.toList.head? = some '[' then "$" else "$."

theorem lead_cons (c : Char) (cs : List Char) :
    (lead (String.ofList (c :: cs))).toList = if c = '[' then ['$'] else ['$', '.'] := by
  by_cases bracket : c = '[' <;> simp [lead, bracket]

theorem chars_dotted (turn : Turn) (rest : List Char) :
    '$' :: (turn.chars true ++ rest) =
      (lead (String.ofList (turn.chars false ++ rest))).toList ++ (turn.chars false ++ rest) := by
  cases turn with
  | index i =>
    simp only [chars, List.cons_append]
    rw [lead_cons, if_pos rfl]
    rfl
  | name s =>
    simp only [chars]
    by_cases plain : isPlainName s.toList = true
    · obtain ⟨c, cs, text⟩ := List.exists_cons_of_ne_nil (plain_ne_nil plain)
      have bracket : c ≠ '[' := plain_ne plain (by simp [text]) (by decide)
      rw [memberChars_plain true plain, memberChars_plain false plain, text]
      change _ = (lead (String.ofList (c :: (cs ++ rest)))).toList ++ _
      rw [lead_cons, if_neg bracket]
      rfl
    · rw [memberChars_quoted true plain, memberChars_quoted false plain, namesChars, List.cons_append,
        lead_cons, if_pos rfl]
      rfl

/-- The path of a place is written as the place behind its lead. -/
theorem text_lead {turns : List Turn} (small : turns.all inRange = true) :
    Path.text ⟨turns.map step⟩ =
      lead (String.ofList (placeChars turns)) ++ String.ofList (placeChars turns) := by
  apply String.toList_injective
  rw [Path.text_toList, Path.chars, stepsChars_step small, String.toList_append, String.toList_ofList]
  cases turns with
  | nil => rfl
  | cons turn turns => exact chars_dotted turn _

end Turn
end PathQuery
