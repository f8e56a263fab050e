import PathQuery.Path.Text
import PathQuery.Proofs.Path.Number
import PathQuery.Proofs.Path.Outcome
import PathQuery.Proofs.Path.Printable

/-! The pieces of a path that hold no others read back as they are written, whatever follows them as
long as it cannot belong to them. -/
namespace PathQuery

namespace Lexeme

@[simp] theorem skipSpaces_nil : skipSpaces [] = [] := rfl

@[simp] theorem skipSpaces_space (s : List Char) : skipSpaces (' ' :: s) = skipSpaces s := rfl

theorem skipSpaces_stop {s : List Char} (stop : StopsAt (· == ' ') s) : skipSpaces s = s :=
  dropWhile_stop stop

theorem skipSpaces_cons {c : Char} (s : List Char) (visible : c ≠ ' ') :
    skipSpaces (c :: s) = c :: s :=
  skipSpaces_stop (stopsAt_cons.mpr (by simpa using visible))

/-- What a term can be followed by: a space or the parenthesis that closes the condition. -/
def EndsTerm (s : List Char) : Prop := ∃ c t, s = c :: t ∧ (c = ' ' ∨ c = ')')

theorem endsTerm_space (s : List Char) : EndsTerm (' ' :: s) := ⟨' ', s, rfl, .inl rfl⟩

theorem endsTerm_close (s : List Char) : EndsTerm (')' :: s) := ⟨')', s, rfl, .inr rfl⟩

theorem EndsTerm.stopsAt {s : List Char} (ends : EndsTerm s) {p : Char → Bool}
    (space : p ' ' = false) (close : p ')' = false) : StopsAt p s := by
  obtain ⟨c, t, rfl, rfl | rfl⟩ := ends
  · exact stopsAt_cons.mpr space
  · exact stopsAt_cons.mpr close

theorem EndsTerm.endsNumber {s : List Char} (ends : EndsTerm s) : EndsNumber s :=
  ends.stopsAt rfl rfl

/-- No quote is written bare, and a backslash only in front of its letter. -/
theorem ne_of_letter_none {c : Char} (h : Quoted.letter? c = none) : c ≠ '\'' ∧ c ≠ '\\' := by
  constructor <;> (rintro rfl; cases h)

theorem quotedChars_encode (cs seen s : List Char) :
    quotedChars '\'' seen (cs.flatMap Quoted.escaped ++ '\'' :: s) = .ok (seen.reverse ++ cs, s) := by
  induction cs generalizing seen with
  | nil => cases s <;> simp [quotedChars]
  | cons c cs ih =>
    rw [List.flatMap_cons, Quoted.escaped]
    cases letter : Quoted.letter? c with
    | some l =>
      have step : quotedChars '\'' seen ('\\' :: l :: (cs.flatMap Quoted.escaped ++ '\'' :: s)) =
          quotedChars '\'' (c :: seen) (cs.flatMap Quoted.escaped ++ '\'' :: s) := by
        rw [quotedChars]
        simp [Quoted.unletter_letter letter]
      simpa using step.trans (ih (c :: seen))
    | none =>
      obtain ⟨quote, backslash⟩ := ne_of_letter_none letter
      obtain ⟨d, t, front⟩ : ∃ d t, cs.flatMap Quoted.escaped ++ '\'' :: s = d :: t :=
        List.exists_cons_of_ne_nil (by simp)
      have step : quotedChars '\'' seen (c :: (cs.flatMap Quoted.escaped ++ '\'' :: s)) =
          quotedChars '\'' (c :: seen) (cs.flatMap Quoted.escaped ++ '\'' :: s) := by
        rw [front, quotedChars]
        simp [quote, backslash]
      simpa using step.trans (ih (c :: seen))

theorem found_readQuoted_encode (text : String) (s : List Char) :
    found (readQuoted '\'' (text.toList.flatMap Quoted.escaped ++ '\'' :: s)) = .ok (text, s) := by
  simp [found_readQuoted, quotedChars_encode, Except.map]

/-- A character that is no backslash is read as itself, also when it is an escaped slash. -/
theorem patternChars_escaped {c : Char} (single : c ≠ '\\') (seen : List Char) {t : List Char}
    (more : t ≠ []) :
    patternChars seen ((if c = '/' then ['\\', '/'] else [c]) ++ t) = patternChars (c :: seen) t := by
  obtain ⟨d, t, rfl⟩ := List.exists_cons_of_ne_nil more
  by_cases slash : c = '/'
  · subst slash
    rfl
  · rw [if_neg slash, List.singleton_append, patternChars, if_neg slash, if_neg single]

/-- A source reads back: its slashes are escaped, and its pairs are not taken apart. -/
theorem patternChars_escape {cs : List Char} (source : Pattern.isSource cs = true)
    (seen s : List Char) :
    patternChars seen (Pattern.escapeSlashes cs ++ '/' :: s) = some (seen.reverse ++ cs, s) := by
  unfold Pattern.escapeSlashes
  fun_induction Pattern.isSource cs generalizing seen with
  | case1 => cases s <;> simp [patternChars]
  | case2 c =>
    have single : c ≠ '\\' := by simpa using source
    rw [List.flatMap_cons, List.flatMap_nil, List.append_nil,
      patternChars_escaped single seen (by simp)]
    cases s <;> simp [patternChars]
  | case3 e cs ih =>
    simp only [Bool.and_eq_true, decide_eq_true_eq] at source
    have step := ih source.2 (e :: '\\' :: seen)
    have pair : patternChars seen ('\\' :: e :: (cs.flatMap (fun c => if c = '/' then ['\\', '/'] else [c]) ++
        '/' :: s)) = patternChars (e :: '\\' :: seen) (cs.flatMap (fun c => if c = '/' then ['\\', '/']
          else [c]) ++ '/' :: s) := by
      rw [patternChars]
      simp [source.1]
    simpa [source.1] using pair.trans step
  | case4 c e cs single ih =>
    rw [List.flatMap_cons, List.append_assoc, patternChars_escaped single seen (by simp),
      ih source (c :: seen), List.reverse_cons, List.append_assoc, List.singleton_append]

theorem isAlphabetic_flag {c : Char} (h : Pattern.isFlag c = true) : Unicode.isAlphabetic c = true := by
  have : c = 'i' ∨ c = 'm' ∨ c = 's' ∨ c = 'x' := by
    simpa [Pattern.isFlag, Pattern.knownFlags] using h
  rcases this with rfl | rfl | rfl | rfl <;> rw [Unicode.isAlphabetic_of_ascii (by decide)] <;> rfl

/-- A pattern reads back in front of anything but a letter. -/
theorem found_readPattern_stop {p : Pattern} (wellFormed : p.isWellFormed = true) {s : List Char}
    (stop : StopsAt Unicode.isAlphabetic s) :
    found (readPattern (Pattern.escapeSlashes p.source.toList ++ '/' :: (p.flags.toList ++ s))) =
      .ok (p, s) := by
  simp only [Pattern.isWellFormed, Bool.and_eq_true, List.all_eq_true] at wellFormed
  have letters : ∀ c ∈ p.flags.toList, Unicode.isAlphabetic c = true :=
    fun c hc => isAlphabetic_flag (wellFormed.2 c hc)
  rw [found_readPattern, patternChars_escape wellFormed.1]
  simp only [takeWhile_span letters stop, dropWhile_span letters stop]
  rw [List.filter_eq_self.mpr wellFormed.2]
  simp

theorem found_readPattern_chars {p : Pattern} (wellFormed : p.isWellFormed = true) {s : List Char}
    (ends : EndsTerm s) :
    found (readPattern (Pattern.escapeSlashes p.source.toList ++ '/' :: (p.flags.toList ++ s))) =
      .ok (p, s) := by
  have stop : StopsAt Unicode.isAlphabetic s := by
    apply ends.stopsAt <;> rw [Unicode.isAlphabetic_of_ascii (by decide)] <;> rfl
  exact found_readPattern_stop wellFormed stop

end Lexeme
end PathQuery
