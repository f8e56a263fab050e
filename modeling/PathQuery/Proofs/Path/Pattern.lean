import PathQuery.Proofs.Path.Shape

/-! Two readers of patterns. In a path a pattern ends at its first free slash, and a slash may be escaped;
in a string it ends at the last slash, and its source is taken as it stands. Main statement: where both read
one text, they find the same flags, and sources that differ only in the backslashes in front of slashes. -/
namespace PathQuery

namespace Pattern

/-- Pairs of a backslash and a slash become slashes. Pairs are read from left to right, so a backslash may
also be the second of a pair. -/
def unescapeSlashes : List Char → List Char
  | [] => []
  | [c] => [c]
  | c :: e :: cs =>
    if c = '\\' then if e = '/' then '/' :: unescapeSlashes cs else c :: e :: unescapeSlashes cs
    else c :: unescapeSlashes (e :: cs)

def unescaped (p : Pattern) : Pattern := ⟨String.ofList (unescapeSlashes p.source.toList), p.flags⟩

theorem unescapeSlashes_single {c : Char} (single : c ≠ '\\') (cs : List Char) :
    unescapeSlashes (c :: cs) = c :: unescapeSlashes cs := by
  cases cs with
  | nil => rfl
  | cons e cs => rw [unescapeSlashes, if_neg single]

/-- A string is cut at its last slash. -/
theorem ofText_slashed (source : List Char) {letters : List Char} (free : '/' ∉ letters) :
    ofText? (String.ofList ('/' :: (source ++ '/' :: letters))) =
      some ⟨String.ofList source, String.ofList (letters.filter isFlag)⟩ := by
  have others : ∀ c ∈ letters.reverse, decide (c ≠ '/') = true := by
    intro c mem
    refine decide_eq_true fun slash => free ?_
    rw [← slash]
    exact List.mem_reverse.mp mem
  have stop : StopsAt (fun c => decide (c ≠ '/')) ('/' :: source.reverse) := stopsAt_cons.mpr rfl
  have backwards : (source ++ '/' :: letters).reverse = letters.reverse ++ '/' :: source.reverse := by
    simp
  simp only [ofText?, String.toList_ofList, backwards, dropWhile_span others stop,
    takeWhile_span others stop, List.reverse_reverse]

end Pattern

namespace Lexeme

/-- What is read up to the closing slash is the text in front of it, with its slashes unescaped. -/
theorem patternChars_eq_some {seen s source rest : List Char}
    (read : patternChars seen s = some (source, rest)) :
    ∃ raw, s = raw ++ '/' :: rest ∧ source = seen.reverse ++ Pattern.unescapeSlashes raw := by
  fun_induction patternChars seen s with
  | case1 => cases read
  | case2 =>
    cases read
    exact ⟨[], rfl, (List.append_nil _).symm⟩
  | case3 => cases read
  | case4 =>
    cases read
    exact ⟨[], rfl, (List.append_nil _).symm⟩
  | case5 seen s _ ih =>
    obtain ⟨raw, rfl, rfl⟩ := ih read
    exact ⟨'\\' :: '/' :: raw, rfl, by simp [Pattern.unescapeSlashes]⟩
  | case6 seen e s slash _ ih =>
    obtain ⟨raw, rfl, rfl⟩ := ih read
    exact ⟨'\\' :: e :: raw, rfl, by simp [Pattern.unescapeSlashes, slash]⟩
  | case7 seen c e s _ single ih =>
    obtain ⟨raw, same, rfl⟩ := ih read
    exact ⟨c :: raw, by rw [same]; rfl, by simp [Pattern.unescapeSlashes_single single]⟩

/-- The letters behind the closing slash hold no slash, so it is the last one. -/
theorem slash_not_mem_letters (s : List Char) : '/' ∉ s.takeWhile Unicode.isAlphabetic := by
  intro mem
  have letter : Unicode.isAlphabetic '/' = true := List.mem_takeWhile_imp mem
  rw [Unicode.isAlphabetic_of_ascii (by decide)] at letter
  cases letter

theorem ofText_of_readPattern {t rest : List Char} {p : Pattern}
    (read : found (readPattern (t ++ rest)) = .ok (p, rest)) :
    (Pattern.ofText? (String.ofList ('/' :: t))).map Pattern.unescaped = some p := by
  rw [found_readPattern] at read
  split at read
  · cases read
  · rename_i source left body
    obtain ⟨raw, text, rfl⟩ := patternChars_eq_some body
    obtain ⟨pattern, behind⟩ := Prod.mk.inj (Except.ok.inj read)
    have taken : t = raw ++ '/' :: left.takeWhile Unicode.isAlphabetic := by
      refine List.append_cancel_right (text.trans ?_)
      rw [← behind, List.append_assoc, List.cons_append, List.takeWhile_append_dropWhile]
    rw [taken, Pattern.ofText_slashed raw (slash_not_mem_letters left), ← pattern]
    simp [Pattern.unescaped]

end Lexeme

namespace Path

theorem pattern_wellFormed {text : String} {path : Path} (accepted : parse text = .ok path) {p : Pattern}
    (occurs : path.Occurs (.term (.pattern p))) : p.isWellFormed = true := by
  obtain ⟨s, mem, within⟩ := occurs
  have fit := (stepsWellFormed_iff_fit.mp (wellFormed_of_parse accepted)).2 s mem
  simpa [Piece.Fit, Term.isWellFormed] using within.fit fit

end Path

namespace Pattern

/-- A pattern that is read in a path is what its text means in a string, once the slashes are unescaped;
and so is a pattern of a path together with its canonical text. -/
theorem ofText_agrees :
    (∀ t rest p, found (Lexeme.readPattern (t ++ rest)) = .ok (p, rest) →
      (ofText? (String.ofList ('/' :: t))).map unescaped = some p) ∧
    ∀ text path p, Path.parse text = .ok path → path.Occurs (.term (.pattern p)) →
      (ofText? p.text).map unescaped = some p := by
  refine ⟨fun t rest p read => Lexeme.ofText_of_readPattern read, ?_⟩
  intro text path p accepted occurs
  have reread := Lexeme.found_readPattern_stop (Path.pattern_wellFormed accepted occurs)
    (stopsAt_nil Unicode.isAlphabetic)
  rw [← List.cons_append, ← List.append_assoc] at reread
  rw [Pattern.text, Pattern.chars]
  exact Lexeme.ofText_of_readPattern reread

/-- An escaped slash, a pair of backslashes in front of the closing slash, and letters that are no flags. -/
def slashes : List Char := "a\\/b\\\\/xgi".toList

def slashesPath : Path := ⟨[.query (.compare .matching (.path []) (some (.pattern ⟨"/\\\\", "sm"⟩)))]⟩

theorem ofText_agrees_slashes :
    (found (Lexeme.readPattern (slashes ++ [' ', ')'])) = .ok (⟨"a/b\\\\", "xi"⟩, [' ', ')']) ∧
      (ofText? (String.ofList ('/' :: slashes))).map unescaped = some ⟨"a/b\\\\", "xi"⟩) ∧
    Path.parse "$[?(@ =~ /\\/\\\\/sm)]" = .ok slashesPath ∧
      (ofText? (Pattern.text ⟨"/\\\\", "sm"⟩)).map unescaped = some ⟨"/\\\\", "sm"⟩ := by
  have read : found (Lexeme.readPattern (slashes ++ [' ', ')'])) =
      .ok (⟨"a/b\\\\", "xi"⟩, [' ', ')']) := by
    rw [Lexeme.found_readPattern]
    cbv
  have accepted : Path.parse "$[?(@ =~ /\\/\\\\/sm)]" = .ok slashesPath := by cbv
  have occurs : slashesPath.Occurs (.term (.pattern ⟨"/\\\\", "sm"⟩)) := by
    refine ⟨_, List.mem_singleton_self _, .head ?_ (.single (List.mem_singleton_self _))⟩
    exact List.mem_cons_of_mem _ (List.mem_singleton_self _)
  exact ⟨⟨read, ofText_agrees.1 _ _ _ read⟩, accepted, ofText_agrees.2 _ _ _ accepted occurs⟩

end Pattern
end PathQuery
