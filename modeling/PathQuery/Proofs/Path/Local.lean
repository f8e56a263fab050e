import PathQuery.Proofs.Path.Positions

/-! Readers of paths look at what they take and at one character behind it. So what they find stays the same
in front of any text with the same first character; a bracket or a quote takes its own end with it, and what
it holds stays the same in front of any text at all. -/
namespace PathQuery

/-- From `s`, the reading takes all but `rest`, and does the same in front of every text that begins as
`rest` does. -/
def Local (reads : List Char → List Char → Prop) (s rest : List Char) : Prop :=
  ∃ x, s = x ++ rest ∧ ∀ rest', rest'.head? = rest.head? → reads (x ++ rest') rest'

/-- From `s`, the reading takes all up to a character and that character, and does the same in front of every
text. -/
def Enclosed (close : Char) (reads : List Char → List Char → Prop) (s rest : List Char) : Prop :=
  ∃ x, s = x ++ close :: rest ∧ ∀ rest', reads (x ++ close :: rest') rest'

theorem head_append {x rest rest' : List Char} (head : rest'.head? = rest.head?) :
    (x ++ rest').head? = (x ++ rest).head? := by
  rw [List.head?_append, List.head?_append, head]

theorem exists_of_head {s t : List Char} {c : Char} (head : s.head? = (c :: t).head?) :
    ∃ t', s = c :: t' :=
  ⟨s.tail, (List.cons_head?_tail head).symm⟩

theorem nil_of_head {s : List Char} (head : s.head? = ([] : List Char).head?) : s = [] :=
  List.head?_eq_none_iff.mp head

theorem StopsAt.congr {p : Char → Bool} {s s' : List Char} (stop : StopsAt p s)
    (head : s'.head? = s.head?) : StopsAt p s' := by
  intro c mem
  exact stop c (head ▸ mem)

namespace Local

variable {reads first second : List Char → List Char → Prop} {s middle rest : List Char}

/-- Nothing is taken. -/
theorem here (same : ∀ rest', rest'.head? = rest.head? → reads rest' rest') : Local reads rest rest :=
  ⟨[], rfl, same⟩

theorem imp (taken : Local first s rest)
    (same : ∀ s' rest', s'.head? = s.head? → rest'.head? = rest.head? → first s' rest' →
      reads s' rest') : Local reads s rest := by
  obtain ⟨x, rfl, keeps⟩ := taken
  exact ⟨x, rfl, fun rest' head => same _ _ (head_append head) head (keeps rest' head)⟩

/-- Two readings, the second from where the first one ends. -/
theorem comp (one : Local first s middle) (two : Local second middle rest) :
    Local (Relation.Comp first second) s rest := by
  obtain ⟨x, rfl, before⟩ := one
  obtain ⟨y, rfl, behind⟩ := two
  refine ⟨x ++ y, (List.append_assoc x y rest).symm, fun rest' head => ?_⟩
  rw [List.append_assoc]
  exact ⟨y ++ rest', before _ (head_append head), behind rest' head⟩

end Local

namespace Enclosed

variable {reads first : List Char → List Char → Prop} {close : Char} {s rest : List Char}

/-- The character itself. -/
theorem char (c : Char) (s : List Char) : Enclosed c (fun s rest => s = c :: rest) (c :: s) s :=
  ⟨[], rfl, fun _ => rfl⟩

theorem imp (taken : Enclosed close first s rest)
    (same : ∀ s' rest', s'.head? = s.head? → first s' rest' → reads s' rest') :
    Enclosed close reads s rest := by
  obtain ⟨x, rfl, keeps⟩ := taken
  exact ⟨x, rfl, fun rest' => same _ _ (head_append rfl) (keeps rest')⟩

theorem toLocal (taken : Enclosed close reads s rest) : Local reads s rest := by
  obtain ⟨x, rfl, keeps⟩ := taken
  refine ⟨x ++ [close], by simp, fun rest' _ => ?_⟩
  rw [List.append_assoc]
  exact keeps rest'

end Enclosed

/-- A reading, and from where it ends one that takes its own end. -/
theorem Local.enclosed {first second : List Char → List Char → Prop} {close : Char}
    {s middle rest : List Char} (one : Local first s middle) (two : Enclosed close second middle rest) :
    Enclosed close (Relation.Comp first second) s rest := by
  obtain ⟨x, rfl, before⟩ := one
  obtain ⟨y, rfl, behind⟩ := two
  refine ⟨x ++ y, (List.append_assoc x y (close :: rest)).symm, fun rest' => ?_⟩
  rw [List.append_assoc]
  exact ⟨y ++ close :: rest', before _ (head_append rfl), behind rest'⟩

theorem span_local (p : Char → Bool) (s : List Char) :
    Local (fun s' rest => s'.takeWhile p = s.takeWhile p ∧ s'.dropWhile p = rest) s (s.dropWhile p) := by
  obtain ⟨a, b, rfl, all, stop⟩ := exists_span p s
  rw [takeWhile_span all stop, dropWhile_span all stop]
  refine ⟨a, rfl, fun b' head => ?_⟩
  have stop' := stop.congr head
  exact ⟨takeWhile_span all stop', dropWhile_span all stop'⟩

namespace Lexeme

theorem skipSpaces_local (s : List Char) :
    Local (fun s rest => skipSpaces s = rest) s (skipSpaces s) :=
  (span_local _ s).imp fun _ _ _ _ span => span.2

/-- Spaces, and the character behind them. -/
theorem skipSpaces_enclosed {s rest : List Char} {c : Char} (behind : skipSpaces s = c :: rest) :
    Enclosed c (fun s rest => skipSpaces s = c :: rest) s rest :=
  (Local.enclosed (behind ▸ skipSpaces_local s) (Enclosed.char c rest)).imp
    fun _ _ _ ⟨_, skip, char⟩ => skip.trans char

theorem spaced_enclosed {reads : List Char → List Char → Prop} {close : Char} {s rest : List Char}
    (taken : Enclosed close reads (skipSpaces s) rest) :
    Enclosed close (fun s rest => reads (skipSpaces s) rest) s rest :=
  ((skipSpaces_local s).enclosed taken).imp fun _ _ _ ⟨_, skip, read⟩ => skip.symm ▸ read

theorem quotedChars_close (quote : Char) (seen rest : List Char) :
    quotedChars quote seen (quote :: rest) = .ok (seen.reverse, rest) := by
  cases rest <;> simp [quotedChars]

theorem quotedChars_enclosed {quote : Char} {seen s cs rest : List Char}
    (read : quotedChars quote seen s = .ok (cs, rest)) :
    Enclosed quote (fun s rest => quotedChars quote seen s = .ok (cs, rest)) s rest := by
  fun_induction quotedChars quote seen s with
  | case1 => cases read
  | case2 seen =>
    cases read
    exact ⟨[], rfl, quotedChars_close quote seen⟩
  | case3 => cases read
  | case4 seen =>
    cases read
    exact ⟨[], rfl, quotedChars_close quote seen⟩
  | case5 seen e left x letter inside ih =>
    obtain ⟨taken, rfl, keeps⟩ := ih read
    refine ⟨'\\' :: e :: taken, rfl, fun rest' => ?_⟩
    change quotedChars quote seen ('\\' :: e :: (taken ++ quote :: rest')) = _
    rw [quotedChars, if_neg inside, if_pos rfl]
    simp only [letter]
    exact keeps rest'
  | case6 => cases read
  | case7 seen c e left inside single ih =>
    obtain ⟨taken, text, keeps⟩ := ih read
    refine ⟨c :: taken, congrArg (c :: ·) text, fun rest' => ?_⟩
    obtain ⟨d, next, front⟩ : ∃ d next, taken ++ quote :: rest' = d :: next :=
      List.exists_cons_of_ne_nil (by simp)
    rw [List.cons_append, front, quotedChars, if_neg inside, if_neg single, ← front]
    exact keeps rest'

theorem readQuoted_enclosed {quote : Char} {s rest : List Char} {text : String}
    (read : found (readQuoted quote s) = .ok (text, rest)) :
    Enclosed quote (fun s rest => found (readQuoted quote s) = .ok (text, rest)) s rest := by
  rw [found_readQuoted] at read
  obtain ⟨⟨cs, left⟩, chars, same⟩ := map_eq_ok read
  cases same
  apply (quotedChars_enclosed chars).imp
  intro s' rest' _ chars'
  rw [found_readQuoted, chars']
  rfl

theorem patternChars_close (seen rest : List Char) :
    patternChars seen ('/' :: rest) = some (seen.reverse, rest) := by
  cases rest <;> simp [patternChars]

theorem patternChars_enclosed {seen s source rest : List Char}
    (read : patternChars seen s = some (source, rest)) :
    Enclosed '/' (fun s rest => patternChars seen s = some (source, rest)) s rest := by
  fun_induction patternChars seen s with
  | case1 => cases read
  | case2 seen =>
    cases read
    exact ⟨[], rfl, patternChars_close seen⟩
  | case3 => cases read
  | case4 seen =>
    cases read
    exact ⟨[], rfl, patternChars_close seen⟩
  | case5 seen left inside ih =>
    obtain ⟨taken, rfl, keeps⟩ := ih read
    refine ⟨'\\' :: '/' :: taken, rfl, fun rest' => ?_⟩
    change patternChars seen ('\\' :: '/' :: (taken ++ '/' :: rest')) = _
    rw [patternChars, if_neg inside, if_pos rfl, if_pos rfl]
    exact keeps rest'
  | case6 seen e left slash inside ih =>
    obtain ⟨taken, rfl, keeps⟩ := ih read
    refine ⟨'\\' :: e :: taken, rfl, fun rest' => ?_⟩
    change patternChars seen ('\\' :: e :: (taken ++ '/' :: rest')) = _
    rw [patternChars, if_neg inside, if_pos rfl, if_neg slash]
    exact keeps rest'
  | case7 seen c e left inside single ih =>
    obtain ⟨taken, text, keeps⟩ := ih read
    refine ⟨c :: taken, congrArg (c :: ·) text, fun rest' => ?_⟩
    obtain ⟨d, next, front⟩ : ∃ d next, taken ++ '/' :: rest' = d :: next :=
      List.exists_cons_of_ne_nil (by simp)
    rw [List.cons_append, front, patternChars, if_neg inside, if_neg single, ← front]
    exact keeps rest'

theorem readPattern_local {s rest : List Char} {p : Pattern}
    (read : found (readPattern s) = .ok (p, rest)) :
    Local (fun s rest => found (readPattern s) = .ok (p, rest)) s rest := by
  rw [found_readPattern] at read
  split at read
  · cases read
  rename_i source left chars
  cases read
  apply ((patternChars_enclosed chars).toLocal.comp (span_local _ left)).imp
  rintro s' rest' _ _ ⟨left', chars', letters⟩
  simp only [found_readPattern, chars', letters]

theorem takeDigits_local (s : List Char) :
    Local (fun s' rest => takeDigits s' = ((takeDigits s).1, rest)) s (takeDigits s).2 :=
  (span_local Numeral.isDigit s).imp fun _ _ _ _ span => Prod.ext span.1 span.2

theorem takeSign_local (s : List Char) :
    Local (fun s' rest => takeSign s' = ((takeSign s).1, rest)) s (takeSign s).2 := by
  cases s with
  | nil => exact .here fun rest' head => by rw [nil_of_head head]; rfl
  | cons c s =>
    by_cases minus : c = '-'
    · subst minus
      exact (Enclosed.char '-' s).toLocal.imp fun _ _ _ _ char => by rw [char]; rfl
    by_cases plus : c = '+'
    · subst plus
      exact (Enclosed.char '+' s).toLocal.imp fun _ _ _ _ char => by rw [char]; rfl
    · simp only [takeSign, if_neg minus, if_neg plus]
      refine .here fun rest' head => ?_
      obtain ⟨t, rfl⟩ := exists_of_head head
      simp only [if_neg minus, if_neg plus]

theorem takeMantissa_local {s whole rest : List Char} {fraction : Option (List Char)}
    (read : takeMantissa? s = some (whole, fraction, rest)) :
    Local (fun s rest => takeMantissa? s = some (whole, fraction, rest)) s rest := by
  have digits := takeDigits_local s
  unfold takeMantissa? at read
  simp only at read
  split at read
  · rename_i left point
    split at read
    · cases read
    rename_i digit
    cases read
    rw [point] at digits
    apply (digits.comp ((Enclosed.char '.' left).toLocal.comp (takeDigits_local left))).imp
    rintro s' rest' _ _ ⟨_, front, left', rfl, back⟩
    simp only [takeMantissa?, front, back]
    rw [if_neg digit]
  · rename_i single
    split at read
    · cases read
    rename_i digit
    cases read
    apply digits.imp
    intro s' rest' _ head front
    simp only [takeMantissa?, front]
    split
    · obtain ⟨t, same⟩ := exists_of_head head.symm
      exact absurd same (single t)
    · rw [if_neg digit]

theorem takeExponent_local {s rest : List Char} {exponent : Option Int}
    (read : takeExponent? s = some (exponent, rest)) :
    Local (fun s rest => takeExponent? s = some (exponent, rest)) s rest := by
  unfold takeExponent? at read
  split at read
  · cases read
    exact .here fun rest' head => by rw [nil_of_head head]; rfl
  rename_i c left
  split at read
  · rename_i mark
    simp only at read
    split at read
    · cases read
    rename_i digit
    cases read
    have power := (takeSign_local left).comp (takeDigits_local (takeSign left).2)
    apply ((Enclosed.char c left).toLocal.comp power).imp
    rintro s' rest' _ _ ⟨left', rfl, signed, sign, digits⟩
    simp only [takeExponent?, if_pos mark, sign, digits]
    rw [if_neg digit]
  · rename_i mark
    cases read
    refine .here fun rest' head => ?_
    obtain ⟨t, rfl⟩ := exists_of_head head
    simp only [takeExponent?, if_neg mark]

theorem takeNumber_local {s rest : List Char} {w : WrittenNumber}
    (read : takeNumber? s = some (w, rest)) :
    Local (fun s rest => takeNumber? s = some (w, rest)) s rest := by
  unfold takeNumber? at read
  simp only at read
  split at read
  · cases read
  rename_i whole fraction middle mantissa
  split at read
  · cases read
  rename_i exponent left power
  cases read
  have unsigned := (takeMantissa_local mantissa).comp (takeExponent_local power)
  apply ((takeSign_local s).comp unsigned).imp
  rintro s' rest' _ _ ⟨signed, sign, middle', mantissa', power'⟩
  simp only [takeNumber?, sign, mantissa', power']

theorem readNumber_local {s rest : List Char} {value : Scalar}
    (read : found (readNumber s) = .ok (value, rest)) :
    Local (fun s rest => found (readNumber s) = .ok (value, rest)) s rest := by
  rw [found_readNumber] at read
  split at read
  · cases read
  rename_i w left number
  cases read
  apply (takeNumber_local number).imp
  intro s' rest' _ _ number'
  simp only [found_readNumber, number']

/-- A word that is two characters longer than another one is not in a place where that one is its
beginning. -/
theorem afterWord_none {word longer rest rest' : List Char} (head : rest'.head? = rest.head?)
    (short : ∀ d e t, longer ≠ word ++ d :: e :: t) (none : afterWord? longer (word ++ rest) = none) :
    afterWord? longer (word ++ rest') = .none := by
  induction word generalizing longer with
  | nil =>
    match longer with
    | [] => cases none
    | [d] =>
      cases rest with
      | nil => rw [nil_of_head head]; rfl
      | cons c rest =>
        obtain ⟨t, rfl⟩ := exists_of_head head
        by_cases same : d = c
        · subst same
          simp [afterWord?] at none
        · simp [afterWord?, same]
    | d :: e :: t => exact absurd rfl (short d e t)
  | cons c word ih =>
    cases longer with
    | nil => cases none
    | cons d longer =>
      by_cases same : d = c
      · subst same
        simp only [List.cons_append, afterWord?, if_true] at none ⊢
        exact ih (fun d' e t other => short d' e t (congrArg (d :: ·) other)) none
      · simp [afterWord?, same]

theorem afterWord_self (word rest : List Char) : afterWord? word (word ++ rest) = some rest := by
  induction word with
  | nil => rfl
  | cons c word ih => simpa [afterWord?] using ih

theorem afterWord_eq {word s rest : List Char} (h : afterWord? word s = some rest) :
    s = word ++ rest := by
  fun_induction afterWord? word s with
  | case1 => cases h; rfl
  | case2 => cases h
  | case3 w word s ih => rw [ih h, List.cons_append]
  | case4 => cases h

/-- Words none of which is two characters longer than a later one that it begins with. -/
def Separated {α : Type} (words : List (List Char × α)) : Prop :=
  words.Pairwise fun longer word => ¬ (word.1 <+: longer.1 ∧ word.1.length + 2 ≤ longer.1.length)

instance {α : Type} (words : List (List Char × α)) : Decidable (Separated words) :=
  inferInstanceAs (Decidable (List.Pairwise _ _))

theorem readWord_separated {α : Type} {words : List (List Char × α)} (separated : Separated words)
    {s : List Char} {t : Taken s α} (read : readWord? s words = some t) :
    ∃ word, (word, t.value) ∈ words ∧ word ≠ [] ∧ s = word ++ t.rest ∧
      ∀ rest', rest'.head? = t.rest.head? →
        (readWord? (word ++ rest') words).map (fun t => (t.value, t.rest)) = some (t.value, rest') := by
  induction words with
  | nil => cases read
  | cons entry words ih =>
    obtain ⟨first, value⟩ := entry
    obtain ⟨shorter, separated⟩ := List.pairwise_cons.mp separated
    rw [readWord?] at read
    split at read
    · rename_i left after
      split at read
      · rename_i nonempty
        cases read
        refine ⟨first, List.mem_cons_self, List.length_pos_iff.mp nonempty, afterWord_eq after,
          fun rest' _ => ?_⟩
        rw [readWord?]
        split
        · rename_i other
          rw [afterWord_self] at other
          cases other
          simp [nonempty]
        · rename_i other
          rw [afterWord_self] at other
          cases other
      · cases read
    · rename_i none
      obtain ⟨word, mem, nonempty, text, keeps⟩ := ih separated read
      refine ⟨word, List.mem_cons_of_mem _ mem, nonempty, text, fun rest' head => ?_⟩
      -- the first word must not come to stand in front of the other rest either
      have none' : afterWord? first (word ++ rest') = .none := by
        refine afterWord_none head ?_ (text ▸ none)
        rintro d e l rfl
        exact shorter _ mem ⟨List.prefix_append word (d :: e :: l), by simp⟩
      rw [readWord?]
      split
      · rename_i other
        rw [none'] at other
        cases other
      · exact keeps rest' head

theorem readWord_local {α : Type} {words : List (List Char × α)} (separated : Separated words)
    {s : List Char} {t : Taken s α} (read : readWord? s words = some t) :
    Local (fun s rest => (readWord? s words).map (fun t => (t.value, t.rest)) = some (t.value, rest)) s
      t.rest := by
  obtain ⟨word, _, _, text, keeps⟩ := readWord_separated separated read
  exact ⟨word, text, keeps⟩

theorem found_readRelation_two {s : List Char} (two : 2 ≤ s.length) :
    found (readRelation s) =
      match (readWord? s relations).map (fun t => (t.value, t.rest)) with
      | some r => .ok r
      | none => .error ⟨.unreadableRelation, s⟩ := by
  match s with
  | [] | [_] => simp at two
  | a :: b :: s =>
    rw [found_readRelation]
    dsimp only
    cases readWord? (a :: b :: s) relations <;> rfl

/-- How a text goes on does not make it shorter than two characters. -/
theorem two_le_append {word rest rest' : List Char} (nonempty : word ≠ [])
    (head : rest'.head? = rest.head?) (two : 2 ≤ (word ++ rest).length) :
    2 ≤ (word ++ rest').length := by
  cases rest with
  | nil => rwa [nil_of_head head]
  | cons c rest =>
    obtain ⟨t, rfl⟩ := exists_of_head head
    have := List.length_pos_iff.mpr nonempty
    simp only [List.length_append, List.length_cons]
    omega

theorem readRelation_local {s rest : List Char} {relation : Relation}
    (read : found (readRelation s) = .ok (relation, rest)) :
    Local (fun s rest => found (readRelation s) = .ok (relation, rest)) s rest := by
  have two : 2 ≤ s.length := by
    match s with
    | [] | [_] => cases read
    | a :: b :: s => simp
  rw [found_readRelation_two two] at read
  cases first : readWord? s relations with
  | none =>
    rw [first] at read
    cases read
  | some t =>
    rw [first] at read
    cases read
    obtain ⟨word, _, nonempty, text, keeps⟩ := readWord_separated (by decide) first
    refine ⟨word, text, fun rest' head => ?_⟩
    change found (readRelation (word ++ rest')) = _
    rw [found_readRelation_two (two_le_append nonempty head (text ▸ two)), keeps rest' head]

end Lexeme

namespace Indexer

open Lexeme

variable {close : Char} {s rest : List Char}

theorem readSegment_enclosed {segment : Segment} (read : found (readSegment s) = .ok (segment, rest)) :
    Enclosed segment.next (fun s rest => found (readSegment s) = .ok (segment, rest)) s rest := by
  rw [found_readSegment] at read
  split at read
  · cases read
  rename_i c left behind
  cases read
  apply ((span_local isIndexChar s).enclosed (skipSpaces_enclosed behind)).imp
  rintro s' rest' _ ⟨middle, span, next⟩
  rw [found_readSegment, span.1, span.2, next]

theorem segmentIndex_anywhere {segment before behind : List Char} {i : Int32}
    (read : segmentIndex segment before = .ok i) : segmentIndex segment behind = .ok i :=
  segmentIndex_eq_ok.mpr (segmentIndex_eq_ok.mp read)

theorem segmentBound_anywhere {segment before behind : List Char} {bound : Option Int32}
    (read : segmentBound segment before = .ok bound) : segmentBound segment behind = .ok bound :=
  segmentBound_eq_ok.mpr (segmentBound_eq_ok.mp read)

theorem readClose_enclosed (read : found (readClose close s) = .ok ((), rest)) :
    Enclosed close (fun s rest => found (readClose close s) = .ok ((), rest)) s rest := by
  rw [found_readClose] at read
  split at read
  · cases read
  rename_i c left behind
  split at read
  · rename_i closes
    subst closes
    cases read
    apply (skipSpaces_enclosed behind).imp
    intro s' rest' _ behind'
    rw [found_readClose, behind']
    simp
  · cases read

theorem readIndexes_enclosed {s rest : List Char} {indexes : List Int32}
    (read : found (readIndexes close s) = .ok (indexes, rest)) :
    Enclosed close (fun s rest => found (readIndexes close s) = .ok (indexes, rest)) s rest := by
  rw [found_readIndexes] at read
  obtain ⟨⟨⟨index, c⟩, left⟩, segment, tail⟩ := bind_eq_ok read
  have taken := readSegment_enclosed segment
  have shorter := found_shorter segment
  have le := length_skipSpaces_le left
  dsimp only at tail taken
  split at tail
  · rename_i closes
    subst closes
    obtain ⟨i, written, same⟩ := map_eq_ok tail
    cases same
    apply taken.imp
    intro s' rest' _ segment'
    rw [found_readIndexes, segment']
    simp only [Except.bind, if_true, segmentIndex_anywhere written]
    rfl
  split at tail
  · rename_i other comma
    subst comma
    obtain ⟨i, written, tail⟩ := bind_eq_ok tail
    obtain ⟨⟨more, behind⟩, onward, same⟩ := map_eq_ok tail
    cases same
    apply (taken.toLocal.enclosed (spaced_enclosed (readIndexes_enclosed onward))).imp
    rintro s' rest' _ ⟨left', segment', onward'⟩
    rw [found_readIndexes, segment']
    simp only [Except.bind, if_neg other, if_true, segmentIndex_anywhere written, onward']
    rfl
  · cases tail
termination_by s.length
decreasing_by omega

theorem readStride_enclosed {stride : Option Int32}
    (read : found (readStride close s) = .ok (stride, rest)) :
    Enclosed close (fun s rest => found (readStride close s) = .ok (stride, rest)) s rest := by
  rw [found_readStride] at read
  obtain ⟨⟨⟨index, c⟩, left⟩, segment, tail⟩ := bind_eq_ok read
  have taken := readSegment_enclosed segment
  dsimp only at tail taken
  split at tail
  · rename_i closes
    subst closes
    obtain ⟨bound, written, same⟩ := map_eq_ok tail
    cases same
    apply taken.imp
    intro s' rest' _ segment'
    rw [found_readStride, segment']
    simp only [Except.bind, if_true, segmentBound_anywhere written]
    rfl
  · cases tail

theorem readStop_enclosed {bounds : Option Int32 × Option Int32}
    (read : found (readStop close s) = .ok (bounds, rest)) :
    Enclosed close (fun s rest => found (readStop close s) = .ok (bounds, rest)) s rest := by
  rw [found_readStop] at read
  obtain ⟨⟨⟨index, c⟩, left⟩, segment, tail⟩ := bind_eq_ok read
  have taken := readSegment_enclosed segment
  dsimp only at tail taken
  split at tail
  · rename_i closes
    subst closes
    obtain ⟨bound, written, same⟩ := map_eq_ok tail
    cases same
    apply taken.imp
    intro s' rest' _ segment'
    rw [found_readStop, segment']
    simp only [Except.bind, if_true, segmentBound_anywhere written]
    rfl
  split at tail
  · rename_i other colon
    subst colon
    obtain ⟨bound, written, tail⟩ := bind_eq_ok tail
    obtain ⟨⟨stride, behind⟩, onward, same⟩ := map_eq_ok tail
    cases same
    apply (taken.toLocal.enclosed (spaced_enclosed (readStride_enclosed onward))).imp
    rintro s' rest' _ ⟨left', segment', onward'⟩
    rw [found_readStop, segment']
    simp only [Except.bind, if_neg other, if_true, segmentBound_anywhere written, onward']
    rfl
  · cases tail

theorem readPositions_enclosed {step : Step}
    (read : found (readPositions close s) = .ok (step, rest)) :
    Enclosed close (fun s rest => found (readPositions close s) = .ok (step, rest)) s rest := by
  rw [found_readPositions] at read
  obtain ⟨⟨⟨index, c⟩, left⟩, segment, tail⟩ := bind_eq_ok read
  have taken := readSegment_enclosed segment
  dsimp only at tail taken
  split at tail
  · rename_i closes
    subst closes
    obtain ⟨i, written, same⟩ := map_eq_ok tail
    cases same
    apply taken.imp
    intro s' rest' _ segment'
    rw [found_readPositions, segment']
    simp only [Except.bind, if_true, segmentIndex_anywhere written]
    rfl
  rename_i notClose
  split at tail
  · rename_i comma
    subst comma
    obtain ⟨i, written, tail⟩ := bind_eq_ok tail
    obtain ⟨⟨more, behind⟩, onward, same⟩ := map_eq_ok tail
    cases same
    apply (taken.toLocal.enclosed (spaced_enclosed (readIndexes_enclosed onward))).imp
    rintro s' rest' _ ⟨left', segment', onward'⟩
    rw [found_readPositions, segment']
    simp only [Except.bind, if_neg notClose, if_true, segmentIndex_anywhere written, onward']
    rfl
  rename_i notComma
  split at tail
  · rename_i colon
    subst colon
    obtain ⟨start, written, tail⟩ := bind_eq_ok tail
    obtain ⟨⟨bounds, behind⟩, onward, same⟩ := map_eq_ok tail
    cases same
    apply (taken.toLocal.enclosed (spaced_enclosed (readStop_enclosed onward))).imp
    rintro s' rest' _ ⟨left', segment', onward'⟩
    rw [found_readPositions, segment']
    simp only [Except.bind, if_neg notClose, if_neg notComma, if_true,
      segmentBound_anywhere written, onward']
    rfl
  rename_i notColon
  split at tail
  · rename_i star
    obtain ⟨⟨⟨⟩, behind⟩, onward, same⟩ := map_eq_ok tail
    cases same
    apply (taken.toLocal.enclosed (readClose_enclosed onward)).imp
    rintro s' rest' _ ⟨left', segment', onward'⟩
    rw [found_readPositions, segment']
    simp only [Except.bind, if_neg notClose, if_neg notComma, if_neg notColon, if_pos star, onward']
    rfl
  · cases tail

theorem readNames_enclosed {s rest : List Char} {names : List String}
    (read : found (readNames close s) = .ok (names, rest)) :
    Enclosed close (fun s rest => found (readNames close s) = .ok (names, rest)) s rest := by
  rw [found_readNames] at read
  obtain ⟨⟨name, left⟩, quoted, tail⟩ := bind_eq_ok read
  have taken := (readQuoted_enclosed quoted).toLocal
  have shorter := found_shorter quoted
  dsimp only at tail
  split at tail
  · cases tail
  rename_i c behind ends
  have le := lt_of_eq_cons (length_skipSpaces_le left) ends
  split at tail
  · rename_i closes
    subst closes
    cases tail
    apply (taken.enclosed (skipSpaces_enclosed ends)).imp
    rintro s' rest' _ ⟨left', quoted', ends'⟩
    rw [found_readNames, quoted']
    simp only [Except.bind, ends', if_true]
  rename_i notClose
  split at tail
  · rename_i comma
    subst comma
    split at tail
    · cases tail
    rename_i d next ends'
    have le' := lt_of_eq_cons (length_skipSpaces_le behind) ends'
    split at tail
    · rename_i quote
      subst quote
      obtain ⟨⟨more, _⟩, onward, same⟩ := map_eq_ok tail
      cases same
      have following := (skipSpaces_enclosed ends').toLocal.enclosed (readNames_enclosed onward)
      apply (taken.enclosed ((skipSpaces_enclosed ends).toLocal.enclosed following)).imp
      rintro s' rest' _ ⟨left', quoted', behind', comma, next', quote, onward'⟩
      rw [found_readNames, quoted']
      simp only [Except.bind, comma, if_neg notClose, if_true, quote, onward']
      rfl
    · cases tail
  · cases tail
termination_by s.length
decreasing_by omega

end Indexer

namespace Reader

open Lexeme Indexer

theorem afterDot_local (s : List Char) :
    Local (fun s' rest => afterDot s' = ((afterDot s).1, rest)) s (afterDot s).2 := by
  cases s with
  | nil => exact .here fun rest' head => by rw [nil_of_head head]; rfl
  | cons c s =>
    by_cases dot : c = '.'
    · subst dot
      exact (Enclosed.char '.' s).toLocal.imp fun _ _ _ _ char => by rw [char]; rfl
    · simp only [afterDot, if_neg dot]
      refine .here fun rest' head => ?_
      obtain ⟨t, rfl⟩ := exists_of_head head
      simp only [if_neg dot]

-- A term, a condition and a bracket end with something that cannot be missing, so inside of them there is
-- always a character behind a piece; only the steps of a path may end with the text.

mutual

theorem readSteps_local {inQuery : Bool} {before : Before} {deep : Bool} {s rest : List Char}
    {steps : List Step} (read : reached (readSteps inQuery before deep s) = .ok (steps, rest)) :
    Local (fun s rest => reached (readSteps inQuery before deep s) = .ok (steps, rest)) s rest := by
  have le := (List.dropWhile_suffix (l := s) (!endsName inQuery ·)).length_le
  have name := span_local (!endsName inQuery ·) s
  rw [reached_readSteps] at read
  dsimp only at read
  split at read
  · cases read
  rename_i front
  split at read
  · rename_i ends
    split at read
    · cases read
    · rename_i dangling
      cases read
      rw [ends] at name
      apply name.imp
      rintro s' rest' _ head ⟨same, ends'⟩
      cases nil_of_head head
      rw [reached_readSteps]
      simp only [same, ends', if_neg front, if_neg dangling]
  rename_i c behind ends
  have inside := lt_of_eq_cons le ends
  rw [ends] at name
  have char := (Enclosed.char c behind).toLocal
  split at read
  · rename_i bracket
    obtain ⟨⟨step, left⟩, indexer, read⟩ := bind_eq_ok read
    obtain ⟨⟨more, _⟩, following, same⟩ := map_eq_ok read
    cases same
    have shorter := found_shorter indexer
    have onward := (readIndexer_enclosed indexer).toLocal.comp (readSteps_local following)
    apply (name.comp (char.comp onward)).imp
    rintro s' rest' _ _ ⟨_, ⟨same, ends'⟩, behind', rfl, left', indexer', following'⟩
    rw [reached_readSteps]
    simp only [same, ends', if_neg front, if_pos bracket, indexer', following', Except.bind]
    rfl
  rename_i notBracket
  split at read
  · rename_i dot
    obtain ⟨⟨more, _⟩, following, same⟩ := map_eq_ok read
    cases same
    have shorter := afterDot_le behind
    have onward := (afterDot_local behind).comp (readSteps_local following)
    apply (name.comp (char.comp onward)).imp
    rintro s' rest' _ _ ⟨_, ⟨same, ends'⟩, behind', rfl, left', second, following'⟩
    rw [reached_readSteps]
    simp only [same, ends', if_neg front, if_neg notBracket, if_pos dot]
    rw [second]
    dsimp only
    rw [following']
    rfl
  rename_i notDot
  split at read
  · cases read
  · rename_i dangling
    cases read
    apply name.imp
    rintro s' rest' _ head ⟨same, ends'⟩
    obtain ⟨t, rfl⟩ := exists_of_head head
    rw [reached_readSteps]
    simp only [same, ends', if_neg front, if_neg notBracket, if_neg notDot, if_neg dangling]
termination_by 2 * s.length
decreasing_by all_goals omega

theorem readIndexer_enclosed {close : Char} {deep : Bool} {s rest : List Char} {step : Step}
    (read : found (readIndexer close deep s) = .ok (step, rest)) :
    Enclosed close (fun s rest => found (readIndexer close deep s) = .ok (step, rest)) s rest := by
  have le := length_skipSpaces_le s
  rw [found_readIndexer] at read
  split at read
  · cases read
  rename_i c behind ends
  have inside := lt_of_eq_cons le ends
  have front := (skipSpaces_enclosed ends).toLocal
  split at read
  · rename_i quote
    obtain ⟨⟨names, _⟩, quoted, same⟩ := map_eq_ok read
    cases same
    apply (front.enclosed (readNames_enclosed quoted)).imp
    rintro s' rest' _ ⟨behind', ends', quoted'⟩
    rw [found_readIndexer]
    simp only [ends', if_pos quote, quoted']
    rfl
  rename_i notQuote
  split at read
  · rename_i mark
    split at read
    · cases read
    rename_i d inner
    split at read
    · rename_i parenthesis
      obtain ⟨⟨condition, left⟩, query, read⟩ := bind_eq_ok read
      obtain ⟨⟨⟨⟩, _⟩, closes, same⟩ := map_eq_ok read
      cases same
      have onward := (readCondition_enclosed query).toLocal.enclosed (readClose_enclosed closes)
      apply (front.enclosed ((Enclosed.char d inner).toLocal.enclosed onward)).imp
      rintro s' rest' _ ⟨_, ends', inner', rfl, left', query', closes'⟩
      rw [found_readIndexer]
      simp only [ends', if_neg notQuote, if_pos mark, if_pos parenthesis, query', closes', Except.bind]
      rfl
    · cases read
  · rename_i notMark
    -- the first character belongs to the statement: another one could begin names or a condition
    have positions : Enclosed close (fun s rest => ∃ t, s = c :: t ∧
        found (readPositions close (c :: t)) = .ok (step, rest)) (c :: behind) rest := by
      apply (readPositions_enclosed read).imp
      intro s' rest' head positions'
      obtain ⟨t, rfl⟩ := exists_of_head head
      exact ⟨t, rfl, positions'⟩
    apply ((ends ▸ skipSpaces_local s : Local _ s (c :: behind)).enclosed positions).imp
    rintro s' rest' _ ⟨_, ends', t, rfl, positions'⟩
    rw [found_readIndexer]
    simp only [ends', if_neg notQuote, if_neg notMark, positions']
termination_by 2 * s.length
decreasing_by (simp only [List.length_cons] at *; omega)

theorem readCondition_enclosed {s rest : List Char} {condition : Condition}
    (read : found (readCondition s) = .ok (condition, rest)) :
    Enclosed ')' (fun s rest => found (readCondition s) = .ok (condition, rest)) s rest := by
  rw [found_readCondition] at read
  obtain ⟨⟨first, behind⟩, comparison, read⟩ := bind_eq_ok read
  obtain ⟨⟨left, afterLeft⟩, readLeft, readFirst⟩ := bind_eq_ok comparison
  have shorter := found_shorter readLeft
  have le := reached_le readFirst
  have front : Local (fun s rest => comparisonAt s = .ok (first, rest)) s behind := by
    apply ((readTerm_local readLeft).comp (readComparison_local readFirst)).imp
    rintro s' rest' _ _ ⟨afterLeft', readLeft', readFirst'⟩
    rw [comparisonAt, readLeft']
    exact readFirst'
  dsimp only at read
  split at read
  · cases read
  rename_i c inner
  split at read
  · rename_i closes
    subst closes
    cases read
    apply (front.enclosed (Enclosed.char ')' rest)).imp
    rintro s' rest' _ ⟨_, comparison', rfl⟩
    rw [found_readCondition, comparison']
    rfl
  rename_i notClose
  split at read
  · cases read
  rename_i d next
  split at read
  · cases read
  · rename_i connective joined
    obtain ⟨⟨others, _⟩, following, same⟩ := map_eq_ok read
    cases same
    have onward := (Enclosed.char d next).toLocal.enclosed (readCondition_enclosed following)
    apply (front.enclosed ((Enclosed.char c (d :: next)).toLocal.enclosed onward)).imp
    rintro s' rest' _ ⟨_, comparison', _, rfl, next', rfl, following'⟩
    rw [found_readCondition, comparison']
    simp only [Except.bind, if_neg notClose, joined, following']
    rfl
termination_by 2 * s.length + 1
decreasing_by all_goals (simp only [List.length_cons] at *; omega)

theorem readComparison_local {left : Term} {s rest : List Char} {condition : Condition}
    (read : reached (readComparison left s) = .ok (condition, rest)) :
    Local (fun s rest => reached (readComparison left s) = .ok (condition, rest)) s rest := by
  cases text : s with
  | nil =>
    rw [text, reached_readComparison] at read
    cases read
  | cons c behind =>
  rw [text, reached_readComparison] at read
  dsimp only at read
  split at read
  · rename_i alone
    cases read
    refine .here fun rest' head => ?_
    obtain ⟨t, rfl⟩ := exists_of_head head
    rw [reached_readComparison]
    simp only [if_pos alone]
  · rename_i notAlone
    obtain ⟨⟨relation, afterRelation⟩, readRelation, read⟩ := bind_eq_ok read
    obtain ⟨⟨right, _⟩, readRight, same⟩ := map_eq_ok read
    cases same
    have shorter : afterRelation.length < s.length := text ▸ found_shorter readRelation
    apply ((readRelation_local readRelation).comp (readTerm_local readRight)).imp
    rintro s' rest' head _ ⟨afterRelation', readRelation', readRight'⟩
    obtain ⟨t, rfl⟩ := exists_of_head head
    rw [reached_readComparison]
    simp only [if_neg notAlone, readRelation', readRight', Except.bind]
    rfl
termination_by 2 * s.length
decreasing_by all_goals omega

theorem termAt_local {c : Char} {s rest : List Char} {term : Term}
    (read : termAt c s = .ok (term, rest)) :
    Local (fun s rest => ∃ t, s = c :: t ∧ termAt c t = .ok (term, rest)) (c :: s) rest := by
  have front := (Enclosed.char c s).toLocal
  unfold termAt at read ⊢
  split at read
  · rename_i path
    obtain ⟨⟨steps, _⟩, inner, same⟩ := map_eq_ok read
    cases same
    apply (front.comp (readSteps_local inner)).imp
    rintro s' rest' _ _ ⟨t, rfl, inner'⟩
    refine ⟨t, rfl, ?_⟩
    rw [if_pos path, inner']
    rfl
  rename_i notPath
  split at read
  · rename_i quote
    obtain ⟨⟨text, _⟩, inner, same⟩ := map_eq_ok read
    cases same
    apply (front.comp (readQuoted_enclosed inner).toLocal).imp
    rintro s' rest' _ _ ⟨t, rfl, inner'⟩
    refine ⟨t, rfl, ?_⟩
    rw [if_neg notPath, if_pos quote, inner']
    rfl
  rename_i notQuote
  split at read
  · rename_i slash
    obtain ⟨⟨pattern, _⟩, inner, same⟩ := map_eq_ok read
    cases same
    apply (front.comp (readPattern_local inner)).imp
    rintro s' rest' _ _ ⟨t, rfl, inner'⟩
    refine ⟨t, rfl, ?_⟩
    rw [if_neg notPath, if_neg notQuote, if_pos slash, inner']
    rfl
  rename_i notSlash
  split at read
  · rename_i number
    obtain ⟨⟨value, _⟩, inner, same⟩ := map_eq_ok read
    cases same
    apply (readNumber_local inner).imp
    intro s' rest' head _ inner'
    obtain ⟨t, rfl⟩ := exists_of_head head
    refine ⟨t, rfl, ?_⟩
    rw [if_neg notPath, if_neg notQuote, if_neg notSlash, if_pos number, inner']
    rfl
  rename_i notNumber
  split at read
  · rename_i word constant
    cases read
    apply (readWord_local (by decide) constant).imp
    intro s' rest' head _ constant'
    obtain ⟨t, rfl⟩ := exists_of_head head
    refine ⟨t, rfl, ?_⟩
    rw [if_neg notPath, if_neg notQuote, if_neg notSlash, if_neg notNumber]
    obtain ⟨word', constant', same⟩ := Option.map_eq_some_iff.mp constant'
    rw [constant']
    exact congrArg (fun r => Except.ok (Term.literal r.1, r.2)) same
  · cases read
termination_by 2 * s.length + 1

theorem readTerm_local {s rest : List Char} {term : Term}
    (read : found (readTerm s) = .ok (term, rest)) :
    Local (fun s rest => found (readTerm s) = .ok (term, rest)) s rest := by
  have le := length_skipSpaces_le s
  have front := skipSpaces_local s
  rw [found_readTerm] at read
  split at read
  · cases read
  rename_i c behind ends
  have inside := lt_of_eq_cons le ends
  obtain ⟨⟨value, left⟩, inner, read⟩ := bind_eq_ok read
  dsimp only at read
  split at read
  · cases read
  rename_i d after ends'
  cases read
  rw [ends] at front
  apply (front.comp ((termAt_local inner).comp (ends' ▸ skipSpaces_local left))).imp
  rintro s' rest' _ head ⟨_, front', left', ⟨t, rfl, inner'⟩, trailing⟩
  obtain ⟨after', rfl⟩ := exists_of_head head
  rw [found_readTerm]
  simp only [front', inner', trailing, Except.bind]
termination_by 2 * s.length
decreasing_by omega

end

end Reader
end PathQuery
