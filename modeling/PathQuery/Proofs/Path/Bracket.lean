import PathQuery.Proofs.Path.Lexeme

/-! What stands in brackets reads back, conditions apart: quoted names, positions and slices. The texts
start behind the opening bracket and are followed by anything. -/
namespace PathQuery.Indexer

open Lexeme Numeral

theorem isIndexChar_of_digit {c : Char} (h : isDigit c = true) : isIndexChar c = true := by
  simp [isIndexChar, h]

theorem indexChars_eq (i : Int32) :
    indexChars i = Layout.signed (decide (i.toInt < 0)) (digits i.toInt.natAbs) := by
  by_cases h : i.toInt < 0 <;> simp [indexChars, intText, Numeral.text, Layout.signed, h]

theorem isIndexChar_of_mem_indexChars {i : Int32} {c : Char} (h : c ∈ indexChars i) :
    isIndexChar c = true := by
  have all : ∀ d ∈ digits i.toInt.natAbs, isIndexChar d = true :=
    fun d hd => isIndexChar_of_digit (isDigit_of_mem_digits hd)
  rw [indexChars_eq, Layout.signed] at h
  split at h
  · rcases List.mem_cons.mp h with rfl | h
    · rfl
    · exact all c h
  · exact all c h

theorem isIndexChar_of_mem_boundChars {b : Option Int32} {c : Char} (h : c ∈ boundChars b) :
    isIndexChar c = true := by
  cases b with
  | none => cases h
  | some i => exact isIndexChar_of_mem_indexChars h

theorem indexChars_ne_nil (i : Int32) : indexChars i ≠ [] := by
  rw [indexChars_eq, Layout.signed]
  split
  · exact List.cons_ne_nil _ _
  · exact digits_ne_nil _

theorem index_indexChars (i : Int32) : index? (indexChars i) = some i := by
  have all : (digits i.toInt.natAbs).all isDigit = true :=
    List.all_eq_true.mpr fun _ h => isDigit_of_mem_digits h
  have fits : int32? i.toInt = some i := by
    have low := i.le_toInt
    have high := i.toInt_lt
    rw [int32?, if_pos ⟨low, high⟩, Int32.ofInt_toInt]
  rw [indexChars_eq]
  by_cases negative : i.toInt < 0
  · have value : -((i.toInt.natAbs : Nat) : Int) = i.toInt := by omega
    rw [decide_eq_true negative, Layout.signed, if_pos rfl, index?]
    simp only [if_true, isEmpty_eq_false (digits_ne_nil _), all, Bool.not_true, Bool.or_false,
      Bool.false_eq_true, if_false, ofDigits_digits]
    rw [value, fits]
  · obtain ⟨d, ds, front⟩ := List.exists_cons_of_ne_nil (digits_ne_nil i.toInt.natAbs)
    have value : ((i.toInt.natAbs : Nat) : Int) = i.toInt := by omega
    have minus : d ≠ '-' :=
      (ne_sign_of_digit (isDigit_of_mem_digits (front ▸ List.mem_cons_self))).1
    have number := ofDigits_digits i.toInt.natAbs
    rw [front] at all number ⊢
    simp [Layout.signed, negative, index?, minus, all, number, value, fits]

theorem segmentIndex_indexChars (i : Int32) (rest : List Char) :
    segmentIndex (indexChars i) rest = .ok i := by
  rw [segmentIndex, isEmpty_eq_false (indexChars_ne_nil i), index_indexChars]
  rfl

theorem segmentBound_boundChars (b : Option Int32) (rest : List Char) :
    segmentBound (boundChars b) rest = .ok b := by
  cases b with
  | none => rfl
  | some i =>
    rw [segmentBound, boundChars, Option.map_some, Option.getD_some,
      isEmpty_eq_false (indexChars_ne_nil i), segmentIndex_indexChars]
    rfl

/-- The characters of an index end at a bracket, a comma or a colon. -/
theorem found_readSegment_chars {cs : List Char} (index : ∀ c ∈ cs, isIndexChar c = true) {c : Char}
    (stop : isIndexChar c = false) (visible : c ≠ ' ') (s : List Char) :
    found (readSegment (cs ++ c :: s)) = .ok (⟨cs, c⟩, s) := by
  have ends : StopsAt isIndexChar (c :: s) := stopsAt_cons.mpr stop
  rw [found_readSegment, takeWhile_span index ends, dropWhile_span index ends,
    skipSpaces_cons s visible]

theorem skipSpaces_chars {cs : List Char} (index : ∀ c ∈ cs, isIndexChar c = true) {c : Char}
    (visible : c ≠ ' ') (s : List Char) : skipSpaces (cs ++ c :: s) = cs ++ c :: s := by
  cases cs with
  | nil => exact skipSpaces_cons s visible
  | cons d ds =>
    apply skipSpaces_cons
    rintro rfl
    exact absurd (index ' ' List.mem_cons_self) (by decide)

theorem found_readClose_close (close : Char) (visible : close ≠ ' ') (s : List Char) :
    found (readClose close (close :: s)) = .ok ((), s) := by
  rw [found_readClose, skipSpaces_cons s visible]
  exact if_pos rfl

theorem joinChars_cons_append (a : List Char) (rest : List (List Char)) (s : List Char) :
    joinChars [','] (a :: rest) ++ s =
      a ++ (if rest.isEmpty then s else ',' :: (joinChars [','] rest ++ s)) := by
  cases rest with
  | nil => rfl
  | cons b rest => simp [joinChars]

theorem found_readIndexes_chars (i : Int32) (more : List Int32) (s : List Char) :
    found (readIndexes ']' (joinChars [','] ((i :: more).map indexChars) ++ ']' :: s)) =
      .ok (i :: more, s) := by
  have index : ∀ j : Int32, ∀ c ∈ indexChars j, isIndexChar c = true :=
    fun j c => isIndexChar_of_mem_indexChars
  induction more generalizing i with
  | nil =>
    rw [found_readIndexes, List.map_cons, List.map_nil, joinChars,
      found_readSegment_chars (index i) rfl (by decide)]
    simp only [Except.bind, if_true, segmentIndex_indexChars]
    rfl
  | cons j more ih =>
    rw [found_readIndexes, List.map_cons, joinChars_cons_append, if_neg (by simp),
      found_readSegment_chars (index i) rfl (by decide)]
    have front : skipSpaces (joinChars [','] ((j :: more).map indexChars) ++ ']' :: s) =
        joinChars [','] ((j :: more).map indexChars) ++ ']' :: s := by
      rw [List.map_cons, joinChars_cons_append]
      split
      · exact skipSpaces_chars (index j) (by decide) s
      · exact skipSpaces_chars (index j) (by decide) _
    simp only [Except.bind, Char.reduceEq, if_false, if_true, segmentIndex_indexChars]
    rw [front, ih j]
    rfl

/-- Positions in brackets are read as the step that they were written for. -/
theorem found_readPositions_item (i : Int32) (s : List Char) :
    found (readPositions ']' (indexChars i ++ ']' :: s)) = .ok (.item (some i), s) := by
  rw [found_readPositions,
    found_readSegment_chars (fun _ => isIndexChar_of_mem_indexChars) rfl (by decide)]
  simp only [Except.bind, if_true, segmentIndex_indexChars]
  rfl

theorem found_readPositions_all (s : List Char) :
    found (readPositions ']' ('*' :: ']' :: s)) = .ok (.item none, s) := by
  have none : ∀ c ∈ ([] : List Char), isIndexChar c = true := by simp
  have segment := found_readSegment_chars none (c := '*') rfl (by decide) (']' :: s)
  rw [List.nil_append] at segment
  rw [found_readPositions, segment]
  simp only [Except.bind, Char.reduceEq, if_false, List.isEmpty_nil, and_self, if_true,
    found_readClose_close ']' (by decide) s]
  rfl

theorem found_readPositions_items (i j : Int32) (more : List Int32) (s : List Char) :
    found (readPositions ']' (joinChars [','] ((i :: j :: more).map indexChars) ++ ']' :: s)) =
      .ok (.items (i :: j :: more), s) := by
  have index : ∀ j : Int32, ∀ c ∈ indexChars j, isIndexChar c = true :=
    fun j c => isIndexChar_of_mem_indexChars
  have tail := found_readIndexes_chars j more s
  have front : skipSpaces (joinChars [','] ((j :: more).map indexChars) ++ ']' :: s) =
      joinChars [','] ((j :: more).map indexChars) ++ ']' :: s := by
    rw [List.map_cons, joinChars_cons_append]
    split
    · exact skipSpaces_chars (index j) (by decide) s
    · exact skipSpaces_chars (index j) (by decide) _
  rw [found_readPositions, List.map_cons, joinChars_cons_append, if_neg (by simp),
    found_readSegment_chars (index i) rfl (by decide)]
  simp only [Except.bind, Char.reduceEq, if_false, if_true, segmentIndex_indexChars]
  rw [front, tail]
  rfl

theorem found_readStride_chars (b : Option Int32) (s : List Char) :
    found (readStride ']' (boundChars b ++ ']' :: s)) = .ok (b, s) := by
  rw [found_readStride,
    found_readSegment_chars (fun _ => isIndexChar_of_mem_boundChars) rfl (by decide)]
  simp only [Except.bind, if_true, segmentBound_boundChars]
  rfl

theorem found_readStop_chars (stop stride : Option Int32) (s : List Char) :
    found (readStop ']' (boundChars stop ++ (if stride.isSome then ':' :: boundChars stride else []) ++
      ']' :: s)) = .ok ((stop, stride), s) := by
  have bound : ∀ b : Option Int32, ∀ c ∈ boundChars b, isIndexChar c = true :=
    fun b c => isIndexChar_of_mem_boundChars
  cases stride with
  | none =>
    rw [Option.isSome_none, if_neg Bool.false_ne_true, List.append_nil, found_readStop,
      found_readSegment_chars (bound stop) rfl (by decide)]
    simp only [Except.bind, if_true, segmentBound_boundChars]
    rfl
  | some i =>
    rw [Option.isSome_some, if_pos rfl, List.append_assoc, List.cons_append, found_readStop,
      found_readSegment_chars (bound stop) rfl (by decide)]
    simp only [Except.bind, Char.reduceEq, if_false, if_true, segmentBound_boundChars]
    rw [skipSpaces_chars (bound (some i)) (by decide), found_readStride_chars]
    rfl

theorem found_readPositions_slice (start stop stride : Option Int32) (s : List Char) :
    found (readPositions ']' (boundChars start ++ ':' :: (boundChars stop ++
      (if stride.isSome then ':' :: boundChars stride else []) ++ ']' :: s))) =
      .ok (.slice start stop stride, s) := by
  have bound : ∀ b : Option Int32, ∀ c ∈ boundChars b, isIndexChar c = true :=
    fun b c => isIndexChar_of_mem_boundChars
  have tail := found_readStop_chars stop stride s
  have front : skipSpaces (boundChars stop ++
      (if stride.isSome then ':' :: boundChars stride else []) ++ ']' :: s) = boundChars stop ++
      (if stride.isSome then ':' :: boundChars stride else []) ++ ']' :: s := by
    cases stride with
    | none => simpa using skipSpaces_chars (bound stop) (by decide) s
    | some i => simpa using skipSpaces_chars (bound stop) (by decide) (boundChars (some i) ++ ']' :: s)
  rw [found_readPositions, found_readSegment_chars (bound start) rfl (by decide)]
  simp only [Except.bind, Char.reduceEq, if_false, if_true, segmentBound_boundChars]
  rw [front, tail]
  rfl

/-- Names in brackets, from behind the first quote. -/
theorem found_readNames_chars (name : String) (more : List String) (s : List Char) :
    found (readNames ']' (name.toList.flatMap Quoted.escaped ++ '\'' ::
      (if more.isEmpty then ']' :: s
      else ',' :: (joinChars [','] (more.map fun n => Quoted.encode n.toList) ++ ']' :: s)))) =
      .ok (name :: more, s) := by
  induction more generalizing name with
  | nil =>
    rw [found_readNames, found_readQuoted_encode]
    simp only [Except.bind, List.isEmpty_nil, if_true]
    rw [skipSpaces_cons s (by decide)]
    rfl
  | cons next more ih =>
    rw [found_readNames, found_readQuoted_encode]
    simp only [Except.bind, List.isEmpty_cons, Bool.false_eq_true, if_false]
    rw [skipSpaces_cons _ (by decide)]
    simp only [Char.reduceEq, if_false, if_true]
    rw [List.map_cons, joinChars_cons_append, Quoted.encode, List.cons_append,
      skipSpaces_cons _ (by decide)]
    simp only [if_true]
    rw [List.append_assoc, List.singleton_append, List.isEmpty_map, ih next]
    rfl

theorem namesChars_append (name : String) (more : List String) (s : List Char) :
    namesChars (name :: more) ++ s = '[' :: '\'' :: (name.toList.flatMap Quoted.escaped ++ '\'' ::
      (if more.isEmpty then ']' :: s
      else ',' :: (joinChars [','] (more.map fun n => Quoted.encode n.toList) ++ ']' :: s))) := by
  rw [namesChars, List.cons_append, List.append_assoc, List.singleton_append, List.map_cons,
    joinChars_cons_append]
  simp [Quoted.encode]

end PathQuery.Indexer
