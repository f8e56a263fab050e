import PathQuery.Proofs.Path.Bracket
import PathQuery.Proofs.Path.RoundTrip

/-! The grammar of positions in brackets: a star, one index, several indexes with commas between them, or
the bounds of a slice with colons between them, all with spaces anywhere but inside a number. Main
statement: a bracket that holds neither names nor a condition is read if and only if what it holds belongs
to the grammar, and it is read as the grammar says. -/
namespace PathQuery

namespace Indexer

open Lexeme Numeral

/-- Any number of spaces. -/
def Blank (s : List Char) : Prop := ∀ c ∈ s, c = ' '

/-- A minus sign, if there is one, and one or more digits, for a number that fits 32 bits. -/
inductive Index : List Char → Int32 → Prop where
  | plain {digits : List Char} {i : Int32} (nonempty : digits ≠ [])
      (all : ∀ c ∈ digits, isDigit c = true) (value : i.toInt = ofDigits digits) : Index digits i
  | minus {digits : List Char} {i : Int32} (nonempty : digits ≠ [])
      (all : ∀ c ∈ digits, isDigit c = true) (value : i.toInt = -ofDigits digits) :
      Index ('-' :: digits) i

/-- An index that may be missing. -/
inductive Bound : List Char → Option Int32 → Prop where
  | missing : Bound [] none
  | index {text : List Char} {i : Int32} (index : Index text i) : Bound text (some i)

/-- A text of some kind between spaces. -/
def Spaced (kind : List Char → Prop) (s : List Char) : Prop :=
  ∃ before text after, Blank before ∧ kind text ∧ Blank after ∧ s = before ++ (text ++ after)

/-- One or more indexes with commas between them. -/
inductive Indexes : List Char → List Int32 → Prop where
  | last {s : List Char} {i : Int32} (index : Spaced (Index · i) s) : Indexes s [i]
  | more {s rest : List Char} {i : Int32} {is : List Int32} (index : Spaced (Index · i) s)
      (others : Indexes rest is) : Indexes (s ++ ',' :: rest) (i :: is)

/-- What stands behind the first colon of a slice. -/
inductive Stop : List Char → Option Int32 → Option Int32 → Prop where
  | stop {s : List Char} {stop : Option Int32} (bound : Spaced (Bound · stop) s) : Stop s stop none
  | stride {s rest : List Char} {stop stride : Option Int32} (bound : Spaced (Bound · stop) s)
      (last : Spaced (Bound · stride) rest) : Stop (s ++ ':' :: rest) stop stride

/-- What a bracket holds, and the step that it stands for. -/
inductive Positions : List Char → Step → Prop where
  | all {before after : List Char} (front : Blank before) (back : Blank after) :
      Positions (before ++ '*' :: after) (.item none)
  | one {s : List Char} {i : Int32} (index : Spaced (Index · i) s) : Positions s (.item (some i))
  | several {s : List Char} {is : List Int32} (indexes : Indexes s is) (two : 2 ≤ is.length) :
      Positions s (.items is)
  | slice {s rest : List Char} {start stop stride : Option Int32} (bound : Spaced (Bound · start) s)
      (others : Stop rest stop stride) : Positions (s ++ ':' :: rest) (.slice start stop stride)

theorem int32_eq_some {z : Int} {i : Int32} : int32? z = some i ↔ i.toInt = z := by
  have low := i.le_toInt
  have high := i.toInt_lt
  rw [int32?, power_eq]
  constructor
  · split
    · rename_i fits
      rintro ⟨⟩
      exact Int32.toInt_ofInt_of_le fits.1 fits.2
    · rintro ⟨⟩
  · rintro rfl
    rw [if_pos ⟨low, high⟩, Int32.ofInt_toInt]

theorem index_eq_some {s : List Char} {i : Int32} : index? s = some i ↔ Index s i := by
  constructor
  · intro read
    cases s with
    | nil => cases read
    | cons c s =>
      rw [index?] at read
      by_cases minus : c = '-'
      · subst minus
        simp only [if_true] at read
        split at read
        · cases read
        · rename_i digits
          simp only [Bool.or_eq_true, not_or, List.isEmpty_iff, Bool.not_eq_true', Bool.not_eq_false,
            List.all_eq_true] at digits
          exact .minus digits.1 digits.2 (int32_eq_some.mp read)
      · simp only [if_neg minus] at read
        split at read
        · cases read
        · rename_i digits
          simp only [Bool.or_eq_true, not_or, List.isEmpty_iff, Bool.not_eq_true', Bool.not_eq_false,
            List.all_eq_true] at digits
          exact .plain digits.1 digits.2 (int32_eq_some.mp read)
  · rintro (⟨nonempty, all, value⟩ | ⟨nonempty, all, value⟩)
    · obtain ⟨d, ds, rfl⟩ := List.exists_cons_of_ne_nil nonempty
      have minus : d ≠ '-' := (ne_sign_of_digit (all d List.mem_cons_self)).1
      have digits : (d :: ds).all isDigit = true := List.all_eq_true.mpr all
      simp only [index?, if_neg minus, digits, List.isEmpty_cons, Bool.not_true, Bool.or_false,
        Bool.false_eq_true, if_false]
      exact int32_eq_some.mpr value
    · simp only [index?, if_true, isEmpty_eq_false nonempty, List.all_eq_true.mpr all, Bool.not_true,
        Bool.or_false, Bool.false_eq_true, if_false]
      exact int32_eq_some.mpr value

theorem segmentIndex_eq_ok {segment rest : List Char} {i : Int32} :
    segmentIndex segment rest = .ok i ↔ Index segment i := by
  rw [← index_eq_some, segmentIndex]
  cases segment with
  | nil => constructor <;> (intro h; cases h)
  | cons c cs =>
    rw [List.isEmpty_cons, if_neg Bool.false_ne_true]
    cases index? (c :: cs) with
    | none => constructor <;> (intro h; cases h)
    | some j => constructor <;> (intro h; cases h; rfl)

theorem segmentBound_eq_ok {segment rest : List Char} {bound : Option Int32} :
    segmentBound segment rest = .ok bound ↔ Bound segment bound := by
  constructor
  · intro read
    rw [segmentBound] at read
    split at read
    · rename_i empty
      rw [List.isEmpty_iff] at empty
      subst empty
      cases read
      exact .missing
    · obtain ⟨i, index, rfl⟩ := map_eq_ok read
      exact .index (segmentIndex_eq_ok.mp index)
  · rintro (_ | index)
    · rfl
    · have nonempty : segment ≠ [] := by
        rintro rfl
        cases index with
        | plain nonempty => exact nonempty rfl
      rw [segmentBound, isEmpty_eq_false nonempty, if_neg Bool.false_ne_true,
        segmentIndex_eq_ok.mpr index]
      rfl

theorem Index.isIndexChar {s : List Char} {i : Int32} (index : Index s i) :
    ∀ c ∈ s, isIndexChar c = true := by
  cases index with
  | plain _ all => exact fun c mem => isIndexChar_of_digit (all c mem)
  | minus _ all =>
    exact List.forall_mem_cons.mpr ⟨rfl, fun c mem => isIndexChar_of_digit (all c mem)⟩

theorem Bound.isIndexChar {s : List Char} {bound : Option Int32} (written : Bound s bound) :
    ∀ c ∈ s, isIndexChar c = true := by
  cases written with
  | missing => simp
  | index index => exact index.isIndexChar

theorem exists_blank (s : List Char) : ∃ before, Blank before ∧ s = before ++ skipSpaces s := by
  refine ⟨s.takeWhile (· == ' '), ?_, List.takeWhile_append_dropWhile.symm⟩
  intro c mem
  simpa using List.mem_takeWhile_imp mem

theorem skipSpaces_blank {before : List Char} (blank : Blank before) (s : List Char) :
    skipSpaces (before ++ s) = skipSpaces s := by
  rw [skipSpaces, List.dropWhile_append_of_pos fun c mem => by simpa using blank c mem]
  rfl

theorem blank_nil : Blank [] := fun _ mem => absurd mem List.not_mem_nil

theorem blank_append {a b : List Char} : Blank (a ++ b) ↔ Blank a ∧ Blank b := by
  simp [Blank, or_imp, forall_and]

theorem skipSpaces_eq_nil {s : List Char} : skipSpaces s = [] ↔ Blank s := by
  simp [skipSpaces, Blank, List.dropWhile_eq_nil_iff]

theorem skipSpaces_append {s : List Char} (visible : ¬ Blank s) (t : List Char) :
    skipSpaces (s ++ t) = skipSpaces s ++ t := by
  have more : skipSpaces s ≠ [] := skipSpaces_eq_nil.not.mpr visible
  rw [skipSpaces] at more ⊢
  rw [List.dropWhile_append, isEmpty_eq_false more, if_neg Bool.false_ne_true]
  rfl

/-- A segment of some kind is read from the text of that kind between spaces, in front of a character that
belongs to neither. -/
theorem segment_iff {kind : List Char → Prop}
    (chars : ∀ text, kind text → ∀ d ∈ text, isIndexChar d = true) {c : Char}
    (stop : isIndexChar c = false) (visible : c ≠ ' ') {s rest : List Char} :
    (∃ index, found (readSegment (skipSpaces s)) = .ok (⟨index, c⟩, rest) ∧ kind index) ↔
      ∃ w, s = w ++ c :: rest ∧ Spaced kind w := by
  constructor
  · rintro ⟨index, read, segment⟩
    rw [found_readSegment] at read
    split at read
    · cases read
    rename_i behind
    cases read
    obtain ⟨before, blank, front⟩ := exists_blank s
    obtain ⟨after, blank', back⟩ := exists_blank ((skipSpaces s).dropWhile isIndexChar)
    rw [behind] at back
    refine ⟨_, ?_, before, (skipSpaces s).takeWhile isIndexChar, after, blank, segment, blank', rfl⟩
    rw [List.append_assoc, List.append_assoc, ← back, List.takeWhile_append_dropWhile, ← front]
  · rintro ⟨_, rfl, before, text, after, blank, segment, blank', rfl⟩
    refine ⟨text, ?_, segment⟩
    -- the segment ends in front of the spaces behind it, or of the character if there are none
    have ends : StopsAt isIndexChar (after ++ c :: rest) := by
      cases after with
      | nil => exact stopsAt_cons.mpr stop
      | cons d after =>
        rw [blank' d List.mem_cons_self]
        exact stopsAt_cons.mpr rfl
    have behind : skipSpaces (after ++ c :: rest) = c :: rest := by
      rw [skipSpaces_blank blank', skipSpaces_cons rest visible]
    rw [List.append_assoc, List.append_assoc, skipSpaces_blank blank, found_readSegment]
    cases text with
    | nil =>
      have none : StopsAt isIndexChar (c :: rest) := stopsAt_cons.mpr stop
      rw [List.nil_append, behind, dropWhile_stop none, takeWhile_stop none,
        skipSpaces_cons rest visible]
    | cons d text =>
      have all := chars _ segment
      have front : d ≠ ' ' := by
        rintro rfl
        exact absurd (all ' ' List.mem_cons_self) (by decide)
      rw [List.cons_append, skipSpaces_cons _ front, ← List.cons_append, takeWhile_span all ends,
        dropWhile_span all ends, behind]

theorem spacedIndex_iff {c : Char} (stop : isIndexChar c = false) (visible : c ≠ ' ')
    {s rest : List Char} {i : Int32} :
    (∃ index, found (readSegment (skipSpaces s)) = .ok (⟨index, c⟩, rest) ∧
      segmentIndex index (c :: rest) = .ok i) ↔ ∃ w, s = w ++ c :: rest ∧ Spaced (Index · i) w := by
  simp only [segmentIndex_eq_ok]
  exact segment_iff (fun _ index => index.isIndexChar) stop visible

theorem spacedBound_iff {c : Char} (stop : isIndexChar c = false) (visible : c ≠ ' ')
    {s rest : List Char} {bound : Option Int32} :
    (∃ index, found (readSegment (skipSpaces s)) = .ok (⟨index, c⟩, rest) ∧
      segmentBound index (c :: rest) = .ok bound) ↔
        ∃ w, s = w ++ c :: rest ∧ Spaced (Bound · bound) w := by
  simp only [segmentBound_eq_ok]
  exact segment_iff (fun _ written => written.isIndexChar) stop visible

theorem star_iff {s rest : List Char} :
    found (readSegment (skipSpaces s)) = .ok (⟨[], '*'⟩, rest) ↔ ∃ w, s = w ++ '*' :: rest ∧ Blank w := by
  have spaced (w : List Char) : Spaced (· = []) w ↔ Blank w := by
    constructor
    · rintro ⟨before, _, after, front, rfl, back, rfl⟩ c mem
      exact (List.mem_append.mp mem).elim (front c) (back c)
    · intro blank
      exact ⟨w, [], [], blank, rfl, by simp [Blank], by simp⟩
  have none : ∀ text : List Char, text = [] → ∀ d ∈ text, isIndexChar d = true := by
    rintro _ rfl d mem
    cases mem
  have segment : (∃ index, found (readSegment (skipSpaces s)) = .ok (⟨index, '*'⟩, rest) ∧ index = []) ↔
      ∃ w, s = w ++ '*' :: rest ∧ Spaced (· = []) w := segment_iff none (by decide) (by decide)
  simpa only [exists_eq_right, spaced] using segment

theorem readStride_iff {s rest : List Char} {stride : Option Int32} :
    found (readStride ']' (skipSpaces s)) = .ok (stride, rest) ↔
      ∃ w, s = w ++ ']' :: rest ∧ Spaced (Bound · stride) w := by
  rw [← spacedBound_iff (by decide) (by decide), found_readStride]
  constructor
  · intro read
    obtain ⟨⟨⟨index, c⟩, left⟩, segment, read⟩ := bind_eq_ok read
    dsimp only at read
    split at read
    · rename_i close
      subst close
      obtain ⟨bound, written, same⟩ := map_eq_ok read
      cases same
      exact ⟨index, segment, written⟩
    · cases read
  · rintro ⟨index, segment, written⟩
    rw [segment]
    simp only [Except.bind, if_true, written]
    rfl

theorem readStop_iff {s rest : List Char} {stop stride : Option Int32} :
    found (readStop ']' (skipSpaces s)) = .ok ((stop, stride), rest) ↔
      ∃ w, s = w ++ ']' :: rest ∧ Stop w stop stride := by
  rw [found_readStop]
  constructor
  · intro read
    obtain ⟨⟨⟨index, c⟩, left⟩, segment, read⟩ := bind_eq_ok read
    dsimp only at read
    split at read
    · rename_i close
      subst close
      obtain ⟨bound, written, same⟩ := map_eq_ok read
      cases same
      obtain ⟨w, text, spaced⟩ := (spacedBound_iff (by decide) (by decide)).mp ⟨index, segment, written⟩
      exact ⟨w, text, .stop spaced⟩
    split at read
    · rename_i colon
      subst colon
      obtain ⟨bound, written, read⟩ := bind_eq_ok read
      obtain ⟨⟨last, behind⟩, onward, same⟩ := map_eq_ok read
      cases same
      obtain ⟨w, rfl, spaced⟩ := (spacedBound_iff (by decide) (by decide)).mp ⟨index, segment, written⟩
      obtain ⟨w', rfl, spaced'⟩ := readStride_iff.mp onward
      exact ⟨w ++ ':' :: w', by simp, .stride spaced spaced'⟩
    · cases read
  · rintro ⟨w, rfl, written⟩
    cases written with
    | stop spaced =>
      obtain ⟨index, segment, bound⟩ :=
        (spacedBound_iff (c := ']') (by decide) (by decide)).mpr ⟨w, rfl, spaced⟩
      rw [segment]
      simp only [Except.bind, if_true, bound]
      rfl
    | @stride w w' _ _ spaced last =>
      obtain ⟨index, segment, bound⟩ :=
        (spacedBound_iff (c := ':') (by decide) (by decide)).mpr ⟨w, rfl, spaced⟩
      rw [List.append_assoc, List.cons_append, segment]
      simp only [Except.bind, Char.reduceEq, if_false, if_true, bound,
        readStride_iff.mpr ⟨w', rfl, last⟩]
      rfl

theorem readIndexes_iff {s rest : List Char} {is : List Int32} :
    found (readIndexes ']' (skipSpaces s)) = .ok (is, rest) ↔
      ∃ w, s = w ++ ']' :: rest ∧ Indexes w is := by
  constructor
  · intro read
    induction length : s.length using Nat.strongRecOn generalizing s is with
    | ind n ih =>
      rw [found_readIndexes] at read
      obtain ⟨⟨⟨index, c⟩, left⟩, segment, read⟩ := bind_eq_ok read
      have shorter := Nat.lt_of_lt_of_le (found_shorter segment) (length_skipSpaces_le s)
      dsimp only at read
      split at read
      · rename_i close
        subst close
        obtain ⟨i, written, same⟩ := map_eq_ok read
        cases same
        obtain ⟨w, text, spaced⟩ :=
          (spacedIndex_iff (by decide) (by decide)).mp ⟨index, segment, written⟩
        exact ⟨w, text, .last spaced⟩
      split at read
      · rename_i comma
        subst comma
        obtain ⟨i, written, read⟩ := bind_eq_ok read
        obtain ⟨⟨others, behind⟩, onward, same⟩ := map_eq_ok read
        cases same
        obtain ⟨w, text, spaced⟩ :=
          (spacedIndex_iff (by decide) (by decide)).mp ⟨index, segment, written⟩
        obtain ⟨w', rfl, listed⟩ := ih left.length (length ▸ shorter) onward rfl
        exact ⟨w ++ ',' :: w', by simp [text], .more spaced listed⟩
      · cases read
  · rintro ⟨w, rfl, written⟩
    induction written with
    | @last w i spaced =>
      obtain ⟨index, segment, read⟩ :=
        (spacedIndex_iff (c := ']') (by decide) (by decide)).mpr ⟨w, rfl, spaced⟩
      rw [found_readIndexes, segment]
      simp only [Except.bind, if_true, read]
      rfl
    | @more w w' i is spaced _ ih =>
      obtain ⟨index, segment, read⟩ :=
        (spacedIndex_iff (c := ',') (by decide) (by decide)).mpr ⟨w, rfl, spaced⟩
      rw [List.append_assoc, List.cons_append, found_readIndexes, segment]
      simp only [Except.bind, Char.reduceEq, if_false, if_true, read, ih]
      rfl

theorem readClose_iff {s rest : List Char} :
    found (readClose ']' s) = .ok ((), rest) ↔ ∃ w, s = w ++ ']' :: rest ∧ Blank w := by
  rw [found_readClose]
  constructor
  · intro read
    obtain ⟨before, blank, front⟩ := exists_blank s
    split at read
    · cases read
    rename_i behind
    split at read
    · rename_i close
      cases read
      rw [behind, close] at front
      exact ⟨before, front, blank⟩
    · cases read
  · rintro ⟨w, rfl, blank⟩
    rw [skipSpaces_blank blank, skipSpaces_cons rest (by decide)]
    rfl

/-- The reader of a bracket reads the grammar. -/
theorem readPositions_iff {s rest : List Char} {step : Step} :
    found (readPositions ']' (skipSpaces s)) = .ok (step, rest) ↔
      ∃ w, s = w ++ ']' :: rest ∧ Positions w step := by
  rw [found_readPositions]
  constructor
  · intro read
    obtain ⟨⟨⟨index, c⟩, left⟩, segment, read⟩ := bind_eq_ok read
    dsimp only at read
    split at read
    · rename_i close
      subst close
      obtain ⟨i, written, same⟩ := map_eq_ok read
      cases same
      obtain ⟨w, text, spaced⟩ :=
        (spacedIndex_iff (by decide) (by decide)).mp ⟨index, segment, written⟩
      exact ⟨w, text, .one spaced⟩
    split at read
    · rename_i comma
      subst comma
      obtain ⟨i, written, read⟩ := bind_eq_ok read
      obtain ⟨⟨others, behind⟩, onward, same⟩ := map_eq_ok read
      cases same
      obtain ⟨w, rfl, spaced⟩ :=
        (spacedIndex_iff (by decide) (by decide)).mp ⟨index, segment, written⟩
      obtain ⟨w', rfl, listed⟩ := readIndexes_iff.mp onward
      have two : 1 ≤ others.length := List.length_pos_iff.mpr (indexes_accepted onward)
      exact ⟨w ++ ',' :: w', by simp, .several (.more spaced listed) (Nat.succ_le_succ two)⟩
    split at read
    · rename_i colon
      subst colon
      obtain ⟨start, written, read⟩ := bind_eq_ok read
      obtain ⟨⟨⟨stop, stride⟩, behind⟩, onward, same⟩ := map_eq_ok read
      cases same
      obtain ⟨w, rfl, spaced⟩ :=
        (spacedBound_iff (by decide) (by decide)).mp ⟨index, segment, written⟩
      obtain ⟨w', rfl, others⟩ := readStop_iff.mp onward
      exact ⟨w ++ ':' :: w', by simp, .slice spaced others⟩
    split at read
    · rename_i star
      obtain ⟨rfl, empty⟩ := star
      obtain ⟨⟨⟨⟩, behind⟩, onward, same⟩ := map_eq_ok read
      cases same
      rw [List.isEmpty_iff.mp empty] at segment
      obtain ⟨w, rfl, front⟩ := star_iff.mp segment
      obtain ⟨w', rfl, back⟩ := readClose_iff.mp onward
      exact ⟨w ++ '*' :: w', by simp, .all front back⟩
    · cases read
  · rintro ⟨w, rfl, written⟩
    cases written with
    | @all w w' front back =>
      rw [List.append_assoc, List.cons_append, star_iff.mpr ⟨w, rfl, front⟩]
      simp only [Except.bind, Char.reduceEq, if_false, List.isEmpty_nil, and_self, if_true,
        readClose_iff.mpr ⟨w', rfl, back⟩]
      rfl
    | one spaced =>
      obtain ⟨index, segment, read⟩ :=
        (spacedIndex_iff (c := ']') (by decide) (by decide)).mpr ⟨w, rfl, spaced⟩
      rw [segment]
      simp only [Except.bind, if_true, read]
      rfl
    | several listed two =>
      cases listed with
      | last => simp at two
      | @more w w' i is spaced others =>
        obtain ⟨index, segment, read⟩ :=
          (spacedIndex_iff (c := ',') (by decide) (by decide)).mpr ⟨w, rfl, spaced⟩
        rw [List.append_assoc, List.cons_append, segment]
        simp only [Except.bind, Char.reduceEq, if_false, if_true, read,
          readIndexes_iff.mpr ⟨w', rfl, others⟩]
        rfl
    | @slice w w' start stop stride spaced others =>
      obtain ⟨index, segment, read⟩ :=
        (spacedBound_iff (c := ':') (by decide) (by decide)).mpr ⟨w, rfl, spaced⟩
      rw [List.append_assoc, List.cons_append, segment]
      simp only [Except.bind, Char.reduceEq, if_false, if_true, read,
        readStop_iff.mpr ⟨w', rfl, others⟩]
      rfl

end Indexer

namespace Reader

open Lexeme Indexer

/-- What is in front of the bracket's end decides how the bracket is read. -/
theorem found_readIndexer_numeric (deep : Bool) {s : List Char}
    (names : (skipSpaces s).head? ≠ some '\'') (query : (skipSpaces s).head? ≠ some '?') :
    found (readIndexer ']' deep s) = found (readPositions ']' (skipSpaces s)) := by
  rw [found_readIndexer]
  split
  · rename_i empty
    rw [empty]
    rfl
  · rename_i c rest front
    rw [front, List.head?_cons, ne_eq, Option.some.injEq] at names query
    rw [if_neg names, if_neg query, front]

/-- Behind spaces stands the first visible character. -/
theorem head_skipSpaces (s : List Char) : (skipSpaces s).head? = s.find? (· != ' ') := by
  induction s with
  | nil => rfl
  | cons c s ih =>
    by_cases space : c = ' '
    · subst space
      exact ih
    · rw [skipSpaces_cons s space, List.find?_cons_of_pos (by simpa using space)]
      rfl

theorem readPath_positions_iff {w : List Char} (closed : ']' ∉ w)
    (names : w.find? (· != ' ') ≠ some '\'') (query : w.find? (· != ' ') ≠ some '?')
    {steps : List Step} :
    readPath ('$' :: '[' :: (w ++ [']'])) = .ok steps ↔ ∃ step, steps = [step] ∧ Positions w step := by
  have mem : '[' ∈ '$' :: '[' :: (w ++ [']']) := by simp
  have front : (skipSpaces (w ++ [']'])).head? = (w.find? (· != ' ')).or (some ']') := by
    rw [head_skipSpaces, List.find?_append]
    rfl
  have bracket : found (readIndexer ']' false (w ++ [']'])) =
      found (readPositions ']' (skipSpaces (w ++ [']']))) := by
    apply found_readIndexer_numeric <;>
      (rw [front]; cases h : w.find? (· != ' ') <;> simp_all)
  have ended : reached (readSteps false .indexer false []) = .ok ([], []) :=
    reached_readSteps_end false .indexer false (.inl rfl) (by decide)
  rw [readPath_of_mem (by decide) (by decide) mem, skipSpaces_cons _ (by decide), dropRoot,
    reached_readSteps_bracket, bracket]
  constructor
  · intro read
    obtain ⟨⟨steps', left⟩, read, h⟩ := bind_eq_ok read
    obtain ⟨⟨step, behind⟩, positions, following⟩ := bind_eq_ok read
    obtain ⟨w', text, written⟩ := readPositions_iff.mp positions
    obtain ⟨rfl, _, rfl⟩ := (List.append_cons_inj_of_notMem closed (by simp)).mp text
    simp only [ended] at following
    cases following
    cases h
    exact ⟨step, rfl, written⟩
  · rintro ⟨step, rfl, written⟩
    have read : found (readPositions ']' (skipSpaces (w ++ [']']))) = .ok (step, []) :=
      readPositions_iff.mpr ⟨w, rfl, written⟩
    rw [read]
    simp only [Except.bind, ended]
    rfl

end Reader

/-- A path of one bracket without quotes and conditions is read if and only if what the bracket holds
belongs to the grammar, and then it has the one step that the grammar says. -/
theorem Path.parse_positions_iff {w : String} (closed : ']' ∉ w.toList)
    (names : w.toList.find? (· != ' ') ≠ some '\'') (query : w.toList.find? (· != ' ') ≠ some '?')
    (path : Path) :
    parse ("$[" ++ w ++ "]") = .ok path ↔ ∃ step, path = ⟨[step]⟩ ∧ Indexer.Positions w.toList step := by
  have chars : ("$[" ++ w ++ "]").toList = '$' :: '[' :: (w.toList ++ [']']) := by simp
  rw [parse_ok, chars, Reader.readPath_positions_iff closed names query]
  cases path
  simp

/-- A slice with spaces around its bounds and no end, and a list with a colon in it, which is nothing. -/
theorem Path.parse_positions_spaced :
    parse "$[ -2 :  :3 ]" = .ok ⟨[.slice (some (-2)) none (some 3)]⟩ ∧
    Indexer.Positions " -2 :  :3 ".toList (.slice (some (-2)) none (some 3)) ∧
    ∀ step, ¬ Indexer.Positions "1,2:3".toList step := by
  have read : parse ("$[" ++ " -2 :  :3 " ++ "]") = .ok ⟨[.slice (some (-2)) none (some 3)]⟩ := by cbv
  refine ⟨read, ?_, ?_⟩
  · obtain ⟨step, same, written⟩ :=
      (parse_positions_iff (by decide) (by decide) (by decide) _).mp read
    cases same
    exact written
  · intro step written
    have accepted : parse ("$[" ++ "1,2:3" ++ "]") = .ok ⟨[step]⟩ :=
      (parse_positions_iff (by decide) (by decide) (by decide) _).mpr ⟨step, rfl, written⟩
    have refused : parse ("$[" ++ "1,2:3" ++ "]") = .error ⟨.unexpectedInIndexer ':', 5⟩ := by cbv
    rw [refused] at accepted
    cases accepted

end PathQuery
