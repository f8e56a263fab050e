import PathQuery.Proofs.Path.Guarded
import PathQuery.Proofs.Path.Forward
import PathQuery.Proofs.Text.Span

/-! What the pieces of the guarded run come to: the moves of the cursor, slices at remembered places, and
the loops that hold no others. None of them ends in a mishap, and each finds what the reader of the same
piece finds. -/
namespace PathQuery

section Bytes

theorem utf8Length_eq (cs : List Char) : utf8Length cs = String.utf8Len cs := by
  have sum : ∀ (cs : List Char) n, cs.foldl (fun n c => n + c.utf8Size) n = n + String.utf8Len cs := by
    intro cs
    induction cs with
    | nil => intro n; rfl
    | cons c cs ih =>
      intro n
      rw [List.foldl_cons, ih, String.utf8Len_cons]
      omega
  rw [utf8Length, sum, Nat.zero_add]

@[simp] theorem utf8Length_nil : utf8Length [] = 0 := rfl

theorem utf8Length_cons (c : Char) (cs : List Char) :
    utf8Length (c :: cs) = c.utf8Size + utf8Length cs := by
  rw [utf8Length_eq, utf8Length_eq, String.utf8Len_cons, Nat.add_comm]

theorem utf8Length_append (a b : List Char) : utf8Length (a ++ b) = utf8Length a + utf8Length b := by
  rw [utf8Length_eq, utf8Length_eq, utf8Length_eq, String.utf8Len_append]

end Bytes

namespace Run

open Lexeme

variable {α β : Type} {text rest : List Char}

section Moves

theorem run_bind (r : Run α) (f : α → Run β) :
    (r >>= f).run text rest =
      match r.run text rest with
      | .error mishap => .error mishap
      | .ok (.error fault) => .ok (.error fault)
      | .ok (.ok (v, next)) => (f v).run text next := rfl

theorem map_bind {ε γ : Type} (x : Except ε α) (f : α → Except ε β) (g : β → γ) :
    (x.bind f).map g = x.bind fun v => (f v).map g := by
  cases x <;> rfl

theorem map_map {ε γ : Type} (x : Except ε α) (f : α → β) (g : β → γ) :
    (x.map f).map g = x.map fun v => g (f v) := by
  cases x <;> rfl

/-- A run that comes to `x` goes on from what `x` has found. -/
theorem bind_of_eq {r : Run α} {f : α → Run β} {x : Except SyntaxFault (α × List Char)}
    (first : r.run text rest = .ok x) {g : α × List Char → Except SyntaxFault (β × List Char)}
    (second : ∀ v next, x = .ok (v, next) → (f v).run text next = .ok (g (v, next))) :
    (r >>= f).run text rest = .ok (x.bind g) := by
  rw [run_bind, first]
  cases x with
  | error fault => rfl
  | ok found => exact second found.1 found.2 rfl

theorem map_of_eq {r : Run α} {f : α → β} {x : Except SyntaxFault (α × List Char)}
    (first : r.run text rest = .ok x) :
    (r >>= fun v => pure (f v)).run text rest = .ok (x.map fun found => (f found.1, found.2)) := by
  rw [run_bind, first]
  cases x <;> rfl

@[simp] theorem run_pure (v : α) : (pure v : Run α).run text rest = .ok (.ok (v, rest)) := rfl

@[simp] theorem run_fail (cause : SyntaxCause) :
    (fail cause : Run α).run text rest = .ok (.error ⟨cause, rest⟩) := rfl

@[simp] theorem run_rest : Run.rest.run text rest = .ok (.ok (rest, rest)) := rfl

@[simp] theorem run_left : left.run text rest = .ok (.ok (rest.length, rest)) := rfl

@[simp] theorem run_position : position.run text rest = .ok (.ok (place text rest, rest)) := rfl

@[simp] theorem run_peek : peek.run text rest = .ok (.ok (rest.head?, rest)) := rfl

theorem run_advance {next : List Char} (suffix : next <:+ rest) :
    (advance next).run text rest = .ok (.ok ((), next)) := if_pos suffix

@[simp] theorem run_bump (c : Char) (s : List Char) : bump.run text (c :: s) = .ok (.ok ((), s)) :=
  if_pos (List.suffix_cons c s)

@[simp] theorem run_skip (c : Char) (s : List Char) : (skip c).run text (c :: s) = .ok (.ok ((), s)) := by
  simp [skip, run_bind]

@[simp] theorem run_eatSpaces : eatSpaces.run text rest = .ok (.ok ((), skipSpaces rest)) :=
  if_pos (skipSpaces_suffix rest)

@[simp] theorem run_expectMore_nil (cause : SyntaxCause) :
    (expectMore cause).run text [] = .ok (.error ⟨cause, []⟩) := rfl

@[simp] theorem run_expectMore (cause : SyntaxCause) (c : Char) (s : List Char) :
    (expectMore cause).run text (c :: s) = .ok (.ok (c, c :: s)) := rfl

theorem run_eat (word : List Char) :
    (eat word).run text rest = .ok (.ok
      (match afterWord? word rest with
      | some next => (true, next)
      | none => (false, rest))) := by
  rw [eat, run_bind, run_rest]
  cases read : afterWord? word rest with
  | some next => simp [run_bind, run_advance (afterWord_suffix read), read]
  | none => simp [read]

theorem run_apply {reader : List Char → Option (α × List Char)}
    (forward : ∀ v next, reader rest = some (v, next) → next <:+ rest) :
    (apply reader).run text rest = .ok (.ok
      (match reader rest with
      | some (v, next) => (some v, next)
      | none => (none, rest))) := by
  rw [apply, run_bind, run_rest]
  cases read : reader rest with
  | some r => simp [run_bind, run_advance (forward r.1 r.2 read), read]
  | none => simp [read]

theorem run_descend {m : Mishap} {n : Nat} {next : (k : Nat) → k < n → Run α}
    (fewer : rest.length < n) :
    (descend m n next).run text rest = (next rest.length fewer).run text rest := dif_pos fewer

theorem run_again {n : Nat} {next : (k : Nat) → k < n → Run α} (fewer : rest.length < n) :
    (again n next).run text rest = (next rest.length fewer).run text rest := run_descend fewer

end Moves

section Slices

theorem splitBytes_append (a b : List Char) : splitBytes? (utf8Length a) (a ++ b) = some (a, b) := by
  induction a with
  | nil => cases b <;> rfl
  | cons c a ih =>
    have positive := c.utf8Size_pos
    obtain ⟨n, size⟩ : ∃ n, utf8Length (c :: a) = n + 1 :=
      Nat.exists_eq_succ_of_ne_zero (by rw [utf8Length_cons]; omega)
    have whole := utf8Length_cons c a
    have left : n + 1 - c.utf8Size = utf8Length a := by omega
    rw [size, List.cons_append, splitBytes?, if_pos (by omega), left, ih]
    rfl

theorem place_append {a s : List Char} (suffix : a ++ s <:+ text) :
    place text s = place text (a ++ s) + utf8Length a := by
  obtain ⟨front, rfl⟩ := suffix
  simp only [place, utf8Length_append]
  omega

theorem between_eq {a s : List Char} (suffix : a ++ s <:+ text) :
    between? text (place text (a ++ s)) (place text s) = some a := by
  have ahead := place_append suffix
  obtain ⟨front, rfl⟩ := suffix
  have start : place (front ++ (a ++ s)) (a ++ s) = utf8Length front := by
    simp only [place, utf8Length_append]
    omega
  have size : place (front ++ (a ++ s)) s - utf8Length front = utf8Length a := by omega
  rw [between?, if_pos (by omega), start, splitBytes_append]
  simp only [Option.bind_eq_bind, Option.bind_some, size, splitBytes_append]
  rfl

/-- What stands between two places of the text is what was read between them. -/
theorem run_slice {a s : List Char} (suffix : a ++ s <:+ text) :
    (slice (place text (a ++ s)) (place text s)).run text rest = .ok (.ok (a, rest)) := by
  simp only [slice, between_eq suffix]

theorem place_lt_iff {a s : List Char} (suffix : a ++ s <:+ text) :
    place text (a ++ s) < place text s ↔ a ≠ [] := by
  rw [place_append suffix]
  cases a with
  | nil => simp
  | cons c a =>
    have positive := c.utf8Size_pos
    simp only [utf8Length_cons, ne_eq, reduceCtorEq, not_false_eq_true, iff_true]
    omega

end Slices
end Run

namespace Guarded

open Run Lexeme Indexer Reader

variable {text : List Char}

section Lexemes

theorem run_quotedFrom (quote : Char) (seen s : List Char) :
    (quotedFrom quote s.length seen).run text s = .ok (quotedChars quote seen s) := by
  fun_induction quotedChars quote seen s with
  | case1 seen =>
    rw [quotedFrom]
    rfl
  | case2 seen =>
    rw [quotedFrom]
    simp [run_bind]
  | case3 seen c other =>
    rw [quotedFrom]
    simp only [run_bind, run_peek, List.head?_cons, run_bump, if_neg other, run_left, List.length_nil,
      or_true, if_true]
    rw [run_again (by simp), quotedFrom]
    rfl
  | case4 seen e rest =>
    rw [quotedFrom]
    simp [run_bind]
  | case5 seen e rest x known other ih =>
    rw [quotedFrom]
    simp only [run_bind, run_peek, List.head?_cons, run_bump, if_neg other, run_left, ne_eq,
      not_true_eq_false, false_or, List.length_cons, Nat.add_eq_zero_iff, one_ne_zero, and_false, if_false,
      run_expectMore, known]
    rw [run_again (by omega), ih]
  | case6 seen e rest unknown other =>
    rw [quotedFrom]
    simp only [run_bind, run_peek, List.head?_cons, run_bump, if_neg other, run_left, ne_eq,
      not_true_eq_false, false_or, List.length_cons, Nat.add_eq_zero_iff, one_ne_zero, and_false, if_false,
      run_expectMore, unknown, run_fail]
  | case7 seen c e rest other plain ih =>
    rw [quotedFrom]
    simp only [run_bind, run_peek, List.head?_cons, run_bump, if_neg other, run_left, ne_eq, plain,
      not_false_eq_true, true_or, if_true]
    rw [run_again (by simp), ih]

theorem run_quoted (quote c : Char) (s : List Char) :
    (quoted quote).run text (c :: s) = .ok (found (readQuoted quote s)) := by
  rw [found_readQuoted, quoted]
  simp only [run_bind, run_bump, run_left, run_quotedFrom]
  cases quotedChars quote [] s <;> rfl

theorem run_flagsFrom (seen s : List Char) :
    (flagsFrom s.length seen).run text s = .ok (.ok
      (seen.reverse ++ (s.takeWhile Unicode.isAlphabetic).filter Pattern.isFlag,
        s.dropWhile Unicode.isAlphabetic)) := by
  induction s generalizing seen with
  | nil =>
    rw [flagsFrom]
    simp [run_bind]
  | cons c s ih =>
    rw [flagsFrom]
    by_cases letter : Unicode.isAlphabetic c = true
    · simp only [run_bind, run_peek, List.head?_cons, Option.filter, letter, if_true, run_bump]
      rw [run_again (by simp), ih]
      by_cases flag : Pattern.isFlag c = true <;> simp [letter, flag]
    · simp [run_bind, Option.filter, letter]

/-- What a pattern's source comes to when it is found with the text behind its closing slash. -/
def patternOf : Option (List Char × List Char) → Except SyntaxFault (Pattern × List Char)
  | none => .error ⟨.openPattern, []⟩
  | some (source, rest) =>
    .ok (⟨String.ofList source,
      String.ofList ((rest.takeWhile Unicode.isAlphabetic).filter Pattern.isFlag)⟩,
      rest.dropWhile Unicode.isAlphabetic)

theorem run_patternEnd (seen s : List Char) :
    (patternFrom ('/' :: s).length seen).run text ('/' :: s) = .ok (patternOf (some (seen.reverse, s))) := by
  rw [patternFrom]
  simp only [run_bind, run_peek, List.head?_cons, run_bump, if_true, run_left, run_flagsFrom]
  rfl

theorem run_patternFrom (seen s : List Char) :
    (patternFrom s.length seen).run text s = .ok (patternOf (patternChars seen s)) := by
  fun_induction patternChars seen s with
  | case1 seen =>
    rw [patternFrom]
    rfl
  | case2 seen => exact run_patternEnd seen []
  | case3 seen c other =>
    rw [patternFrom]
    simp only [run_bind, run_peek, List.head?_cons, run_bump, if_neg other]
    split
    · simp only [run_bind, run_peek, List.head?_nil]
      rw [run_again (by simp), patternFrom]
      rfl
    · rw [run_again (by simp), patternFrom]
      rfl
  | case4 seen e rest => exact run_patternEnd seen (e :: rest)
  | case5 seen rest other ih =>
    rw [patternFrom]
    simp only [run_bind, run_peek, List.head?_cons, run_bump, if_neg other, if_true]
    rw [run_again (by simp only [List.length_cons]; omega), ih]
  | case6 seen e rest other further ih =>
    rw [patternFrom]
    simp only [run_bind, run_peek, List.head?_cons, run_bump, if_neg other, if_true, if_neg further]
    rw [run_again (by simp only [List.length_cons]; omega), ih]
  | case7 seen c e rest other plain ih =>
    rw [patternFrom]
    simp only [run_bind, run_peek, List.head?_cons, run_bump, if_neg other, if_neg plain]
    rw [run_again (by simp), ih]

theorem run_pattern (c : Char) (s : List Char) :
    pattern.run text (c :: s) = .ok (found (readPattern s)) := by
  rw [found_readPattern, pattern]
  simp only [run_bind, run_bump, run_left, run_patternFrom]
  rfl

theorem run_number (s : List Char) : number.run text s = .ok (found (readNumber s)) := by
  rw [found_readNumber, number]
  simp only [run_bind, run_peek, run_apply fun _ _ => takeNumber_suffix]
  cases takeNumber? s with
  | none => cases s <;> rfl
  | some r => rfl

theorem word_suffix {α : Type} {words : List (List Char × α)} {s rest : List Char} {v : α}
    (h : word? words s = some (v, rest)) : rest <:+ s := by
  obtain ⟨t, read, same⟩ := Option.map_eq_some_iff.mp h
  cases same
  exact readWord_suffix read

theorem run_relation (s : List Char) : relation.run text s = .ok (found (readRelation s)) := by
  rw [found_readRelation, relation]
  match s with
  | [] => rfl
  | [_] => rfl
  | a :: b :: rest =>
    simp only [run_bind, run_left, List.length_cons, if_neg (show ¬rest.length + 1 + 1 < 2 by omega),
      run_apply fun _ _ => word_suffix, word?]
    cases readWord? (a :: b :: rest) relations <;> rfl

end Lexemes

section Names

/-- Quoted names from their first quote on, after some others. -/
def namesAt (close : Char) (deep : Bool) (names : List String) :
    List Char → Except SyntaxFault (Step × List Char)
  | [] => .error ⟨.openIndexer, []⟩
  | c :: s =>
    if c = '\'' then
      (found (readNames close s)).map fun r => (namesStep deep (names ++ r.1), close :: r.2)
    else .error ⟨.unexpectedInIndexer c, c :: s⟩

theorem run_namesFrom (close : Char) (deep : Bool) (names : List String) (s : List Char) :
    (namesFrom close deep s.length names).run text s = .ok (namesAt close deep names s) := by
  rw [namesFrom]
  cases s with
  | nil => rfl
  | cons c s =>
  by_cases quote : c = '\''
  · simp only [run_bind, run_peek, List.head?_cons, quote, ne_eq, not_true_eq_false, if_false, run_quoted,
      namesAt, if_true]
    rw [found_readNames]
    cases read : found (readQuoted '\'' s) with
    | error fault => rfl
    | ok r =>
    obtain ⟨name, behind⟩ := r
    have shorter := found_shorter read
    simp only [run_eatSpaces, Except.bind]
    cases ends : skipSpaces behind with
    | nil => rfl
    | cons d rest =>
    have le := lt_of_eq_cons (length_skipSpaces_le behind) ends
    simp only [run_expectMore]
    by_cases closed : d = close
    · simp [closed, Except.map]
    by_cases comma : d = ','
    · have le' := length_skipSpaces_le rest
      rw [if_neg closed, if_neg closed, if_pos comma, if_pos comma]
      simp only [run_bind, run_bump, run_eatSpaces]
      rw [run_again (by simp only [List.length_cons]; omega),
        run_namesFrom close deep (names ++ [name]) (skipSpaces rest)]
      cases skipSpaces rest with
      | nil => rfl
      | cons e next =>
        by_cases quote' : e = '\''
        · simp only [namesAt, if_pos quote', map_map, List.append_assoc, List.singleton_append]
        · simp only [namesAt, if_neg quote']
          rfl
    · simp [closed, comma, Except.map]
  · simp [run_bind, quote, namesAt]
termination_by s.length
decreasing_by all_goals (simp only [List.length_cons] at *; omega)

end Names

theorem run_closed (close : Char) (step : Step) (rest : List Char) :
    (closed close step).run text rest =
      .ok ((found (readClose close rest)).map fun r => (step, close :: r.2)) := by
  rw [found_readClose]
  cases rest with
  | nil => rfl
  | cons d rest =>
    simp only [closed, run_bind, run_expectMore, run_eatSpaces]
    cases skipSpaces (d :: rest) with
    | nil => rfl
    | cons e behind => by_cases closed : e = close <;> simp [closed, Except.map]

section Positions

variable {close : Char} {p : Positions} {s : List Char}

theorem run_someIndex (segment s : List Char) :
    (Positions.someIndex segment).run text s = .ok ((segmentIndex segment s).map fun i => (i, s)) := by
  unfold Positions.someIndex segmentIndex
  split
  · rfl
  · unfold Positions.index
    cases index? segment <;> rfl

theorem run_boundsWith (inside : p.colons < 3) (vacant : p.bounds[p.colons] = none)
    (segment s : List Char) :
    (p.boundsWith segment).run text s =
      .ok ((segmentBound segment s).map fun b => (p.bounds.set p.colons b, s)) := by
  unfold Positions.boundsWith segmentBound
  by_cases empty : segment.isEmpty = true
  · have same : p.bounds.set p.colons none = p.bounds := by
      rw [← vacant]
      exact Vector.set_getElem_self inside
    simp only [empty, if_true, run_pure, Except.map, same]
  · have index : (Positions.someIndex segment).run text s = _ := run_someIndex segment s
    rw [Positions.someIndex, if_neg empty] at index
    rw [if_neg empty, if_neg empty, run_bind, index]
    cases segmentIndex segment s with
    | error fault => rfl
    | ok i => simp [inside, Except.map]

theorem ne_of_isIndexChar {c d : Char} (index : isIndexChar c = true) (other : isIndexChar d = false) :
    c ≠ d := by
  rintro rfl
  rw [index] at other
  cases other

/-- The loop moves over the characters of an index. -/
theorem run_indexChars (fresh : p.stop = none) (other : isIndexChar close = false) {a : List Char}
    (all : ∀ c ∈ a, isIndexChar c = true) (s : List Char) :
    (positionsFrom close (a ++ s).length p).run text (a ++ s) =
      (positionsFrom close s.length p).run text s := by
  induction a with
  | nil => rfl
  | cons c a ih =>
    have index := all c List.mem_cons_self
    have space := ne_of_isIndexChar index (d := ' ') rfl
    have closed := ne_of_isIndexChar index other
    have comma := ne_of_isIndexChar index (d := ',') rfl
    have colon := ne_of_isIndexChar index (d := ':') rfl
    have star := ne_of_isIndexChar index (d := '*') rfl
    rw [positionsFrom]
    simp only [List.cons_append, run_bind, run_peek, List.head?_cons, if_neg space, if_neg closed, comma,
      colon, star, false_and, if_false, run_position, index, fresh, and_self, if_true, run_bump]
    rw [run_again (by simp)]
    exact ih fun d mem => all d (List.mem_cons_of_mem c mem)

theorem skipSpaces_front {c : Char} {rest : List Char} (h : skipSpaces s = c :: rest) : c ≠ ' ' := by
  rintro rfl
  have stop := List.head?_dropWhile_not (· == ' ') s
  rw [← skipSpaces, h] at stop
  simp at stop

theorem skipSpaces_fixed (visible : ∀ t, s ≠ ' ' :: t) : skipSpaces s = s := by
  cases s with
  | nil => rfl
  | cons c t =>
    have : c ≠ ' ' := fun space => visible t (space ▸ rfl)
    simp [skipSpaces, this]

theorem isIndexChar_closing (opening : Char) : isIndexChar (closing opening) = false := by
  unfold closing
  split <;> rfl

/-- Where the loop stands behind the characters of a segment of `s` and the spaces that may follow. -/
structure AtEnd (text s : List Char) (p : Positions) (index : List Char) (c : Char) (rest : List Char) :
    Prop where
  segment : p.segment.run text (c :: rest) = .ok (.ok (index, c :: rest))
  visible : c ≠ ' '
  spent : ¬(isIndexChar c = true ∧ p.stop = none)
  after : skipSpaces rest <:+ text
  fewer : (skipSpaces rest).length < s.length
  atStart : skipSpaces s = s → (place text (c :: rest) = p.start ↔ index = [])

theorem place_eq_iff {a b t : List Char} (within : a ++ b <:+ text) (left : t <:+ b)
    (first : skipSpaces b = t) (visible : skipSpaces (a ++ b) = a ++ b) :
    place text t = place text (a ++ b) ↔ a = [] := by
  obtain ⟨spaces, split⟩ := left
  have ahead := place_append within
  have further := place_append (a := spaces) (s := t) (split ▸ (List.suffix_append a b).trans within)
  rw [split] at further
  constructor
  · intro same
    cases a with
    | nil => rfl
    | cons c a =>
      have positive := c.utf8Size_pos
      rw [utf8Length_cons] at ahead
      omega
  · rintro rfl
    rw [List.nil_append] at visible ⊢
    rw [← first, visible]

/-- The loop comes from the start of a segment to the character behind it; there the segment is what was
read, whether or not spaces follow it. -/
theorem run_segment (other : isIndexChar close = false) (fresh : p.stop = none)
    (start : p.start = place text s) (within : s <:+ text) {α : Type}
    {g : Segment × List Char → Except SyntaxFault (α × List Char)} {f : α × List Char → Step × List Char}
    (next : ∀ stop index c rest, AtEnd text s { p with stop } index c rest →
      (positionsFrom close (c :: rest).length { p with stop }).run text (c :: rest) =
        .ok ((g (⟨index, c⟩, rest)).map f)) :
    (positionsFrom close s.length p).run text s = .ok (((found (readSegment s)).bind g).map f) := by
  obtain ⟨a, b, rfl, all, stops⟩ := exists_span isIndexChar s
  rw [found_readSegment, takeWhile_span all stops, dropWhile_span all stops,
    run_indexChars fresh other all]
  -- what is left behind the spaces, and where the segment ended if there are any
  have comes : ∃ stop,
      (positionsFrom close b.length p).run text b =
        (positionsFrom close (skipSpaces b).length { p with stop }).run text (skipSpaces b) ∧
      stop.getD (place text (skipSpaces b)) = place text b ∧ (stop = none → skipSpaces b = b) := by
    by_cases spaces : ∃ t, b = ' ' :: t
    · obtain ⟨t, rfl⟩ := spaces
      refine ⟨some (place text (' ' :: t)), ?_, rfl, nofun⟩
      rw [positionsFrom]
      simp only [run_bind, run_peek, List.head?_cons, if_true, run_position, run_eatSpaces]
      exact run_again (Nat.lt_succ_of_le (length_skipSpaces_le t))
    · have visible := skipSpaces_fixed fun t same => spaces ⟨t, same⟩
      rw [visible]
      exact ⟨none, by rw [← fresh], rfl, fun _ => rfl⟩
  obtain ⟨stop, same, place, still⟩ := comes
  rw [same]
  cases ends : skipSpaces b with
  | nil =>
    rw [positionsFrom]
    rfl
  | cons c rest =>
  have left := skipSpaces_suffix b
  rw [ends] at left
  refine next stop a c rest ⟨?_, skipSpaces_front ends, ?_, ?_, ?_, ?_⟩
  · simp only [Positions.segment, run_bind, run_position, start, ← ends, place]
    exact run_slice within
  · rintro ⟨index, rfl⟩
    rw [← still rfl, ends, stopsAt_cons, index] at stops
    cases stops
  · exact (skipSpaces_suffix rest).trans
      (suffix_of_cons (left.trans ((List.suffix_append a b).trans within)))
  · have le := length_skipSpaces_le rest
    have shorter := left.length_le
    rw [List.length_cons] at shorter
    rw [List.length_append]
    omega
  · intro visible
    rw [start]
    exact place_eq_iff within left ends visible

theorem behind_lt (c : Char) (rest : List Char) : (skipSpaces rest).length < (c :: rest).length :=
  Nat.lt_succ_of_le (length_skipSpaces_le rest)

namespace AtEnd

variable {index rest : List Char} {c : Char} (h : AtEnd text s p index c rest)
include h

/-- What the loop does behind a segment. -/
theorem loop :
    (positionsFrom close (c :: rest).length p).run text (c :: rest) =
      (if c = close then p.finish
      else if c = ',' ∧ p.colons = 0 then do
        let p ← p.comma
        again (c :: rest).length fun k _ => positionsFrom close k p
      else if c = ':' ∧ p.indexes = none ∧ p.colons < 2 then do
        let p ← p.colon
        again (c :: rest).length fun k _ => positionsFrom close k p
      else if c = '*' ∧ place text (c :: rest) = p.start ∧ p.indexes = none ∧ p.colons = 0 then
        Positions.star close
      else fail (.unexpectedInIndexer c)).run text (c :: rest) := by
  rw [positionsFrom]
  simp only [run_bind, run_peek, List.head?_cons, if_neg h.visible]
  split
  · rfl
  split
  · rfl
  split
  · rfl
  simp only [run_bind, run_position, if_neg h.spent]

theorem finish_indexes {is : List Int32} (listed : p.indexes = some is) :
    p.finish.run text (c :: rest) =
      .ok ((segmentIndex index (c :: rest)).map fun i => (.items (is ++ [i]), c :: rest)) := by
  simp only [Positions.finish, run_bind, h.segment, listed, run_someIndex]
  cases segmentIndex index (c :: rest) <;> rfl

theorem finish_bounds (unlisted : p.indexes = none) (colons : 0 < p.colons) (inside : p.colons < 3)
    (vacant : p.bounds[p.colons] = none) :
    p.finish.run text (c :: rest) = .ok ((segmentBound index (c :: rest)).map fun b =>
      (.slice (p.bounds.set p.colons b)[0] (p.bounds.set p.colons b)[1] (p.bounds.set p.colons b)[2],
        c :: rest)) := by
  simp only [Positions.finish, run_bind, h.segment, unlisted, if_pos colons, run_boundsWith inside vacant]
  cases segmentBound index (c :: rest) <;> rfl

theorem finish_index (unlisted : p.indexes = none) (colons : p.colons = 0) :
    p.finish.run text (c :: rest) =
      .ok ((segmentIndex index (c :: rest)).map fun i => (.item (some i), c :: rest)) := by
  simp only [Positions.finish, run_bind, h.segment, unlisted, colons, lt_irrefl, if_false, run_someIndex]
  cases segmentIndex index (c :: rest) <;> rfl

/-- The loop goes on behind a comma. -/
theorem comma {l : List Int32} (list : p.indexes.getD [] = l)
    {x : Int32 → Except SyntaxFault (Step × List Char)}
    (next : ∀ i, (positionsFrom close (skipSpaces rest).length
      { p with indexes := some (l ++ [i]), start := place text (skipSpaces rest), stop := none }).run text
        (skipSpaces rest) = .ok (x i)) :
    (p.comma >>= fun p => again (c :: rest).length fun k _ => positionsFrom close k p).run text
      (c :: rest) = .ok ((segmentIndex index (c :: rest)).bind x) := by
  simp only [Positions.comma, run_bind, h.segment, run_someIndex]
  cases segmentIndex index (c :: rest) with
  | error fault => rfl
  | ok i =>
    simp only [Except.map, Positions.next, run_bind, run_bump, run_eatSpaces, run_position, run_pure, list]
    rw [run_again (behind_lt c rest)]
    exact next i

/-- The loop goes on behind a colon. -/
theorem colon (inside : p.colons < 3) (vacant : p.bounds[p.colons] = none)
    {x : Option Int32 → Except SyntaxFault (Step × List Char)}
    (next : ∀ b, (positionsFrom close (skipSpaces rest).length
      { p with
        bounds := p.bounds.set p.colons b, colons := p.colons + 1, start := place text (skipSpaces rest),
        stop := none }).run text (skipSpaces rest) = .ok (x b)) :
    (p.colon >>= fun p => again (c :: rest).length fun k _ => positionsFrom close k p).run text
      (c :: rest) = .ok ((segmentBound index (c :: rest)).bind x) := by
  simp only [Positions.colon, run_bind, h.segment, run_boundsWith inside vacant]
  cases segmentBound index (c :: rest) with
  | error fault => rfl
  | ok b =>
    simp only [Except.map, Positions.next, run_bind, run_bump, run_eatSpaces, run_position, run_pure]
    rw [run_again (behind_lt c rest)]
    exact next b

end AtEnd

/-- The rest of a list of indexes, from behind a comma. -/
theorem run_indexes (other : isIndexChar close = false) {is : List Int32} (listed : p.indexes = some is)
    (colons : p.colons = 0) (fresh : p.stop = none) (start : p.start = place text s) (within : s <:+ text) :
    (positionsFrom close s.length p).run text s =
      .ok ((found (readIndexes close s)).map fun r => (.items (is ++ r.1), close :: r.2)) := by
  induction n : s.length using Nat.strong_induction_on generalizing s is p with
  | _ n ih =>
  subst n
  rw [found_readIndexes]
  refine run_segment other fresh start within fun stop index c rest behind => ?_
  rw [behind.loop]
  dsimp only
  by_cases closed : c = close
  · rw [if_pos closed, if_pos closed, behind.finish_indexes listed]
    cases segmentIndex index (c :: rest) <;> simp [Except.map, closed]
  rw [if_neg closed, if_neg closed]
  by_cases comma : c = ','
  · rw [if_pos ⟨comma, colons⟩, if_pos comma]
    refine (behind.comma (congrArg (·.getD []) listed) fun i =>
      ih _ behind.fewer rfl colons rfl rfl behind.after rfl).trans ?_
    simp only [map_bind, map_map, List.append_assoc, List.singleton_append, Option.getD_some]
  · simp [comma, listed, Except.map]

/-- The stride of a slice, from behind the second colon. -/
theorem run_stride (other : isIndexChar close = false) {first last : Option Int32}
    (unlisted : p.indexes = none) (colons : p.colons = 2) (bounds : p.bounds = #v[first, last, none])
    (fresh : p.stop = none) (start : p.start = place text s) (within : s <:+ text) :
    (positionsFrom close s.length p).run text s =
      .ok ((found (readStride close s)).map fun r => (.slice first last r.1, close :: r.2)) := by
  obtain ⟨_, _, _, _, _⟩ := p
  subst unlisted colons bounds
  rw [found_readStride]
  refine run_segment other fresh start within fun stop index c rest behind => ?_
  rw [behind.loop]
  dsimp only
  by_cases closed : c = close
  · rw [if_pos closed, if_pos closed, behind.finish_bounds rfl (by simp) (by simp) rfl]
    cases segmentBound index (c :: rest) <;> simp [Except.map, closed]
  · rw [if_neg closed, if_neg closed]
    simp [Except.map]

/-- The end of a slice and its stride, from behind the first colon. -/
theorem run_stop (other : isIndexChar close = false) {first : Option Int32}
    (unlisted : p.indexes = none) (colons : p.colons = 1) (bounds : p.bounds = #v[first, none, none])
    (fresh : p.stop = none) (start : p.start = place text s) (within : s <:+ text) :
    (positionsFrom close s.length p).run text s =
      .ok ((found (readStop close s)).map fun r => (.slice first r.1.1 r.1.2, close :: r.2)) := by
  obtain ⟨_, _, _, _, _⟩ := p
  subst unlisted colons bounds
  rw [found_readStop]
  refine run_segment other fresh start within fun stop index c rest behind => ?_
  rw [behind.loop]
  dsimp only
  by_cases closed : c = close
  · rw [if_pos closed, if_pos closed, behind.finish_bounds rfl (by simp) (by simp) rfl]
    cases segmentBound index (c :: rest) <;> simp [Except.map, closed]
  rw [if_neg closed, if_neg closed]
  by_cases colon : c = ':'
  · rw [if_neg (by simp), if_pos ⟨colon, rfl, by simp⟩, if_pos colon]
    refine (behind.colon (by simp) rfl fun b =>
      run_stride other rfl rfl rfl rfl rfl behind.after).trans ?_
    simp only [map_bind, map_map]
  · simp [colon, Except.map]

/-- A star, an index, a list of indexes or a slice, from where the spaces behind the bracket end. -/
theorem run_positions (other : isIndexChar close = false) (within : s <:+ text)
    (visible : skipSpaces s = s) :
    (positionsFrom close s.length { start := place text s }).run text s =
      .ok ((found (readPositions close s)).map fun r => (r.1, close :: r.2)) := by
  rw [found_readPositions]
  refine run_segment other rfl rfl within fun stop index c rest behind => ?_
  rw [behind.loop]
  dsimp only
  by_cases closed : c = close
  · rw [if_pos closed, if_pos closed, behind.finish_index rfl rfl]
    cases segmentIndex index (c :: rest) <;> simp [Except.map, closed]
  rw [if_neg closed, if_neg closed]
  by_cases comma : c = ','
  · rw [if_pos ⟨comma, rfl⟩, if_pos comma]
    refine (behind.comma (l := []) rfl fun i =>
      run_indexes other rfl rfl rfl rfl behind.after).trans ?_
    simp only [map_bind, map_map, List.nil_append, List.singleton_append]
  rw [if_neg fun h => comma h.1, if_neg comma]
  by_cases colon : c = ':'
  · rw [if_pos ⟨colon, rfl, by simp⟩, if_pos colon]
    refine (behind.colon (by simp) rfl fun b =>
      run_stop other rfl rfl rfl rfl rfl behind.after).trans ?_
    simp only [map_bind, map_map]
  rw [if_neg fun h => colon h.1, if_neg colon]
  have atStart := behind.atStart visible
  by_cases star : c = '*' ∧ index.isEmpty = true
  · obtain ⟨isStar, empty⟩ := star
    rw [if_pos ⟨isStar, atStart.mpr (List.isEmpty_iff.mp empty), rfl, rfl⟩, if_pos ⟨isStar, empty⟩,
      Positions.star, run_bind, run_bump]
    simp only [run_closed]
    cases found (readClose close rest) <;> rfl
  · rw [if_neg fun h => star ⟨h.1, List.isEmpty_iff.mpr (atStart.mp h.2.1)⟩, if_neg star]
    rfl

end Positions
end Guarded
end PathQuery
