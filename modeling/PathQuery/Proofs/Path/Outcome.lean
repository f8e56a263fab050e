import PathQuery.Path.Reader

/-! The readers of paths without the bounds that they carry: what each finds and what it leaves, as
equations between plain results. Proofs about reading use these and never open a reader. -/
namespace PathQuery

/-- What was found and what is left. -/
def found {s : List Char} {α : Type} (r : Except SyntaxFault (Taken s α)) :
    Except SyntaxFault (α × List Char) := r.map fun t => (t.value, t.rest)

/-- The same for a reading that may have taken nothing. -/
def reached {s : List Char} {α : Type} (r : Except SyntaxFault (Reading s α)) :
    Except SyntaxFault (α × List Char) := r.map fun t => (t.value, t.rest)

@[simp] theorem found_ok {s : List Char} {α : Type} (t : Taken s α) :
    found (.ok t) = .ok (t.value, t.rest) := rfl

@[simp] theorem found_error {s : List Char} {α : Type} (fault : SyntaxFault) :
    found (.error fault : Except SyntaxFault (Taken s α)) = .error fault := rfl

@[simp] theorem reached_ok {s : List Char} {α : Type} (t : Reading s α) :
    reached (.ok t) = .ok (t.value, t.rest) := rfl

@[simp] theorem reached_error {s : List Char} {α : Type} (fault : SyntaxFault) :
    reached (.error fault : Except SyntaxFault (Reading s α)) = .error fault := rfl

theorem found_map {s t : List Char} {α β : Type} (r : Except SyntaxFault (Taken s α))
    (f : Taken s α → Taken t β) (g : α × List Char → β × List Char)
    (same : ∀ x, ((f x).value, (f x).rest) = g (x.value, x.rest)) :
    found (r.map f) = (found r).map g := by
  cases r with
  | error fault => rfl
  | ok x => exact congrArg Except.ok (same x)

theorem found_widen {s t : List Char} {α : Type} (r : Except SyntaxFault (Taken s α))
    (le : s.length ≤ t.length) : found (r.map (·.widen le)) = found r := by
  cases r <;> rfl

theorem found_reading {s t : List Char} {α β : Type} (r : Except SyntaxFault (Reading s α))
    (f : Reading s α → Taken t β) (g : α × List Char → β × List Char)
    (same : ∀ x, ((f x).value, (f x).rest) = g (x.value, x.rest)) :
    found (r.map f) = (reached r).map g := by
  cases r with
  | error fault => rfl
  | ok x => exact congrArg Except.ok (same x)

theorem reached_map {s t : List Char} {α β : Type} (r : Except SyntaxFault (Reading s α))
    (f : Reading s α → Reading t β) (g : α × List Char → β × List Char)
    (same : ∀ x, ((f x).value, (f x).rest) = g (x.value, x.rest)) :
    reached (r.map f) = (reached r).map g := by
  cases r with
  | error fault => rfl
  | ok x => exact congrArg Except.ok (same x)

theorem reached_taken {s t : List Char} {α β : Type} (r : Except SyntaxFault (Taken s α))
    (f : Taken s α → Reading t β) (g : α × List Char → β × List Char)
    (same : ∀ x, ((f x).value, (f x).rest) = g (x.value, x.rest)) :
    reached (r.map f) = (found r).map g := by
  cases r with
  | error fault => rfl
  | ok x => exact congrArg Except.ok (same x)

theorem found_shorter {s : List Char} {α : Type} {r : Except SyntaxFault (Taken s α)} {v : α}
    {rest : List Char} (h : found r = .ok (v, rest)) : rest.length < s.length := by
  cases r with
  | error fault => cases h
  | ok t =>
    cases h
    exact t.shorter

theorem reached_le {s : List Char} {α : Type} {r : Except SyntaxFault (Reading s α)} {v : α}
    {rest : List Char} (h : reached r = .ok (v, rest)) : rest.length ≤ s.length := by
  cases r with
  | error fault => cases h
  | ok t =>
    cases h
    exact t.le

theorem bind_eq_ok {ε α β : Type} {r : Except ε α} {f : α → Except ε β} {y : β}
    (h : r.bind f = .ok y) : ∃ x, r = .ok x ∧ f x = .ok y := by
  cases r with
  | error fault => cases h
  | ok x => exact ⟨x, rfl, h⟩

theorem map_eq_ok {ε α β : Type} {r : Except ε α} {f : α → β} {y : β} (h : r.map f = .ok y) :
    ∃ x, r = .ok x ∧ f x = y := by
  cases r with
  | error fault => cases h
  | ok x => exact ⟨x, rfl, Except.ok.inj h⟩

namespace Lexeme

theorem found_readQuoted (quote : Char) (s : List Char) :
    found (readQuoted quote s) =
      (quotedChars quote [] s).map fun r => (String.ofList r.1, r.2) := by
  unfold readQuoted
  split <;> rename_i h <;> simp [h, Except.map]

theorem found_readPattern (s : List Char) :
    found (readPattern s) =
      match patternChars [] s with
      | none => .error ⟨.openPattern, []⟩
      | some (source, rest) =>
        .ok (⟨String.ofList source,
          String.ofList ((rest.takeWhile Unicode.isAlphabetic).filter Pattern.isFlag)⟩,
          rest.dropWhile Unicode.isAlphabetic) := by
  unfold readPattern
  split <;> rename_i h <;> simp [h]

theorem found_readNumber (s : List Char) :
    found (readNumber s) =
      match takeNumber? s with
      | none => .error ⟨.unexpectedInQuery (s.headD '-'), s⟩
      | some (w, rest) => .ok (numberValue w, rest) := by
  unfold readNumber
  split <;> rename_i h <;> simp [h]

theorem found_readRelation (s : List Char) :
    found (readRelation s) =
      match s with
      | [] | [_] => .error ⟨.openQuery, s⟩
      | a :: b :: rest =>
        match readWord? (a :: b :: rest) relations with
        | some t => .ok (t.value, t.rest)
        | none => .error ⟨.unreadableRelation, a :: b :: rest⟩ := by
  match s with
  | [] => rfl
  | [_] => rfl
  | a :: b :: rest =>
    simp only [readRelation]
    cases readWord? (a :: b :: rest) relations <;> rfl

end Lexeme

namespace Indexer

open Lexeme

theorem found_readSegment (s : List Char) :
    found (readSegment s) =
      match skipSpaces (s.dropWhile isIndexChar) with
      | [] => .error ⟨.openIndexer, []⟩
      | c :: rest => .ok (⟨s.takeWhile isIndexChar, c⟩, rest) := by
  unfold readSegment
  split <;> rename_i h <;> simp [h]

theorem found_readIndexes (close : Char) (s : List Char) :
    found (readIndexes close s) =
      (found (readSegment s)).bind fun (segment, rest) =>
        if segment.next = close then
          (segmentIndex segment.index (segment.next :: rest)).map fun i => ([i], rest)
        else if segment.next = ',' then
          (segmentIndex segment.index (segment.next :: rest)).bind fun i =>
            (found (readIndexes close (skipSpaces rest))).map fun r => (i :: r.1, r.2)
        else .error ⟨.unexpectedInIndexer segment.next, segment.next :: rest⟩ := by
  conv => lhs; rw [readIndexes]
  cases readSegment s with
  | error fault => rfl
  | ok t =>
    obtain ⟨⟨index, c⟩, rest, shorter⟩ := t
    simp only [found_ok, Except.bind]
    split
    · cases segmentIndex index (c :: rest) <;> rfl
    · split
      · cases segmentIndex index (c :: rest) with
        | error fault => rfl
        | ok i => exact found_map _ _ _ fun _ => rfl
      · rfl

theorem found_readStride (close : Char) (s : List Char) :
    found (readStride close s) =
      (found (readSegment s)).bind fun (segment, rest) =>
        if segment.next = close then
          (segmentBound segment.index (segment.next :: rest)).map fun b => (b, rest)
        else .error ⟨.unexpectedInIndexer segment.next, segment.next :: rest⟩ := by
  unfold readStride
  cases readSegment s with
  | error fault => rfl
  | ok t =>
    obtain ⟨⟨index, c⟩, rest, shorter⟩ := t
    simp only [found_ok, Except.bind]
    split
    · cases segmentBound index (c :: rest) <;> rfl
    · rfl

theorem found_readStop (close : Char) (s : List Char) :
    found (readStop close s) =
      (found (readSegment s)).bind fun (segment, rest) =>
        if segment.next = close then
          (segmentBound segment.index (segment.next :: rest)).map fun b => ((b, none), rest)
        else if segment.next = ':' then
          (segmentBound segment.index (segment.next :: rest)).bind fun stop =>
            (found (readStride close (skipSpaces rest))).map fun r => ((stop, r.1), r.2)
        else .error ⟨.unexpectedInIndexer segment.next, segment.next :: rest⟩ := by
  unfold readStop
  cases readSegment s with
  | error fault => rfl
  | ok t =>
    obtain ⟨⟨index, c⟩, rest, shorter⟩ := t
    simp only [found_ok, Except.bind]
    split
    · cases segmentBound index (c :: rest) <;> rfl
    · split
      · cases segmentBound index (c :: rest) with
        | error fault => rfl
        | ok stop => exact found_map _ _ _ fun _ => rfl
      · rfl

theorem found_readClose (close : Char) (s : List Char) :
    found (readClose close s) =
      match skipSpaces s with
      | [] => .error ⟨.openIndexer, []⟩
      | c :: rest => if c = close then .ok ((), rest) else .error ⟨.unexpectedInIndexer c, c :: rest⟩ := by
  unfold readClose
  split <;> rename_i h <;> simp only [h]
  · rfl
  · split <;> rfl

theorem found_readPositions (close : Char) (s : List Char) :
    found (readPositions close s) =
      (found (readSegment s)).bind fun (segment, rest) =>
        if segment.next = close then
          (segmentIndex segment.index (segment.next :: rest)).map fun i => (.item (some i), rest)
        else if segment.next = ',' then
          (segmentIndex segment.index (segment.next :: rest)).bind fun i =>
            (found (readIndexes close (skipSpaces rest))).map fun r => (.items (i :: r.1), r.2)
        else if segment.next = ':' then
          (segmentBound segment.index (segment.next :: rest)).bind fun start =>
            (found (readStop close (skipSpaces rest))).map fun r => (.slice start r.1.1 r.1.2, r.2)
        else if segment.next = '*' ∧ segment.index.isEmpty then
          (found (readClose close rest)).map fun r => (.item none, r.2)
        else .error ⟨.unexpectedInIndexer segment.next, segment.next :: rest⟩ := by
  unfold readPositions
  cases readSegment s with
  | error fault => rfl
  | ok t =>
    obtain ⟨⟨index, c⟩, rest, shorter⟩ := t
    simp only [found_ok, Except.bind]
    split
    · cases segmentIndex index (c :: rest) <;> rfl
    · split
      · cases segmentIndex index (c :: rest) with
        | error fault => rfl
        | ok i => exact found_map _ _ _ fun _ => rfl
      · split
        · cases segmentBound index (c :: rest) with
          | error fault => rfl
          | ok start => exact found_map _ _ _ fun _ => rfl
        · split
          · exact found_map _ _ _ fun _ => rfl
          · rfl

theorem found_readNames (close : Char) (s : List Char) :
    found (readNames close s) =
      (found (readQuoted '\'' s)).bind fun (name, left) =>
        match skipSpaces left with
        | [] => .error ⟨.openIndexer, []⟩
        | c :: rest =>
          if c = close then .ok ([name], rest)
          else if c = ',' then
            match skipSpaces rest with
            | [] => .error ⟨.openIndexer, []⟩
            | d :: next =>
              if d = '\'' then (found (readNames close next)).map fun r => (name :: r.1, r.2)
              else .error ⟨.unexpectedInIndexer d, d :: next⟩
          else .error ⟨.unexpectedInIndexer c, c :: rest⟩ := by
  conv => lhs; rw [readNames]
  cases readQuoted '\'' s with
  | error fault => rfl
  | ok name =>
    simp only [found_ok, Except.bind]
    split <;> rename_i h <;> simp only [h]
    · rfl
    · split
      · rfl
      · split
        · split <;> rename_i e <;> simp only [e]
          · rfl
          · split
            · exact found_map _ _ _ fun _ => rfl
            · rfl
        · rfl

end Indexer

namespace Reader

open Lexeme Indexer

theorem found_readIndexer (close : Char) (deep : Bool) (s : List Char) :
    found (readIndexer close deep s) =
      match skipSpaces s with
      | [] => .error ⟨.openIndexer, []⟩
      | c :: rest =>
        if c = '\'' then (found (readNames close rest)).map fun r => (namesStep deep r.1, r.2)
        else if c = '?' then
          match rest with
          | [] => .error ⟨.openIndexer, []⟩
          | d :: inner =>
            if d = '(' then
              (found (readCondition inner)).bind fun (condition, left) =>
                (found (readClose close left)).map fun r =>
                  (if deep then .scanQuery condition else .query condition, r.2)
            else .error ⟨.unexpectedInIndexer d, d :: inner⟩
        else found (readPositions close (c :: rest)) := by
  conv => lhs; rw [readIndexer]
  split <;> rename_i h <;> simp only [h]
  · rfl
  · split
    · exact found_map _ _ _ fun _ => rfl
    · split
      · split
        · rfl
        · rename_i d inner _ _
          by_cases opened : d = '('
          · simp only [opened, if_true]
            cases readCondition inner with
            | error fault => rfl
            | ok condition => exact found_map _ _ _ fun _ => rfl
          · simp only [opened, if_false]
            rfl
      · exact found_widen _ _

theorem reached_readSteps (inQuery : Bool) (before : Before) (deep : Bool) (s : List Char) :
    reached (readSteps inQuery before deep s) =
      let name := s.takeWhile (!endsName inQuery ·)
      if before = .indexer ∧ !name.isEmpty then
        .error ⟨.unexpectedAfterIndexer (name.headD ' '), s⟩
      else
        match s.dropWhile (!endsName inQuery ·) with
        | [] =>
          if before = .dot ∧ name.isEmpty then .error ⟨.unexpectedEnd, []⟩
          else .ok (nameSteps deep name, [])
        | c :: rest =>
          if c = '[' ∨ c = '(' then
            (found (readIndexer (if c = '[' then ']' else ')') (deep && name.isEmpty) rest)).bind
              fun (step, left) =>
                (reached (readSteps inQuery .indexer false left)).map fun r =>
                  (nameSteps deep name ++ step :: r.1, r.2)
          else if c = '.' then
            (reached (readSteps inQuery .dot ((deep && name.isEmpty) || (afterDot rest).1)
              (afterDot rest).2)).map fun r => (nameSteps deep name ++ r.1, r.2)
          else if before = .dot ∧ name.isEmpty ∧ inQuery then .error ⟨.unexpectedEnd, c :: rest⟩
          else .ok (nameSteps deep name, c :: rest) := by
  conv => lhs; rw [readSteps]
  dsimp only
  split
  · rfl
  · split <;> rename_i h <;> simp only [h]
    · split <;> rfl
    · split
      · rename_i c rest _
        cases readIndexer (if c = '[' then ']' else ')') (deep && (List.takeWhile
            (!endsName inQuery ·) s).isEmpty) rest with
        | error fault => rfl
        | ok step => exact reached_map _ _ _ fun _ => rfl
      · split
        · exact reached_map _ _ _ fun _ => rfl
        · split <;> rfl

/-- A comparison at the front of a text, with the spaces behind it. -/
def comparisonAt (s : List Char) : Except SyntaxFault (Condition × List Char) :=
  (found (readTerm s)).bind fun (left, afterLeft) => reached (readComparison left afterLeft)

theorem found_readCondition (s : List Char) :
    found (readCondition s) =
      (comparisonAt s).bind fun (first, afterFirst) =>
        match afterFirst with
        | [] => .error ⟨.openQuery, []⟩
        | c :: rest =>
          if c = ')' then .ok (first, rest)
          else
            match rest with
            | [] => .error ⟨.unexpectedInQuery c, [c]⟩
            | d :: next =>
              match connective? c d with
              | none => .error ⟨.unexpectedInQuery c, c :: d :: next⟩
              | some connective =>
                (found (readCondition next)).map fun r => (.join connective first r.1, r.2) := by
  conv => lhs; rw [readCondition]
  unfold comparisonAt
  cases readTerm s with
  | error fault => rfl
  | ok left =>
    simp only [found_ok, Except.bind]
    cases readComparison left.value left.rest with
    | error fault => rfl
    | ok first =>
      simp only [reached_ok]
      split <;> rename_i h <;> simp only [h]
      · rfl
      · split
        · rfl
        · split
          · rfl
          · split <;> rename_i e <;> simp only [e]
            · rfl
            · exact found_map _ _ _ fun _ => rfl

theorem reached_readComparison (left : Term) (s : List Char) :
    reached (readComparison left s) =
      match s with
      | [] => .error ⟨.openQuery, []⟩
      | c :: rest =>
        if c = ')' ∨ c = '|' ∨ c = '&' then .ok (.compare .present left none, c :: rest)
        else
          (found (readRelation (c :: rest))).bind fun (relation, afterRelation) =>
            (found (readTerm afterRelation)).map fun r =>
              (.compare relation left (some r.1), r.2) := by
  cases s with
  | nil =>
    rw [readComparison]
    rfl
  | cons c rest =>
    rw [readComparison]
    dsimp only
    split
    · rfl
    · cases readRelation (c :: rest) with
      | error fault => rfl
      | ok relation => exact reached_taken _ _ _ fun _ => rfl

/-- What a term is read as by its first character, before the spaces behind it. -/
def termAt (c : Char) (rest : List Char) : Except SyntaxFault (Term × List Char) :=
  if c = '$' ∨ c = '@' then
    (reached (readSteps true .start false rest)).map fun r =>
      (.path (if c = '$' then .root :: r.1 else r.1), r.2)
  else if c = '\'' ∨ c = '"' then
    (found (readQuoted c rest)).map fun r => (.literal (.string r.1), r.2)
  else if c = '/' then (found (readPattern rest)).map fun r => (.pattern r.1, r.2)
  else if Numeral.isDigit c ∨ c = '-' then
    (found (readNumber (c :: rest))).map fun r => (.literal r.1, r.2)
  else
    match readWord? (c :: rest) constants with
    | some t => .ok (.literal t.value, t.rest)
    | none => .error ⟨.unexpectedInQuery c, c :: rest⟩

/-- What follows a term is looked at in the same way whatever kind of term it is. -/
theorem found_trailing {c : Char} {rest : List Char} {bound : List Char}
    (x : Except SyntaxFault (Taken bound Term)) (same : found x = termAt c rest) :
    found (match x with
      | .error fault => .error fault
      | .ok t =>
        match e : skipSpaces t.rest with
        | [] => .error ⟨.openQuery, []⟩
        | d :: after => .ok (⟨t.value, d :: after, t.trailing_shorter e⟩ : Taken bound Term)) =
      (termAt c rest).bind fun (term, left) =>
        match skipSpaces left with
        | [] => .error ⟨.openQuery, []⟩
        | d :: after => .ok (term, d :: after) := by
  rw [← same]
  cases x with
  | error fault => rfl
  | ok t =>
    simp only [found_ok, Except.bind]
    split <;> rename_i e <;> simp only [e] <;> rfl

theorem found_readTerm (s : List Char) :
    found (readTerm s) =
      match skipSpaces s with
      | [] => .error ⟨.openQuery, []⟩
      | c :: rest =>
        (termAt c rest).bind fun (term, left) =>
          match skipSpaces left with
          | [] => .error ⟨.openQuery, []⟩
          | d :: after => .ok (term, d :: after) := by
  conv => lhs; rw [readTerm]
  split <;> rename_i h <;> simp only [h]
  · rfl
  · rename_i c rest
    apply found_trailing
    unfold termAt
    split
    · exact found_reading _ _ _ fun _ => rfl
    · split
      · exact found_map _ _ _ fun _ => rfl
      · split
        · exact found_map _ _ _ fun _ => rfl
        · split
          · exact found_map _ _ _ fun _ => rfl
          · cases readWord? (c :: rest) constants <;> rfl

theorem readPath_eq (text : List Char) :
    readPath text =
      if (skipSpaces (skipSpaces text).reverse).reverse = [] ∨
          (skipSpaces (skipSpaces text).reverse).reverse = ['$'] then .ok []
      else
        (reached (readSteps false .start false (dropRoot (skipSpaces text)))).bind
          fun (steps, left) =>
            match skipSpaces left with
            | [] => .ok steps
            | c :: rest => .error ⟨.unexpectedInPath c, c :: rest⟩ := by
  unfold readPath
  dsimp only
  split
  · rfl
  · cases readSteps false .start false (dropRoot (skipSpaces text)) <;> rfl

end Reader
end PathQuery
