import PathQuery.Path.Lexeme

/-!
What stands between brackets, as far as it holds no condition: one index, a list of indexes, a slice, a
star, or quoted names. The readers start behind the opening bracket, or behind the first quote, and end
behind the closing bracket.
-/
namespace PathQuery.Indexer

open Lexeme

def isIndexChar (c : Char) : Bool := Numeral.isDigit c || c = '-'

/-- A minus sign, if there is one, and digits; the number must fit 32 bits. -/
def index? : List Char → Option Int32
  | [] => none
  | c :: cs =>
    let digits := if c = '-' then cs else c :: cs
    if digits.isEmpty || !digits.all Numeral.isDigit then none
    else
      let n : Int := Numeral.ofDigits digits
      int32? (if c = '-' then -n else n)

/-- The index that a segment denotes. `rest` is where a fault is reported. -/
def segmentIndex (segment rest : List Char) : Except SyntaxFault Int32 :=
  if segment.isEmpty then .error ⟨.indexExpected, rest⟩
  else match index? segment with
    | some i => .ok i
    | none => .error ⟨.invalidIndex segment, rest⟩

/-- A bound of a slice, which may be missing. -/
def segmentBound (segment rest : List Char) : Except SyntaxFault (Option Int32) :=
  if segment.isEmpty then .ok none else (segmentIndex segment rest).map some

/-- The characters of an index, and the one behind them and behind the spaces that may follow. -/
structure Segment where
  index : List Char
  next : Char

def readSegment (s : List Char) : Except SyntaxFault (Taken s Segment) :=
  match h : skipSpaces (s.dropWhile isIndexChar) with
  | [] => .error ⟨.openIndexer, []⟩
  | c :: rest =>
    .ok ⟨⟨s.takeWhile isIndexChar, c⟩, rest, lt_of_eq_cons
      (Nat.le_trans (length_skipSpaces_le _) (List.dropWhile_suffix _).length_le) h⟩

/-- The rest of a list of indexes, from behind a comma. -/
def readIndexes (close : Char) (s : List Char) : Except SyntaxFault (Taken s (List Int32)) :=
  match readSegment s with
  | .error fault => .error fault
  | .ok ⟨⟨index, c⟩, rest, shorter⟩ =>
    if c = close then
      (segmentIndex index (c :: rest)).map fun i => ⟨[i], rest, shorter⟩
    else if c = ',' then
      have after := Nat.lt_of_le_of_lt (length_skipSpaces_le rest) shorter
      match segmentIndex index (c :: rest) with
      | .error fault => .error fault
      | .ok i =>
        (readIndexes close (skipSpaces rest)).map fun t =>
          ⟨i :: t.value, t.rest, Nat.lt_trans t.shorter after⟩
    else .error ⟨.unexpectedInIndexer c, c :: rest⟩
termination_by s.length

/-- The stride of a slice, from behind the second colon. -/
def readStride (close : Char) (s : List Char) : Except SyntaxFault (Taken s (Option Int32)) :=
  match readSegment s with
  | .error fault => .error fault
  | .ok ⟨⟨index, c⟩, rest, shorter⟩ =>
    if c = close then (segmentBound index (c :: rest)).map fun b => ⟨b, rest, shorter⟩
    else .error ⟨.unexpectedInIndexer c, c :: rest⟩

/-- The end of a slice and its stride, from behind the first colon. -/
def readStop (close : Char) (s : List Char) :
    Except SyntaxFault (Taken s (Option Int32 × Option Int32)) :=
  match readSegment s with
  | .error fault => .error fault
  | .ok ⟨⟨index, c⟩, rest, shorter⟩ =>
    if c = close then (segmentBound index (c :: rest)).map fun b => ⟨(b, none), rest, shorter⟩
    else if c = ':' then
      have after := Nat.lt_of_le_of_lt (length_skipSpaces_le rest) shorter
      match segmentBound index (c :: rest) with
      | .error fault => .error fault
      | .ok stop =>
        (readStride close (skipSpaces rest)).map fun t =>
          ⟨(stop, t.value), t.rest, Nat.lt_trans t.shorter after⟩
    else .error ⟨.unexpectedInIndexer c, c :: rest⟩

/-- What closes the bracket, possibly after spaces. -/
def readClose (close : Char) (s : List Char) : Except SyntaxFault (Taken s Unit) :=
  match h : skipSpaces s with
  | [] => .error ⟨.openIndexer, []⟩
  | c :: rest =>
    if c = close then .ok ⟨(), rest, lt_of_eq_cons (length_skipSpaces_le s) h⟩
    else .error ⟨.unexpectedInIndexer c, c :: rest⟩

/-- A star, an index, a list of indexes or a slice. -/
def readPositions (close : Char) (s : List Char) : Except SyntaxFault (Taken s Step) :=
  match readSegment s with
  | .error fault => .error fault
  | .ok ⟨⟨index, c⟩, rest, shorter⟩ =>
    have after := Nat.lt_of_le_of_lt (length_skipSpaces_le rest) shorter
    if c = close then
      (segmentIndex index (c :: rest)).map fun i => ⟨.item (some i), rest, shorter⟩
    else if c = ',' then
      match segmentIndex index (c :: rest) with
      | .error fault => .error fault
      | .ok i =>
        (readIndexes close (skipSpaces rest)).map fun t =>
          ⟨.items (i :: t.value), t.rest, Nat.lt_trans t.shorter after⟩
    else if c = ':' then
      match segmentBound index (c :: rest) with
      | .error fault => .error fault
      | .ok start =>
        (readStop close (skipSpaces rest)).map fun t =>
          ⟨.slice start t.value.1 t.value.2, t.rest, Nat.lt_trans t.shorter after⟩
    else if c = '*' ∧ index.isEmpty then
      (readClose close rest).map fun t => ⟨.item none, t.rest, Nat.lt_trans t.shorter shorter⟩
    else .error ⟨.unexpectedInIndexer c, c :: rest⟩

/-- Quoted names with commas between them, from behind the first quote. -/
def readNames (close : Char) (s : List Char) : Except SyntaxFault (Taken s (List String)) :=
  match readQuoted '\'' s with
  | .error fault => .error fault
  | .ok name =>
    match h : skipSpaces name.rest with
    | [] => .error ⟨.openIndexer, []⟩
    | c :: rest =>
      have shorter := Nat.lt_trans (lt_of_eq_cons (length_skipSpaces_le name.rest) h) name.shorter
      if c = close then .ok ⟨[name.value], rest, shorter⟩
      else if c = ',' then
        match e : skipSpaces rest with
        | [] => .error ⟨.openIndexer, []⟩
        | d :: next =>
          have nextShorter := Nat.lt_trans (lt_of_eq_cons (length_skipSpaces_le rest) e) shorter
          if d = '\'' then
            (readNames close next).map fun t =>
              ⟨name.value :: t.value, t.rest, Nat.lt_trans t.shorter nextShorter⟩
          else .error ⟨.unexpectedInIndexer d, d :: next⟩
      else .error ⟨.unexpectedInIndexer c, c :: rest⟩
termination_by s.length

/-- The step that selects by name: one name or several, here or at any depth. -/
def namesStep (deep : Bool) : List String → Step
  | [name] => if deep then .scan (some name) else .member (some name)
  | names => if deep then .scanNames names else .members names

end PathQuery.Indexer
