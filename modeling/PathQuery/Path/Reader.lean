import PathQuery.Path.Indexer

/-!
Reading a path. Steps hold conditions, conditions hold terms, and terms hold steps again; every reader
says what is left, and what is left is shorter.
-/
namespace PathQuery

namespace Condition

/-- A condition in front of a chain. A chain of the same connective takes it in; any other becomes the
last of two members. -/
def join (connective : Connective) (first : Condition) : Condition → Condition
  | compound c members =>
    if c = connective then compound connective (first :: members)
    else compound connective [first, compound c members]
  | last => compound connective [first, last]

end Condition

/-- What stands behind the spaces after a reading is shorter than the text that was read. -/
theorem Taken.trailing_shorter {s : List Char} {α : Type} (t : Taken s α) {d : Char}
    {after : List Char} (e : Lexeme.skipSpaces t.rest = d :: after) : (d :: after).length < s.length :=
  e ▸ Nat.lt_of_le_of_lt (Lexeme.length_skipSpaces_le t.rest) t.shorter

namespace Reader

open Lexeme Indexer

/-- What stands directly in front of a name. -/
inductive Before where
  | start
  | indexer
  | dot
deriving DecidableEq, Repr

/-- The characters that no name without quotes holds; in a query the relations and connectives end it
too. -/
def endsName (inQuery : Bool) (c : Char) : Bool :=
  ['[', '(', ']', ')', ' ', '.'].contains c || inQuery && ['=', '<', '!', '>', '|', '&'].contains c

/-- The step of a name without quotes; a star stands for all names. -/
def nameStep (deep : Bool) (name : List Char) : Step :=
  let name? := if name = ['*'] then none else some (String.ofList name)
  if deep then .scan name? else .member name?

def nameSteps (deep : Bool) (name : List Char) : List Step :=
  if name.isEmpty then [] else [nameStep deep name]

/-- Whether a second dot follows, and what comes behind it. -/
def afterDot : List Char → Bool × List Char
  | [] => (false, [])
  | c :: rest => if c = '.' then (true, rest) else (false, c :: rest)

theorem afterDot_le (s : List Char) : (afterDot s).2.length ≤ s.length := by
  unfold afterDot
  split
  · simp
  · split <;> simp

/-- The connective that is written with two characters. -/
def connective? (c d : Char) : Option Connective :=
  if c = '&' ∧ d = '&' then some .all else if c = '|' ∧ d = '|' then some .any else none

mutual

/-- The steps up to the end of the text or to a character that belongs to what surrounds them. After
two dots names and conditions are looked for at any depth, which is what `deep` says. -/
def readSteps (inQuery : Bool) (before : Before) (deep : Bool) (s : List Char) :
    Except SyntaxFault (Reading s (List Step)) :=
  let name := s.takeWhile (!endsName inQuery ·)
  if before = .indexer ∧ !name.isEmpty then .error ⟨.unexpectedAfterIndexer (name.headD ' '), s⟩
  else
    let named := nameSteps deep name
    let deep := deep && name.isEmpty
    have le := (List.dropWhile_suffix (l := s) (!endsName inQuery ·)).length_le
    match h : s.dropWhile (!endsName inQuery ·) with
    | [] =>
      if before = .dot ∧ name.isEmpty then .error ⟨.unexpectedEnd, []⟩
      else .ok ⟨named, [], Nat.zero_le _⟩
    | c :: rest =>
      have shorter := lt_of_eq_cons le h
      if c = '[' ∨ c = '(' then
        match readIndexer (if c = '[' then ']' else ')') deep rest with
        | .error fault => .error fault
        | .ok step =>
          have := step.shorter
          (readSteps inQuery .indexer false step.rest).map fun t =>
            ⟨named ++ step.value :: t.value, t.rest,
              Nat.le_of_lt (Nat.lt_of_le_of_lt t.le (Nat.lt_trans step.shorter shorter))⟩
      else if c = '.' then
        have := afterDot_le rest
        (readSteps inQuery .dot (deep || (afterDot rest).1) (afterDot rest).2).map fun t =>
          ⟨named ++ t.value, t.rest,
            Nat.le_of_lt (Nat.lt_of_le_of_lt (Nat.le_trans t.le (afterDot_le rest)) shorter)⟩
      else if before = .dot ∧ name.isEmpty ∧ inQuery then .error ⟨.unexpectedEnd, c :: rest⟩
      else .ok ⟨named, c :: rest, by rw [h] at le; exact le⟩
termination_by 2 * s.length
decreasing_by all_goals omega

/-- What stands in brackets, from behind the opening one. Positions are never looked for at depth. -/
def readIndexer (close : Char) (deep : Bool) (s : List Char) : Except SyntaxFault (Taken s Step) :=
  have le := length_skipSpaces_le s
  match h : skipSpaces s with
  | [] => .error ⟨.openIndexer, []⟩
  | c :: rest =>
    have shorter := lt_of_eq_cons le h
    if c = '\'' then
      (readNames close rest).map fun t =>
        ⟨namesStep deep t.value, t.rest, Nat.lt_trans t.shorter shorter⟩
    else if c = '?' then
      match rest with
      | [] => .error ⟨.openIndexer, []⟩
      | d :: inner =>
        have innerShorter := Nat.lt_of_succ_lt shorter
        if d = '(' then
          match readCondition inner with
          | .error fault => .error fault
          | .ok condition =>
            (readClose close condition.rest).map fun t =>
              ⟨if deep then .scanQuery condition.value else .query condition.value, t.rest,
                Nat.lt_trans (Nat.lt_trans t.shorter condition.shorter) innerShorter⟩
        else .error ⟨.unexpectedInIndexer d, d :: inner⟩
    else (readPositions close (c :: rest)).map (·.widen (by rw [← h]; exact le))
termination_by 2 * s.length
decreasing_by omega

/-- A condition and the parenthesis that closes it. Connectives have no precedence: what stands behind
one is a condition of its own. -/
def readCondition (s : List Char) : Except SyntaxFault (Taken s Condition) :=
  match readTerm s with
  | .error fault => .error fault
  | .ok left =>
    have leftShorter := left.shorter
    match readComparison left.value left.rest with
    | .error fault => .error fault
    | .ok first =>
      match h : first.rest with
      | [] => .error ⟨.openQuery, []⟩
      | c :: rest =>
        have shorter := Nat.lt_trans (lt_of_eq_cons first.le h) leftShorter
        if c = ')' then .ok ⟨first.value, rest, shorter⟩
        else
          match rest with
          | [] => .error ⟨.unexpectedInQuery c, [c]⟩
          | d :: next =>
            have nextShorter := Nat.lt_of_succ_lt shorter
            match connective? c d with
            | none => .error ⟨.unexpectedInQuery c, c :: d :: next⟩
            | some connective =>
              (readCondition next).map fun t =>
                ⟨.join connective first.value t.value, t.rest, Nat.lt_trans t.shorter nextShorter⟩
termination_by 2 * s.length + 1
decreasing_by all_goals omega

/-- A comparison from behind its left side; a closing parenthesis or a connective means that there is
no right side. -/
def readComparison (left : Term) (s : List Char) : Except SyntaxFault (Reading s Condition) :=
  match s with
  | [] => .error ⟨.openQuery, []⟩
  | c :: rest =>
    if c = ')' ∨ c = '|' ∨ c = '&' then
      .ok ⟨.compare .present left none, c :: rest, Nat.le_refl _⟩
    else
      match readRelation (c :: rest) with
      | .error fault => .error fault
      | .ok relation =>
        have shorter := relation.shorter
        (readTerm relation.rest).map fun right =>
          ⟨.compare relation.value left (some right.value), right.rest,
            Nat.le_of_lt (Nat.lt_trans right.shorter shorter)⟩
termination_by 2 * s.length
decreasing_by omega

/-- One side of a comparison with the spaces around it. Something must follow, because the condition is
still open. -/
def readTerm (s : List Char) : Except SyntaxFault (Taken s Term) :=
  have le := length_skipSpaces_le s
  match h : skipSpaces s with
  | [] => .error ⟨.openQuery, []⟩
  | c :: rest =>
    have shorter := lt_of_eq_cons le h
    have whole : (c :: rest).length ≤ s.length := shorter
    let found : Except SyntaxFault (Taken s Term) :=
      if c = '$' ∨ c = '@' then
        (readSteps true .start false rest).map fun t =>
          ⟨.path (if c = '$' then .root :: t.value else t.value), t.rest,
            Nat.lt_of_le_of_lt t.le shorter⟩
      else if c = '\'' ∨ c = '"' then
        (readQuoted c rest).map fun t =>
          ⟨.literal (.string t.value), t.rest, Nat.lt_trans t.shorter shorter⟩
      else if c = '/' then
        (readPattern rest).map fun t => ⟨.pattern t.value, t.rest, Nat.lt_trans t.shorter shorter⟩
      else if Numeral.isDigit c ∨ c = '-' then
        (readNumber (c :: rest)).map fun t =>
          ⟨.literal t.value, t.rest, Nat.lt_of_lt_of_le t.shorter whole⟩
      else
        match readWord? (c :: rest) constants with
        | some t => .ok ⟨.literal t.value, t.rest, Nat.lt_of_lt_of_le t.shorter whole⟩
        | none => .error ⟨.unexpectedInQuery c, c :: rest⟩
    match found with
    | .error fault => .error fault
    | .ok t =>
      match e : skipSpaces t.rest with
      | [] => .error ⟨.openQuery, []⟩
      | d :: after => .ok ⟨t.value, d :: after, t.trailing_shorter e⟩
termination_by 2 * s.length
decreasing_by omega

end

/-- What is left of a path without the `$` at its front, which is only dropped where a dot or a bracket
follows; anywhere else it is part of a name. -/
def dropRoot : List Char → List Char
  | '$' :: '.' :: rest => '.' :: rest
  | '$' :: '[' :: rest => '[' :: rest
  | s => s

def readPath (text : List Char) : Except SyntaxFault (List Step) :=
  let s := skipSpaces text
  let trimmed := (skipSpaces s.reverse).reverse
  if trimmed = [] ∨ trimmed = ['$'] then .ok []
  else
    match readSteps false .start false (dropRoot s) with
    | .error fault => .error fault
    | .ok taken =>
      match skipSpaces taken.rest with
      | [] => .ok taken.value
      | c :: rest => .error ⟨.unexpectedInPath c, c :: rest⟩

def readWholePattern (text : List Char) : Except SyntaxFault Pattern :=
  match text with
  | '/' :: rest =>
    match readPattern rest with
    | .error fault => .error fault
    | .ok taken =>
      match taken.rest with
      | [] => .ok taken.value
      | c :: after => .error ⟨.unexpectedInQuery c, c :: after⟩
  | [] => .error ⟨.openQuery, []⟩
  | c :: rest => .error ⟨.unexpectedInQuery c, c :: rest⟩

end Reader

def Path.parse (text : String) : Except SyntaxError Path :=
  (Reader.readPath text.toList).map Path.mk |>.mapError (.ofFault text.toList)

def Pattern.parse (text : String) : Except SyntaxError Pattern :=
  (Reader.readWholePattern text.toList).mapError (.ofFault text.toList)

end PathQuery
