import PathQuery.Path.Reader

/-! Reading a path with one cursor, loops and remembered places, where nothing is taken for granted: every
slice, every bound that is set, every move of the cursor, every iteration and every nested reading is
looked at when it happens, and a run in which one is not as it should be ends in a mishap. -/
namespace PathQuery

/-- What must not happen in a run. -/
inductive Mishap where
  /-- A slice of the text that ends before it starts or cuts a character. -/
  | slice
  /-- A fourth bound. -/
  | bound
  /-- A cursor set to what is not left of the text. -/
  | backwards
  /-- An iteration that goes on to the next and has consumed nothing. -/
  | idle
  /-- Nested steps with as much left as where the enclosing ones began. -/
  | nesting
  /-- A closing character stepped over where there is none. -/
  | unclosed
deriving DecidableEq, Repr

/-- A run on a text, of which some is left: it ends in a mishap, in a fault, or with a value and what is
left then. -/
structure Run (α : Type) where
  run : (text rest : List Char) → Except Mishap (Except SyntaxFault (α × List Char))

namespace Run

open Lexeme

instance : Monad Run where
  pure v := ⟨fun _ rest => .ok (.ok (v, rest))⟩
  bind r f := ⟨fun text rest =>
    match r.run text rest with
    | .error mishap => .error mishap
    | .ok (.error fault) => .ok (.error fault)
    | .ok (.ok (v, next)) => (f v).run text next⟩

variable {α : Type}

def mishap (m : Mishap) : Run α := ⟨fun _ _ => .error m⟩

/-- Fails at the cursor. -/
def fail (cause : SyntaxCause) : Run α := ⟨fun _ rest => .ok (.error ⟨cause, rest⟩)⟩

def rest : Run (List Char) := ⟨fun _ rest => .ok (.ok (rest, rest))⟩

/-- How many characters are left. -/
def left : Run Nat := return (← rest).length

/-- How many bytes of a text stand before what is left of it. -/
def place (text rest : List Char) : Nat := utf8Length text - utf8Length rest

def position : Run Nat := ⟨fun text rest => .ok (.ok (place text rest, rest))⟩

def peek : Run (Option Char) := return (← rest).head?

def advance (next : List Char) : Run Unit :=
  ⟨fun _ rest => if next <:+ rest then .ok (.ok ((), next)) else .error .backwards⟩

/-- Moves over one character; at the end of the text nothing moves. -/
def bump : Run Unit := do advance (← rest).tail

/-- Moves over a closing character that a callee has stopped at. -/
def skip (c : Char) : Run Unit := do
  if (← peek) = some c then bump else mishap .unclosed

def eatSpaces : Run Unit := do advance (skipSpaces (← rest))

/-- Moves over a word if the text goes on with it. -/
def eat (word : List Char) : Run Bool := do
  match afterWord? word (← rest) with
  | some next =>
    advance next
    return true
  | none => return false

/-- Moves over what a reader takes from the front. -/
def apply (reader : List Char → Option (α × List Char)) : Run (Option α) := do
  match reader (← rest) with
  | some (v, next) =>
    advance next
    return some v
  | none => return none

def expectMore (cause : SyntaxCause) : Run Char := do
  match ← peek with
  | some c => return c
  | none => fail cause

/-- The text before a byte and the text from it on, if no character is cut there. -/
def splitBytes? : Nat → List Char → Option (List Char × List Char)
  | 0, s => some ([], s)
  | _ + 1, [] => none
  | n + 1, c :: s =>
    if c.utf8Size ≤ n + 1 then
      (splitBytes? (n + 1 - c.utf8Size) s).map fun (front, behind) => (c :: front, behind)
    else none

/-- The text from one byte to another, if they are in order and no character is cut. -/
def between? (text : List Char) (start stop : Nat) : Option (List Char) :=
  if start ≤ stop then do
    let (_, behind) ← splitBytes? start text
    let (piece, _) ← splitBytes? (stop - start) behind
    return piece
  else none

def slice (start stop : Nat) : Run (List Char) :=
  ⟨fun text rest =>
    match between? text start stop with
    | some piece => .ok (.ok (piece, rest))
    | none => .error .slice⟩

/-- The text between a byte and the cursor. -/
def since (start : Nat) : Run (List Char) := do slice start (← position)

/-- Goes on with less left than `n` characters. -/
def descend (m : Mishap) (n : Nat) (next : (k : Nat) → k < n → Run α) : Run α :=
  ⟨fun text rest =>
    if fewer : rest.length < n then (next rest.length fewer).run text rest else .error m⟩

/-- The next iteration of a loop, after one that began with `n` characters left. -/
def again (n : Nat) (next : (k : Nat) → k < n → Run α) : Run α := descend .idle n next

end Run

/-! The loops that hold no others. Each begins an iteration with `n` characters left. -/
namespace Guarded

open Run Lexeme Indexer Reader

/-- The characters up to the closing quote, after those in `seen`, which come in reverse. -/
def quotedFrom (quote : Char) (n : Nat) (seen : List Char) : Run (List Char) := do
  match ← peek with
  | none => fail .openString
  | some c =>
    bump
    if c = quote then return seen.reverse
    else if c ≠ '\\' ∨ (← left) = 0 then again n fun k _ => quotedFrom quote k (c :: seen)
    else
      let escaped ← expectMore .openString
      match Quoted.unletter? escaped with
      | none => fail (.unknownEscape escaped)
      | some x =>
        bump
        again n fun k _ => quotedFrom quote k (x :: seen)
termination_by n

/-- A string from its opening quote on. -/
def quoted (quote : Char) : Run String := do
  bump
  return String.ofList (← quotedFrom quote (← left) [])

/-- The letters behind a pattern, of which the flags are kept. -/
def flagsFrom (n : Nat) (seen : List Char) : Run (List Char) := do
  match (← peek).filter Unicode.isAlphabetic with
  | none => return seen.reverse
  | some flag =>
    bump
    again n fun k _ => flagsFrom k (if Pattern.isFlag flag then flag :: seen else seen)
termination_by n

def patternFrom (n : Nat) (seen : List Char) : Run Pattern := do
  match ← peek with
  | none => fail .openPattern
  | some c =>
    bump
    if c = '/' then
      let flags ← flagsFrom (← left) []
      return ⟨String.ofList seen.reverse, String.ofList flags⟩
    else if c = '\\' then
      match ← peek with
      | some e =>
        bump
        again n fun k _ => patternFrom k (if e = '/' then '/' :: seen else e :: '\\' :: seen)
      | none => again n fun k _ => patternFrom k ('\\' :: seen)
    else again n fun k _ => patternFrom k (c :: seen)
termination_by n

/-- A pattern from its opening slash on. -/
def pattern : Run Pattern := do
  bump
  patternFrom (← left) []

def number : Run Scalar := do
  let c := (← peek).getD '-'
  match ← apply takeNumber? with
  | some w => return numberValue w
  | none => fail (.unexpectedInQuery c)

def word? (words : List (List Char × α)) (s : List Char) : Option (α × List Char) :=
  (readWord? s words).map fun t => (t.value, t.rest)

def relation : Run Relation := do
  if (← left) < 2 then fail .openQuery
  else
    match ← apply (word? relations) with
    | some relation => return relation
    | none => fail .unreadableRelation

/-- Quoted names from a quote on, after some others. The cursor is left on the closing character. -/
def namesFrom (close : Char) (deep : Bool) (n : Nat) (names : List String) : Run Step := do
  match ← peek with
  | none => fail .openIndexer
  | some c =>
    if c ≠ '\'' then fail (.unexpectedInIndexer c)
    else
      let name ← quoted '\''
      eatSpaces
      let c ← expectMore .openIndexer
      if c = close then return namesStep deep (names ++ [name])
      else if c = ',' then
        bump
        eatSpaces
        again n fun k _ => namesFrom close deep k (names ++ [name])
      else fail (.unexpectedInIndexer c)
termination_by n

/-- A step of which only the closing character is missing, which may stand behind spaces. -/
def closed (close : Char) (step : Step) : Run Step := do
  let _ ← expectMore .openIndexer
  eatSpaces
  let c ← expectMore .openIndexer
  if c = close then return step else fail (.unexpectedInIndexer c)

/-- How far the reading of positions has come. -/
structure Positions where
  /-- Where the segment starts. -/
  start : Nat
  /-- Where it ended before spaces. -/
  stop : Option Nat := none
  indexes : Option (List Int32) := none
  colons : Nat := 0
  bounds : Vector (Option Int32) 3 := .replicate 3 none

namespace Positions

def segment (p : Positions) : Run (List Char) := do slice p.start (p.stop.getD (← position))

def index (segment : List Char) : Run Int32 :=
  match index? segment with
  | some i => return i
  | none => fail (.invalidIndex segment)

/-- The index of a segment that may not be empty. -/
def someIndex (segment : List Char) : Run Int32 := do
  if segment.isEmpty then fail .indexExpected else index segment

/-- The bounds with that of a segment, which an empty one leaves open. -/
def boundsWith (p : Positions) (segment : List Char) : Run (Vector (Option Int32) 3) := do
  if segment.isEmpty then return p.bounds
  else
    let i ← index segment
    if inside : p.colons < 3 then return p.bounds.set p.colons (some i) else mishap .bound

/-- At the closing character. -/
def finish (p : Positions) : Run Step := do
  let segment ← p.segment
  match p.indexes with
  | some indexes =>
    let i ← someIndex segment
    return .items (indexes ++ [i])
  | none =>
    if 0 < p.colons then
      let bounds ← p.boundsWith segment
      return .slice bounds[0] bounds[1] bounds[2]
    else
      let i ← someIndex segment
      return .item (some i)

/-- A new segment behind a comma or a colon. -/
def next (p : Positions) : Run Positions := do
  bump
  eatSpaces
  return { p with start := ← position, stop := none }

def comma (p : Positions) : Run Positions := do
  let i ← someIndex (← p.segment)
  next { p with indexes := some (p.indexes.getD [] ++ [i]) }

def colon (p : Positions) : Run Positions := do
  let bounds ← p.boundsWith (← p.segment)
  next { p with bounds, colons := p.colons + 1 }

def star (close : Char) : Run Step := do
  bump
  closed close (.item none)

end Positions

/-- A star, an index, a list of indexes or a slice. The cursor is left on the closing character. -/
def positionsFrom (close : Char) (n : Nat) (p : Positions) : Run Step := do
  match ← peek with
  | none => fail .openIndexer
  | some c =>
    if c = ' ' then
      let stop ← position
      eatSpaces
      again n fun k _ => positionsFrom close k { p with stop := some stop }
    else if c = close then p.finish
    else if c = ',' ∧ p.colons = 0 then
      let p ← p.comma
      again n fun k _ => positionsFrom close k p
    else if c = ':' ∧ p.indexes = none ∧ p.colons < 2 then
      let p ← p.colon
      again n fun k _ => positionsFrom close k p
    else if c = '*' ∧ (← position) = p.start ∧ p.indexes = none ∧ p.colons = 0 then Positions.star close
    else if isIndexChar c ∧ p.stop = none then
      bump
      again n fun k _ => positionsFrom close k p
    else fail (.unexpectedInIndexer c)
termination_by n

/-- How far the reading of steps has come. -/
structure Progress where
  steps : List Step
  /-- Where the name starts. -/
  start : Nat
  deep : Bool := false
  behindIndexer : Bool := false
  behindDot : Bool := false

namespace Progress

/-- Takes the name before the cursor, if there is one, for a step. -/
def named (p : Progress) : Run Progress := do
  if p.start < (← position) then
    let name ← since p.start
    return { p with steps := p.steps ++ [nameStep p.deep name], deep := false }
  else return p

/-- Where the steps end: they, and whether the text ends too. -/
def finish (p : Progress) (inQuery : Bool) : Run (List Step × Bool) := do
  let atEnd := (← left) = 0
  if p.start < (← position) then
    let name ← since p.start
    let trimmed := (skipSpaces name.reverse).reverse
    return (p.steps ++ [nameStep p.deep trimmed], atEnd)
  else if p.behindDot ∧ (atEnd ∨ inQuery) then fail .unexpectedEnd
  else return (p.steps, atEnd)

end Progress

/-- The composites of conditions that are still open, the innermost first. -/
abbrev Levels := List (Connective × List Condition)

namespace Levels

/-- A condition in front of a connective: a run of the same connective takes it in, any other is a new
level. -/
def push (connective : Connective) (first : Condition) : Levels → Levels
  | [] => [(connective, [first])]
  | (c, members) :: outer =>
    if c = connective then (c, members ++ [first]) :: outer
    else (connective, [first]) :: (c, members) :: outer

/-- Closes all levels behind a last condition. -/
def close (last : Condition) : Levels → Condition
  | [] => last
  | (c, members) :: outer => close (.compound c (members ++ [last])) outer

end Levels

/-- The connective that begins with a character. -/
def connective (c : Char) : Run (Option Connective) := do
  if c = '&' then return if ← eat ['&', '&'] then some .all else none
  else if c = '|' then return if ← eat ['|', '|'] then some .any else none
  else return none

/-- Moves over a second dot, if one follows the first. -/
def secondDot : Run Bool := do
  if (← peek) = some '.' then
    bump
    return true
  else return false

def closing (opening : Char) : Char := if opening = '[' then ']' else ')'

/-! The readers that call each other. `limit` is what was left where the innermost steps began. -/
mutual

/-- Steps up to the end of the text or a character that belongs to what surrounds them. -/
def stepsFrom (limit n : Nat) (inQuery : Bool) (p : Progress) : Run (List Step × Bool) := do
  match ← peek with
  | none => p.finish inQuery
  | some c =>
    if c = '[' ∨ c = '(' then
      let p ← p.named
      let step ← indexer limit c p.deep
      skip (closing c)
      let start ← position
      again n fun k _ => stepsFrom limit k inQuery
        { steps := p.steps ++ [step], start, behindIndexer := true }
    else if c = ']' ∨ c = ')' ∨ c = ' ' then p.finish inQuery
    else if c = '.' then
      let p ← p.named
      bump
      let second ← secondDot
      let start ← position
      again n fun k _ => stepsFrom limit k inQuery
        { steps := p.steps, start, deep := p.deep || second, behindDot := true }
    else if inQuery ∧ c ∈ ['=', '<', '!', '>', '|', '&'] then p.finish inQuery
    else if p.behindIndexer then fail (.unexpectedAfterIndexer c)
    else
      bump
      again n fun k _ => stepsFrom limit k inQuery p
termination_by (limit, 6, n)

/-- What stands in brackets, from the opening one on. The cursor is left on the closing one. -/
def indexer (limit : Nat) (opening : Char) (deep : Bool) : Run Step := do
  bump
  let _ ← expectMore .openIndexer
  eatSpaces
  let c ← expectMore .openIndexer
  if c = '\'' then namesFrom (closing opening) deep (← left) []
  else if c = '?' then query limit (closing opening) deep
  else positionsFrom (closing opening) (← left) { start := ← position }
termination_by (limit, 5, 0)

/-- A query from its question mark on. -/
def query (limit : Nat) (close : Char) (deep : Bool) : Run Step := do
  bump
  let c ← expectMore .openIndexer
  if c ≠ '(' then fail (.unexpectedInIndexer c)
  else
    bump
    let condition ← conditionFrom limit (← left) []
    skip ')'
    closed close (if deep then .scanQuery condition else .query condition)
termination_by (limit, 4, 0)

/-- A condition. The cursor is left on the parenthesis that closes it. -/
def conditionFrom (limit n : Nat) (levels : Levels) : Run Condition := do
  if (← left) = 0 then fail .openQuery
  else
    eatSpaces
    let first ← comparison limit (← term limit)
    match ← peek with
    | none => fail .openQuery
    | some c =>
      if c = ')' then return levels.close first
      else
        match ← connective c with
        | none => fail (.unexpectedInQuery c)
        | some connective => again n fun k _ => conditionFrom limit k (levels.push connective first)
termination_by (limit, 3, n)

/-- A comparison from behind its left side. -/
def comparison (limit : Nat) (side : Term) : Run Condition := do
  if (← peek) ∈ [some ')', some '|', some '&'] then return .compare .present side none
  else
    let relation ← relation
    let other ← term limit
    return .compare relation side (some other)
termination_by (limit, 2, 0)

/-- One side of a comparison with the spaces around it. -/
def term (limit : Nat) : Run Term := do
  eatSpaces
  let c ← expectMore .openQuery
  let value ← operand limit c
  eatSpaces
  let _ ← expectMore .openQuery
  return value
termination_by (limit, 1, 0)

/-- Nested steps or a literal, from its first character on. -/
def operand (limit : Nat) (c : Char) : Run Term := do
  if c = '$' ∨ c = '@' then
    bump
    let start ← position
    let (steps, atEnd) ← descend .nesting limit fun k _ =>
      stepsFrom k k true { steps := if c = '$' then [.root] else [], start }
    if atEnd then fail .openQuery else return .path steps
  else if c = '\'' ∨ c = '"' then return .literal (.string (← quoted c))
  else if c = '/' then return .pattern (← pattern)
  else if Numeral.isDigit c ∨ c = '-' then return .literal (← number)
  else
    match ← apply (word? constants) with
    | some value => return .literal value
    | none => fail (.unexpectedInQuery c)
termination_by (limit, 0, 0)

end

/-- Moves over a dollar in front of a dot or a bracket. -/
def root : Run Unit := do
  if (← peek) = some '$' ∧ (← rest)[1]? ∈ [some '.', some '['] then bump

def path : Run (List Step) := do
  eatSpaces
  let trimmed := (skipSpaces (← rest).reverse).reverse
  if trimmed = [] ∨ trimmed = ['$'] then return []
  else
    root
    let start ← position
    let (steps, atEnd) ← stepsFrom (← left) (← left) false { steps := [], start }
    if atEnd then return steps
    else
      eatSpaces
      match ← peek with
      | none => return steps
      | some c => fail (.unexpectedInPath c)

end Guarded

/-- The path that a text denotes, read by the guarded run. -/
def Path.parseGuarded (text : String) : Except Mishap (Except SyntaxError Path) :=
  (Guarded.path.run text.toList text.toList).map fun outcome =>
    (outcome.map fun r => Path.mk r.1).mapError (.ofFault text.toList)

end PathQuery
