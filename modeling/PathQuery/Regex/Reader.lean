import PathQuery.Path.Pattern
import PathQuery.Regex.Bracket
import PathQuery.Regex.Limit
import PathQuery.Regex.Search

/-!
Reading regular expressions. There is no way to look around or back; a group may be named or set modes,
and modes set in a group end with it. The groups that are open form a stack.
-/
namespace PathQuery.RegexReader

/-- A piece of a sequence; modes that are set in passing match nothing and cannot be repeated. -/
inductive Piece where
  | regex (regex : Expression)
  | modes

def Piece.expression : Piece → Expression
  | regex r => r
  | modes => .empty

/-- A group that is still open: what came before it, and the modes around it. -/
structure OpenGroup where
  captures : Bool
  modes : Modes
  alternatives : List Expression
  pieces : List Piece

/-- What has been read: alternatives and pieces of the innermost group in reverse, the groups around
it, and the names that are taken. -/
structure Progress where
  modes : Modes
  alternatives : List Expression
  pieces : List Piece
  groups : List OpenGroup
  names : List String

namespace Progress

def add (p : Progress) (regex : Expression) : Progress := { p with pieces := .regex regex :: p.pieces }

def sequence (p : Progress) : Expression := .ofSequence (p.pieces.reverse.map Piece.expression)

def whole (p : Progress) : Expression := .ofAlternatives (p.sequence :: p.alternatives).reverse

def nextAlternative (p : Progress) : Progress :=
  { p with alternatives := p.sequence :: p.alternatives, pieces := [] }

def openGroup (p : Progress) (captures : Bool) (modes : Modes) : Progress :=
  { p with
    modes
    alternatives := []
    pieces := []
    groups := ⟨captures, p.modes, p.alternatives, p.pieces⟩ :: p.groups }

def closeGroup? (p : Progress) : Option Progress :=
  match p.groups with
  | [] => none
  | group :: groups =>
    some { p with
      modes := group.modes
      alternatives := group.alternatives
      pieces := .regex (.group group.captures p.whole) :: group.pieces
      groups }

def repeatLast? (p : Progress) (least : Nat) (most : Option Nat) : Option Progress :=
  match p.pieces with
  | .regex r :: pieces => some { p with pieces := .regex (.repeated r least most) :: pieces }
  | _ => none

end Progress

/-- One mode switched on or off; `U` prefers short matches, which changes nothing here. -/
def setMode? (modes : Modes) (letter : Char) (on : Bool) : Option Modes :=
  if letter = 'i' then some { modes with ignoreCase := on }
  else if letter = 'm' then some { modes with multiLine := on }
  else if letter = 's' then some { modes with dotAll := on }
  else if letter = 'x' then some { modes with extended := on }
  else if letter = 'u' then some { modes with unicode := on }
  else if letter = 'R' then some { modes with carriage := on }
  else if letter = 'U' then some modes
  else none

/-- Modes up to a colon or a closing parenthesis, with that character. No letter may come twice, and a
minus sign needs a letter behind it. -/
def takeModes (modes : Modes) (on : Bool) (seen : List Char) :
    (s : List Char) → Option (Taken s (Modes × Char × Bool))
  | [] => none
  | c :: rest =>
    if c = ':' ∨ c = ')' then
      if seen.head? = some '-' then none
      else some ⟨(modes, c, seen.isEmpty), rest, Nat.lt_succ_self _⟩
    else if seen.contains c then none
    else if c = '-' then
      (takeModes modes false (c :: seen) rest).map (·.widen (Nat.le_succ _))
    else
      (setMode? modes c on).bind fun modes =>
        (takeModes modes on (c :: seen) rest).map (·.widen (Nat.le_succ _))

def isNameStart (c : Char) : Bool := c = '_' || Unicode.isAlphabetic c

def isNameChar (c : Char) : Bool :=
  isNameStart c || ['.', '[', ']'].contains c || Unicode.inCategories Unicode.Category.numbers c

def readGroupName (s : List Char) : Option (Taken s String) :=
  let name := s.takeWhile (· ≠ '>')
  match h : s.dropWhile (· ≠ '>') with
  | [] => none
  | _ :: rest =>
    if name.head?.any isNameStart && name.all isNameChar then
      some ⟨String.ofList name, rest, by
        have := length_dropWhile_le (· ≠ '>') s
        rw [h, List.length_cons] at this
        exact this⟩
    else none

/-- The text behind `?<` or `?P<`, if the group is named. -/
def nameOfGroup? : List Char → Option (List Char)
  | '?' :: '<' :: rest => some rest
  | '?' :: 'P' :: '<' :: rest => some rest
  | _ => none

theorem nameOfGroup_lt {s rest : List Char} (h : nameOfGroup? s = some rest) :
    rest.length < s.length := by
  unfold nameOfGroup? at h
  split at h
  · cases h; simp only [List.length_cons]; omega
  · cases h; simp only [List.length_cons]; omega
  · cases h

def isLookAround (s : List Char) : Bool :=
  [['?', '='], ['?', '!'], ['?', '<', '='], ['?', '<', '!']].any (·.isPrefixOf s)

/-- A group from behind its opening parenthesis to its first piece, or modes for what follows. -/
def readGroup (p : Progress) (s : List Char) : Option (Reading s Progress) :=
  let inner := skipIgnored p.modes s
  have le : inner.length ≤ s.length := length_skipIgnored_le p.modes s
  if isLookAround inner then none
  else
    match h : nameOfGroup? inner with
    | some afterMark =>
      match readGroupName afterMark with
      | none => none
      | some name =>
        if p.names.contains name.value then none
        else
          some ⟨{ p.openGroup true p.modes with names := name.value :: p.names }, name.rest, by
            have := nameOfGroup_lt h
            have := name.shorter
            omega⟩
    | none =>
      match inner with
      | '?' :: rest =>
        match takeModes p.modes true [] rest with
        | none => none
        | some t =>
          have restLe : t.rest.length ≤ s.length := by
            have := t.shorter
            simp only [List.length_cons] at le
            omega
          let (modes, last, isEmpty) := t.value
          if last = ':' then some ⟨p.openGroup false modes, t.rest, restLe⟩
          else if isEmpty then none
          else some ⟨{ p with modes, pieces := .modes :: p.pieces }, t.rest, restLe⟩
      | rest => some ⟨p.openGroup true p.modes, rest, le⟩

/-- A count between blanks; it must fit 32 bits. -/
def readCount (modes : Modes) (s : List Char) : Option (Taken s Nat) :=
  let inner := s.dropWhile Unicode.isBlank
  let digits := inner.takeWhile Numeral.isDigit
  match h : inner.dropWhile Numeral.isDigit with
  | rest =>
    if positive : 0 < digits.length then
      if Numeral.ofDigits digits < power 2 32 then
        some ⟨Numeral.ofDigits digits, skipIgnored modes (rest.dropWhile Unicode.isBlank), by
          have a := length_dropWhile_le Unicode.isBlank s
          have b := congrArg List.length
            (List.takeWhile_append_dropWhile (p := Numeral.isDigit) (l := inner))
          have c := length_dropWhile_le Unicode.isBlank rest
          have d := length_skipIgnored_le modes (rest.dropWhile Unicode.isBlank)
          simp only [List.length_append, h] at b
          simp only [digits] at positive
          simp only [inner] at *
          omega⟩
      else none
    else none

def readBounds (modes : Modes) (s : List Char) : Option (Taken s (Nat × Option Nat)) :=
  match readCount modes (skipIgnored modes s) with
  | none => none
  | some least =>
    have counted := Nat.lt_of_lt_of_le least.shorter (length_skipIgnored_le modes s)
    match e : least.rest with
    | '\x7d' :: rest => some ⟨(least.value, some 0), rest, lt_of_eq_cons (Nat.le_of_lt counted) e⟩
    | ',' :: afterComma =>
      have comma := lt_of_eq_cons (Nat.le_of_lt counted) e
      have inner := Nat.lt_of_le_of_lt (length_skipIgnored_le modes afterComma) comma
      match f : skipIgnored modes afterComma with
      | '\x7d' :: rest => some ⟨(least.value, none), rest, lt_of_eq_cons (Nat.le_of_lt inner) f⟩
      | _ =>
        match readCount modes (skipIgnored modes afterComma) with
        | none => none
        | some most =>
          have counted := Nat.lt_trans most.shorter inner
          match g : most.rest with
          | '\x7d' :: rest =>
            if least.value ≤ most.value then
              some ⟨(least.value, some (most.value - least.value)), rest,
                lt_of_eq_cons (Nat.le_of_lt counted) g⟩
            else none
          | _ => none
    | _ => none

/-- What follows a question mark that asks for the shortest match. -/
def dropLazy (s : List Char) : List Char :=
  match s with
  | '?' :: rest => rest
  | rest => rest

theorem dropLazy_le (s : List Char) : (dropLazy s).length ≤ s.length := by
  unfold dropLazy
  split
  · simp
  · exact Nat.le_refl _

def lineStart (modes : Modes) : Boundary :=
  if !modes.multiLine then .textStart else if modes.carriage then .anyLineStart else .lineStart

def lineEnd (modes : Modes) : Boundary :=
  if !modes.multiLine then .textEnd else if modes.carriage then .anyLineEnd else .lineEnd

def dotSet (modes : Modes) : CharSet :=
  if modes.dotAll then fun _ => true
  else if modes.carriage then fun c => c ≠ '\n' && c ≠ '\r'
  else fun c => c ≠ '\n'

def readPiece (p : Progress) (s : List Char) : Option (Taken s Progress) :=
  match s with
  | [] => none
  | c :: rest =>
    let done (p : Progress) : Taken (c :: rest) Progress := ⟨p, rest, length_lt_cons c rest⟩
    let repeated (least : Nat) (most : Option Nat) : Option (Taken (c :: rest) Progress) :=
      (p.repeatLast? least most).map fun p => ⟨p, dropLazy rest, Nat.lt_succ_of_le (dropLazy_le rest)⟩
    if c = '(' then
      (readGroup p rest).map fun r => ⟨r.value, r.rest, Nat.lt_succ_of_le r.le⟩
    else if c = ')' then p.closeGroup?.map done
    else if c = '|' then some (done p.nextAlternative)
    else if c = '[' then
      (readClass p.modes rest).map fun t =>
        ⟨p.add (.one t.value), t.rest, t.shorter_cons c⟩
    else if c = '?' then repeated 0 (some 1)
    else if c = '*' then repeated 0 none
    else if c = '+' then repeated 1 none
    else if c = '\x7b' then
      match readBounds p.modes rest with
      | none => none
      | some t =>
        (p.repeatLast? t.value.1 t.value.2).map fun p =>
          ⟨p, dropLazy (skipIgnored p.modes t.rest), Nat.lt_succ_of_lt (Nat.lt_of_le_of_lt
            (Nat.le_trans (dropLazy_le _) (length_skipIgnored_le p.modes t.rest)) t.shorter)⟩
    else if c = '\\' then
      (readEscape p.modes rest).map fun t =>
        let regex : Expression :=
          match t.value with
          | .char d => .one (.plain (charSet p.modes d))
          | .set set => .one (.plain set)
          | .place boundary => .test boundary
        ⟨p.add regex, t.rest, t.shorter_cons c⟩
    else if c = '.' then
      if p.modes.unicode then some (done (p.add (.one (.plain (dotSet p.modes))))) else none
    else if c = '^' then some (done (p.add (.test (lineStart p.modes))))
    else if c = '$' then some (done (p.add (.test (lineEnd p.modes))))
    else some (done (p.add (.one (.plain (charSet p.modes c)))))

/-- The pieces up to the end of the text, where no group may be open. -/
def readPieces (p : Progress) (s : List Char) : Option Expression :=
  match _h : skipIgnored p.modes s with
  | [] => if p.groups.isEmpty then some p.whole else none
  | c :: rest =>
    match readPiece p (c :: rest) with
    | none => none
    | some t => readPieces t.value t.rest
termination_by s.length
decreasing_by
  exact Nat.lt_of_lt_of_le t.shorter (lt_of_eq_cons (length_skipIgnored_le p.modes s) _h)

end RegexReader

open RegexReader

/-- The regular expression of a pattern, if it is one that is not too deep or too large. -/
def Pattern.compile? (pattern : Pattern) : Option Expression :=
  let flag (c : Char) : Bool := pattern.flags.toList.contains c
  let modes : Modes := ⟨flag 'i', flag 'm', flag 's', flag 'x', true, false⟩
  (readPieces ⟨modes, [], [], [], []⟩ pattern.source.toList).filter (·.isWithinLimits)

end PathQuery
