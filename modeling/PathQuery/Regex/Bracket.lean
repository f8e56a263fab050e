import PathQuery.Regex.Named
import PathQuery.Text.Numeral
import PathQuery.Text.Taken
import PathQuery.Unicode.CaseFold

/-!
Escapes and bracketed classes of regular expressions. Each reader starts behind the character that
announces its piece; a piece that is not well formed gives nothing.
-/
namespace PathQuery.RegexReader

/-- What the flags have switched on at some place of an expression. -/
structure Modes where
  ignoreCase : Bool
  multiLine : Bool
  dotAll : Bool
  extended : Bool
  unicode : Bool
  carriage : Bool
deriving DecidableEq, Repr

theorem length_dropWhile_le (p : Char → Bool) (s : List Char) : (s.dropWhile p).length ≤ s.length :=
  (List.dropWhile_suffix _).length_le

/-- In extended mode blanks and comments between the pieces are dropped. A comment reaches from a
number sign to the end of its line. -/
def skipIgnored (modes : Modes) (s : List Char) : List Char :=
  if modes.extended then
    match _h : s.dropWhile Unicode.isBlank with
    | '#' :: comment => skipIgnored modes (comment.dropWhile (· ≠ '\n'))
    | rest => rest
  else s
termination_by s.length
decreasing_by
  exact Nat.lt_of_le_of_lt (length_dropWhile_le (· ≠ '\n') comment)
    (lt_of_eq_cons (length_dropWhile_le Unicode.isBlank s) _h)

theorem length_skipIgnored_le (modes : Modes) (s : List Char) :
    (skipIgnored modes s).length ≤ s.length := by
  fun_induction skipIgnored modes s with
  | case1 s _ comment h ih =>
    exact Nat.le_of_lt (Nat.lt_of_le_of_lt ih (Nat.lt_of_le_of_lt
      (length_dropWhile_le (· ≠ '\n') comment) (lt_of_eq_cons (length_dropWhile_le _ s) h)))
  | case2 s => exact length_dropWhile_le Unicode.isBlank s
  | case3 => exact Nat.le_refl _

/-- A set together with the characters that differ from its own in case only. -/
def foldSet (modes : Modes) (set : CharSet) : CharSet :=
  if !modes.ignoreCase then set
  else if modes.unicode then fun c => (Unicode.caseOrbit c).any set
  else fun c => set c || set c.toLower || set c.toUpper

/-- The characters outside a set. Without Unicode they are bytes and need not be characters. -/
def complement? (modes : Modes) (set : CharSet) : Option CharSet :=
  if modes.unicode then some fun c => !set c else none

def charSet (modes : Modes) (c : Char) : CharSet :=
  if !modes.ignoreCase then CharSet.single c
  else if modes.unicode then
    let orbit := Unicode.caseOrbit c
    fun d => orbit.contains d
  else fun d => d.toLower = c.toLower

def isMeta (c : Char) : Bool := "\\.+*?()|[]\x7b\x7d^$#&-~".toList.contains c

def isEscapable (c : Char) : Bool :=
  isMeta c || (c.toNat < 128 && !c.isAlphanum && c ≠ '<' && c ≠ '>')

inductive Escape where
  | char (c : Char)
  | set (set : CharSet)
  | place (boundary : Boundary)

def isHexDigit (c : Char) : Bool := c.isDigit || ('a' ≤ c && c ≤ 'f') || ('A' ≤ c && c ≤ 'F')

def hexDigitValue (c : Char) : Nat :=
  if c.isDigit then c.toNat - 48 else if c.isUpper then c.toNat - 55 else c.toNat - 87

def codePoint? (digits : List Char) : Option Char :=
  let n := digits.foldl (fun n c => 16 * n + hexDigitValue c) 0
  if digits.isEmpty then none else if n.isValidChar then some (Char.ofNat n) else none

def takeHexDigits (modes : Modes) : (count : Nat) → (s : List Char) → Option (Reading s (List Char))
  | 0, s => some ⟨[], s, Nat.le_refl _⟩
  | count + 1, s =>
    match h : skipIgnored modes s with
    | [] => none
    | c :: rest =>
      have shorter := lt_of_eq_cons (length_skipIgnored_le modes s) h
      if isHexDigit c then
        (takeHexDigits modes count rest).map fun r =>
          ⟨c :: r.value, r.rest, Nat.le_trans r.le (Nat.le_of_lt shorter)⟩
      else none

def takeBraced (modes : Modes) (s : List Char) : Option (Taken s (List Char)) :=
  match h : skipIgnored modes s with
  | [] => none
  | c :: rest =>
    have shorter := lt_of_eq_cons (length_skipIgnored_le modes s) h
    if c = '\x7d' then some ⟨[], rest, shorter⟩
    else
      (takeBraced modes rest).map fun t => ⟨c :: t.value, t.rest, Nat.lt_trans t.shorter shorter⟩
termination_by s.length

/-- A code point in braces or in a fixed number of digits. Without Unicode two digits are a byte, which
is a character only below 128. -/
def readHex (modes : Modes) (count : Nat) (s : List Char) : Option (Reading s Char) :=
  match h : skipIgnored modes s with
  | '\x7b' :: inner =>
    have shorter := lt_of_eq_cons (length_skipIgnored_le modes s) h
    match takeBraced modes inner with
    | none => none
    | some t =>
      if t.value.all isHexDigit then
        (codePoint? t.value).map fun c =>
          ⟨c, t.rest, Nat.le_of_lt (Nat.lt_trans t.shorter shorter)⟩
      else none
  | _ =>
    match takeHexDigits modes count s with
    | none => none
    | some r =>
      (codePoint? r.value).bind fun c =>
        if count = 2 ∧ !modes.unicode ∧ 128 ≤ c.toNat then none else some ⟨c, r.rest, r.le⟩

/-- The set of a property, which one letter or a text in braces names. -/
def readProperty (modes : Modes) (negated : Bool) (s : List Char) : Option (Reading s CharSet) :=
  let finish (set : CharSet) : CharSet :=
    let folded := foldSet modes set
    if negated then fun c => !folded c else folded
  if !modes.unicode then none
  else
    match h : skipIgnored modes s with
    | [] => none
    | c :: rest =>
      have shorter := lt_of_eq_cons (length_skipIgnored_le modes s) h
      if c = '\x7b' then
        match takeBraced modes rest with
        | none => none
        | some t =>
          (CharSet.braced? t.value).map fun set =>
            ⟨finish set, t.rest, Nat.le_of_lt (Nat.lt_trans t.shorter shorter)⟩
      else if c = '\\' then none
      else (CharSet.named? [c]).map fun set => ⟨finish set, rest, Nat.le_of_lt shorter⟩

/-- The digits, blanks or word characters; capital letters stand for all others. -/
def shorthand? (modes : Modes) (c : Char) : Option CharSet :=
  let digit : CharSet :=
    if modes.unicode then Unicode.Category.decimalNumber.contains else CharSet.range '0' '9'
  let blank : CharSet :=
    if modes.unicode then Unicode.isBlank else CharSet.ofRanges [('\t', '\r'), (' ', ' ')]
  let word := CharSet.word modes.unicode
  if c = 'd' then some digit
  else if c = 's' then some blank
  else if c = 'w' then some word
  else if c = 'D' then complement? modes digit
  else if c = 'S' then complement? modes blank
  else if c = 'W' then complement? modes word
  else none

def isShorthand (c : Char) : Bool := ['d', 's', 'w', 'D', 'S', 'W'].contains c

def control? (c : Char) : Option Char :=
  if c = 'a' then some '\x07'
  else if c = 'f' then some '\x0c'
  else if c = 't' then some '\t'
  else if c = 'n' then some '\n'
  else if c = 'r' then some '\r'
  else if c = 'v' then some '\x0b'
  else none

def isEdgeNameChar (c : Char) : Bool := c.isAlpha || c = '-'

def namedEdge? (unicode : Bool) (name : String) : Option Boundary :=
  if name = "start" then some (.wordStart unicode)
  else if name = "end" then some (.wordEnd unicode)
  else if name = "start-half" then some (.noWordBefore unicode)
  else if name = "end-half" then some (.noWordAfter unicode)
  else none

/-- The boundary behind `\b`: a word edge, or one of four kinds named in braces. Braces that do not
start with a letter or a hyphen are a repetition. -/
def readEdge (modes : Modes) (s : List Char) : Option (Reading s Boundary) :=
  match s with
  | [] => some (.nothing (.wordEdge modes.unicode))
  | c :: inner =>
    if c ≠ '\x7b' ∨ (skipIgnored modes inner).head?.any (!isEdgeNameChar ·) then
      some (.nothing (.wordEdge modes.unicode))
    else
      match takeBraced modes inner with
      | none => none
      | some t =>
        (namedEdge? modes.unicode (String.ofList t.value)).map fun boundary =>
          ⟨boundary, t.rest, Nat.le_succ_of_le (Nat.le_of_lt t.shorter)⟩

def readEscape (modes : Modes) (s : List Char) : Option (Taken s Escape) :=
  match s with
  | [] => none
  | c :: rest =>
    let char (c : Char) : Option (Taken (c :: rest) Escape) := some ⟨.char c, rest, Nat.lt_succ_self _⟩
    let place (boundary : Boundary) : Option (Taken (c :: rest) Escape) :=
      some ⟨.place boundary, rest, Nat.lt_succ_self _⟩
    if c = 'x' ∨ c = 'u' ∨ c = 'U' then
      (readHex modes (if c = 'x' then 2 else if c = 'u' then 4 else 8) rest).map fun r =>
        ⟨.char r.value, r.rest, Nat.lt_succ_of_le r.le⟩
    else if c = 'p' ∨ c = 'P' then
      (readProperty modes (c = 'P') rest).map fun r =>
        ⟨.set r.value, r.rest, Nat.lt_succ_of_le r.le⟩
    else if isShorthand c then
      (shorthand? modes c).map fun set => ⟨.set set, rest, Nat.lt_succ_self _⟩
    else if isEscapable c then char c
    else if c = 'A' then place .textStart
    else if c = 'z' then place .textEnd
    else if c = 'B' then place (.noWordEdge modes.unicode)
    else if c = '<' then place (.wordStart modes.unicode)
    else if c = '>' then place (.wordEnd modes.unicode)
    else if c = 'b' then
      (readEdge modes rest).map fun r => ⟨.place r.value, r.rest, Nat.lt_succ_of_le r.le⟩
    else (control? c).map fun d => ⟨.char d, rest, Nat.lt_succ_self _⟩

/-- An item of a class: a character, which may begin a range, or a set. -/
inductive ClassItem where
  | char (c : Char)
  | set (set : CharSet)

def readClassItem (modes : Modes) (s : List Char) : Option (Taken s ClassItem) :=
  match s with
  | [] => none
  | c :: rest =>
    if c = '\\' then
      match readEscape modes rest with
      | none => none
      | some t =>
        match t.value with
        | .char d => some ⟨.char d, t.rest, Nat.lt_succ_of_lt t.shorter⟩
        | .set set => some ⟨.set set, t.rest, Nat.lt_succ_of_lt t.shorter⟩
        | .place _ => none
    else some ⟨.char c, rest, Nat.lt_succ_self _⟩

/-- Without Unicode only ASCII characters may stand in a class. -/
def isClassChar (modes : Modes) (c : Char) : Bool := modes.unicode || c.toNat < 128

/-- One character, a set or a range of characters. A hyphen in front of a bracket or of another hyphen
makes no range. -/
def readClassRange (modes : Modes) (s : List Char) : Option (Taken s CharSet) :=
  match readClassItem modes s with
  | none => none
  | some item =>
    have shorter := item.shorter
    have le := length_skipIgnored_le modes item.rest
    let alone : Option (Taken s CharSet) :=
      match item.value with
      | .char c =>
        if isClassChar modes c then some ⟨CharSet.single c, item.rest, item.shorter⟩ else none
      | .set set => some ⟨set, item.rest, item.shorter⟩
    match h : skipIgnored modes item.rest with
    | '-' :: rest =>
      have leRest := length_skipIgnored_le modes rest
      match e : skipIgnored modes rest with
      | [] => none
      | c :: next =>
        if c = ']' ∨ c = '-' then alone
        else
          match item.value, readClassItem modes (c :: next) with
          | .char first, some other =>
            match other.value with
            | .char last =>
              if first ≤ last ∧ isClassChar modes first ∧ isClassChar modes last then
                some ⟨CharSet.range first last, other.rest, by
                  have := other.shorter
                  rw [h, List.length_cons] at le
                  rw [e] at leRest
                  omega⟩
              else none
            | .set _ => none
          | _, _ => none
    | _ => alone

/-- A class of ASCII characters behind its bracket, as in `[:^alpha:]`. -/
def readAsciiClass (s : List Char) : Option (Taken s (Bool × CharSet)) :=
  match s with
  | ':' :: rest =>
    let negated := rest.head? = some '^'
    let inner := if negated then rest.drop 1 else rest
    match h : inner.dropWhile (· ≠ ':') with
    | _ :: ']' :: after =>
      (CharSet.asciiClass? (inner.takeWhile (· ≠ ':'))).map fun set =>
        ⟨(negated, set), after, by
          have a := length_dropWhile_le (· ≠ ':') inner
          have : inner.length ≤ rest.length := by
            simp only [inner]
            split <;> simp
          rw [h] at a
          simp only [List.length_cons] at a ⊢
          omega⟩
    | _ => none
  | _ => none

inductive SetOperator where
  | intersection
  | difference
  | symmetricDifference

def SetOperator.apply (a b : CharSet) : SetOperator → CharSet
  | intersection => fun c => a c && b c
  | difference => fun c => a c && !b c
  | symmetricDifference => fun c => a c != b c

def setOperator? (c d : Char) : Option SetOperator :=
  if c ≠ d then none
  else if c = '&' then some .intersection
  else if c = '-' then some .difference
  else if c = '~' then some .symmetricDifference
  else none

/-- What has been read of a class: the operation that waits for its right side, the set that grows, the
number of its items, and the depth of the deepest one. -/
structure OpenClass where
  pending : Option (CharClass × SetOperator)
  set : CharSet
  items : Nat
  deepest : Nat

namespace OpenClass

def start (pending : Option (CharClass × SetOperator)) : OpenClass := ⟨pending, fun _ => false, 0, 0⟩

def add (k : OpenClass) (item : CharClass) : OpenClass :=
  { k with
    set := fun c => k.set c || item.set c
    items := k.items + 1
    deepest := max k.deepest item.nesting }

/-- The depth of the items together; several are one deeper than each. -/
def depth (k : OpenClass) : Nat := if 2 ≤ k.items then k.deepest + 1 else k.deepest

/-- The whole set so far. Both sides of an operator are folded before it is applied. -/
def total (modes : Modes) (k : OpenClass) : CharClass :=
  match k.pending with
  | none => ⟨k.set, k.depth⟩
  | some (left, operator) =>
    ⟨operator.apply (foldSet modes left.set) (foldSet modes k.set), max left.nesting k.depth + 1⟩

def operate (modes : Modes) (k : OpenClass) (operator : SetOperator) : OpenClass :=
  start (some (k.total modes, operator))

end OpenClass

/-- The hyphens at the front of a class, which stand for themselves. -/
def takeHyphens (modes : Modes) (k : OpenClass) (s : List Char) : OpenClass × List Char :=
  match _h : skipIgnored modes s with
  | '-' :: rest => takeHyphens modes (k.add (.plain (CharSet.single '-'))) rest
  | rest => (k, rest)
termination_by s.length
decreasing_by
  exact lt_of_eq_cons (length_skipIgnored_le modes s) _h

theorem takeHyphens_le (modes : Modes) (k : OpenClass) (s : List Char) :
    (takeHyphens modes k s).2.length ≤ s.length := by
  fun_induction takeHyphens modes k s with
  | case1 k s rest h ih =>
    have := length_skipIgnored_le modes s
    rw [h, List.length_cons] at this
    omega
  | case2 k s => exact length_skipIgnored_le modes s

/-- The start of a class: whether it is negated, and a bracket or hyphens that stand for themselves. -/
def openClass (modes : Modes) (s : List Char) : Reading s (Bool × OpenClass) :=
  have le := length_skipIgnored_le modes s
  let negated := (skipIgnored modes s).head? = some '^'
  let inner := if negated then (skipIgnored modes s).drop 1 else skipIgnored modes s
  have innerLe : inner.length ≤ s.length := by
    simp only [inner]
    split
    · simp only [List.length_drop]; omega
    · exact le
  have restLe := takeHyphens_le modes (.start none) inner
  match h : takeHyphens modes (.start none) inner with
  | (k, ']' :: after) =>
    if k.items = 0 then
      ⟨(negated, k.add (.plain (CharSet.single ']'))), after, by
        rw [h] at restLe; simp only [List.length_cons] at restLe; omega⟩
    else ⟨(negated, k), ']' :: after, by rw [h] at restLe; exact Nat.le_trans restLe innerLe⟩
  | (k, rest) => ⟨(negated, k), rest, by rw [h] at restLe; exact Nat.le_trans restLe innerLe⟩

mutual

def readClass (modes : Modes) (s : List Char) : Option (Taken s CharClass) :=
  let start := openClass modes s
  have := start.le
  match readClassItems modes start.value.2 start.rest with
  | none => none
  | some t =>
    let folded := foldSet modes t.value.set
    (if start.value.1 then complement? modes folded else some folded).map fun set =>
      ⟨⟨set, t.value.nesting + 1⟩, t.rest, Nat.lt_of_lt_of_le t.shorter this⟩
termination_by 2 * s.length + 1
decreasing_by
  have := (openClass modes s).le
  omega

def readClassItems (modes : Modes) (k : OpenClass) (s : List Char) : Option (Taken s CharClass) :=
  have le := length_skipIgnored_le modes s
  match h : skipIgnored modes s with
  | [] => none
  | c :: rest =>
    have shorter := lt_of_eq_cons le h
    have whole : (c :: rest).length ≤ s.length := shorter
    if c = ']' then some ⟨k.total modes, rest, shorter⟩
    else if c = '[' then
      match readAsciiClass rest with
      | some t =>
        have after := Nat.lt_trans t.shorter shorter
        let folded := foldSet modes t.value.2
        match if t.value.1 then complement? modes folded else some folded with
        | none => none
        | some set =>
          (readClassItems modes (k.add (.plain set)) t.rest).map (·.widen (Nat.le_of_lt after))
      | none =>
        match readClass modes rest with
        | none => none
        | some t =>
          have after := Nat.lt_trans t.shorter shorter
          (readClassItems modes (k.add t.value) t.rest).map (·.widen (Nat.le_of_lt after))
    else
      match rest.head?.bind (setOperator? c ·) with
      | some operator =>
        have after : (rest.drop 1).length < s.length :=
          Nat.lt_of_le_of_lt (List.length_drop ▸ Nat.sub_le ..) shorter
        (readClassItems modes (k.operate modes operator) (rest.drop 1)).map
          (·.widen (Nat.le_of_lt after))
      | none =>
        match readClassRange modes (c :: rest) with
        | none => none
        | some t =>
          have after := Nat.lt_of_lt_of_le t.shorter whole
          (readClassItems modes (k.add (.plain t.value)) t.rest).map (·.widen (Nat.le_of_lt after))
termination_by 2 * s.length
decreasing_by all_goals omega

end

end PathQuery.RegexReader
