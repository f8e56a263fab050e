import PathQuery.Decimal.Written
import PathQuery.Path.Pattern
import PathQuery.Path.SyntaxError
import PathQuery.Text.Quoted
import PathQuery.Unicode.Alphabetic

/-!
The pieces of a path that hold no others: quoted strings, patterns, numbers, constants and relations.
Each reader starts at its piece and says what it found and what is left.
-/
namespace PathQuery.Lexeme

def skipSpaces (s : List Char) : List Char := s.dropWhile (· == ' ')

theorem length_skipSpaces_le (s : List Char) : (skipSpaces s).length ≤ s.length :=
  (List.dropWhile_suffix _).length_le

/-- The characters up to the closing quote, after those in `seen`, which come in reverse. A backslash
at the very end stands for itself. -/
def quotedChars (quote : Char) (seen : List Char) :
    List Char → Except SyntaxFault (List Char × List Char)
  | [] => .error ⟨.openString, []⟩
  | [c] => if c = quote then .ok (seen.reverse, []) else .error ⟨.openString, []⟩
  | c :: e :: rest =>
    if c = quote then .ok (seen.reverse, e :: rest)
    else if c = '\\' then
      match Quoted.unletter? e with
      | some x => quotedChars quote (x :: seen) rest
      | none => .error ⟨.unknownEscape e, e :: rest⟩
    else quotedChars quote (c :: seen) (e :: rest)

theorem quotedChars_shorter {quote : Char} {seen s : List Char} {r : List Char × List Char}
    (h : quotedChars quote seen s = .ok r) : r.2.length < s.length := by
  fun_induction quotedChars quote seen s with
  | case1 => cases h
  | case2 => cases h; simp
  | case3 => cases h
  | case4 => cases h; simp
  | case5 =>
    rename_i ih
    have := ih h
    simp only [List.length_cons]
    omega
  | case6 => cases h
  | case7 =>
    rename_i ih
    have := ih h
    simp only [List.length_cons] at this ⊢
    omega

def readQuoted (quote : Char) (s : List Char) : Except SyntaxFault (Taken s String) :=
  match h : quotedChars quote [] s with
  | .error fault => .error fault
  | .ok (cs, rest) => .ok ⟨String.ofList cs, rest, quotedChars_shorter h⟩

/-- The source of a pattern up to its closing slash, after what is in `seen` in reverse. A slash behind
a backslash is part of the source; any other pair of that kind stays a pair. -/
def patternChars (seen : List Char) : List Char → Option (List Char × List Char)
  | [] => none
  | [c] => if c = '/' then some (seen.reverse, []) else none
  | c :: e :: rest =>
    if c = '/' then some (seen.reverse, e :: rest)
    else if c = '\\' then
      if e = '/' then patternChars ('/' :: seen) rest else patternChars (e :: '\\' :: seen) rest
    else patternChars (c :: seen) (e :: rest)

theorem patternChars_shorter {seen s : List Char} {r : List Char × List Char}
    (h : patternChars seen s = some r) : r.2.length < s.length := by
  fun_induction patternChars seen s with
  | case1 => cases h
  | case2 => cases h; simp
  | case3 => cases h
  | case4 => cases h; simp
  | case5 =>
    rename_i ih
    have := ih h
    simp only [List.length_cons]
    omega
  | case6 =>
    rename_i ih
    have := ih h
    simp only [List.length_cons]
    omega
  | case7 =>
    rename_i ih
    have := ih h
    simp only [List.length_cons] at this ⊢
    omega

/-- A pattern from behind its opening slash. All letters behind the closing slash belong to it, and
those that are no flags are dropped. -/
def readPattern (s : List Char) : Except SyntaxFault (Taken s Pattern) :=
  match h : patternChars [] s with
  | none => .error ⟨.openPattern, []⟩
  | some (source, rest) =>
    let flags := (rest.takeWhile Unicode.isAlphabetic).filter Pattern.isFlag
    .ok ⟨⟨String.ofList source, String.ofList flags⟩, rest.dropWhile Unicode.isAlphabetic, by
      have shorter := patternChars_shorter h
      have := (List.dropWhile_suffix (l := rest) Unicode.isAlphabetic).length_le
      simp only at shorter
      omega⟩

def takeDigits (s : List Char) : List Char × List Char :=
  (s.takeWhile Numeral.isDigit, s.dropWhile Numeral.isDigit)

/-- A sign, if there is one: whether it is negative, and what follows. -/
def takeSign : List Char → Bool × List Char
  | [] => (false, [])
  | c :: rest => if c = '-' then (true, rest) else if c = '+' then (false, rest) else (false, c :: rest)

/-- The digits of a number before its exponent: whole digits with an optional point and optional
digits behind it, or a point and digits. -/
def takeMantissa? (s : List Char) : Option (List Char × Option (List Char) × List Char) :=
  let (whole, afterWhole) := takeDigits s
  match afterWhole with
  | '.' :: rest =>
    let (fraction, afterFraction) := takeDigits rest
    if whole.isEmpty && fraction.isEmpty then none else some (whole, some fraction, afterFraction)
  | _ => if whole.isEmpty then none else some (whole, none, afterWhole)

/-- The exponent, if there is a mark for one; digits must follow the mark. -/
def takeExponent? (s : List Char) : Option (Option Int × List Char) :=
  match s with
  | [] => some (none, [])
  | c :: rest =>
    if c = 'e' ∨ c = 'E' then
      let (negative, afterSign) := takeSign rest
      let (digits, afterDigits) := takeDigits afterSign
      if digits.isEmpty then none
      else
        let n : Int := Numeral.ofDigits digits
        some (some (if negative then -n else n), afterDigits)
    else some (none, s)

def takeNumber? (s : List Char) : Option (WrittenNumber × List Char) :=
  let (negative, afterSign) := takeSign s
  match takeMantissa? afterSign with
  | none => none
  | some (whole, fraction, afterMantissa) =>
    match takeExponent? afterMantissa with
    | none => none
    | some (exponent, rest) => some (⟨negative, whole, fraction, exponent⟩, rest)

/-- A whole number that fits 64 bits is an integer; every other number is a double. -/
def numberValue (w : WrittenNumber) : Scalar :=
  match if w.isWhole then int64? w.signedWhole else none with
  | some i => .integer i
  | none => .double w.nearestDouble

theorem takeDigits_le (s : List Char) : (takeDigits s).2.length ≤ s.length :=
  (List.dropWhile_suffix _).length_le

theorem takeDigits_lt {s : List Char} (h : (takeDigits s).1.isEmpty = false) :
    (takeDigits s).2.length < s.length := by
  have whole := congrArg List.length (List.takeWhile_append_dropWhile (p := Numeral.isDigit) (l := s))
  have : 0 < (s.takeWhile Numeral.isDigit).length := by
    rw [List.length_pos_iff]
    intro e
    simp [takeDigits, e] at h
  simp only [List.length_append] at whole
  simp only [takeDigits]
  omega

theorem takeSign_le (s : List Char) : (takeSign s).2.length ≤ s.length := by
  unfold takeSign
  split
  · simp
  · split
    · simp
    · split <;> simp

theorem takeMantissa_lt {s rest whole : List Char} {fraction : Option (List Char)}
    (h : takeMantissa? s = some (whole, fraction, rest)) : rest.length < s.length := by
  unfold takeMantissa? at h
  have le := takeDigits_le s
  simp only at h
  split at h
  · rename_i inner e
    have := takeDigits_le inner
    rw [e, List.length_cons] at le
    split at h
    · cases h
    · cases h
      omega
  · split at h
    · cases h
    · rename_i ne
      cases h
      exact takeDigits_lt (by simpa using ne)

theorem takeExponent_le {s rest : List Char} {exponent : Option Int}
    (h : takeExponent? s = some (exponent, rest)) : rest.length ≤ s.length := by
  unfold takeExponent? at h
  split at h
  · cases h
    exact Nat.le_refl _
  · rename_i c inner
    have sign := takeSign_le inner
    have digits := takeDigits_le (takeSign inner).2
    split at h
    · simp only at h
      split at h
      · cases h
      · cases h
        simp only [List.length_cons]
        omega
    · cases h
      exact Nat.le_refl _

theorem takeNumber_lt {s rest : List Char} {w : WrittenNumber}
    (h : takeNumber? s = some (w, rest)) : rest.length < s.length := by
  unfold takeNumber? at h
  have sign := takeSign_le s
  simp only at h
  split at h
  · cases h
  · rename_i mantissa
    have := takeMantissa_lt mantissa
    split at h
    · cases h
    · rename_i exponent
      have := takeExponent_le exponent
      cases h
      omega

def readNumber (s : List Char) : Except SyntaxFault (Taken s Scalar) :=
  match h : takeNumber? s with
  | none => .error ⟨.unexpectedInQuery (s.headD '-'), s⟩
  | some (w, rest) => .ok ⟨numberValue w, rest, takeNumber_lt h⟩

/-- What follows a word at the front of a text. -/
def afterWord? : (word s : List Char) → Option (List Char)
  | [], s => some s
  | _ :: _, [] => none
  | w :: word, c :: s => if w = c then afterWord? word s else none

theorem afterWord_length {word s rest : List Char} (h : afterWord? word s = some rest) :
    rest.length + word.length = s.length := by
  fun_induction afterWord? word s with
  | case1 => cases h; rfl
  | case2 => cases h
  | case3 w word s ih =>
    have := ih h
    simp only [List.length_cons]
    omega
  | case4 => cases h

/-- The first of some words that stands at the front of a text, with what it means. -/
def readWord? {α : Type} (s : List Char) : (words : List (List Char × α)) → Option (Taken s α)
  | [] => none
  | (word, value) :: words =>
    match h : afterWord? word s with
    | some rest =>
      if nonempty : 0 < word.length then
        some ⟨value, rest, by have := afterWord_length h; omega⟩
      else none
    | none => readWord? s words

def constants : List (List Char × Scalar) :=
  [("true".toList, .boolean true), ("false".toList, .boolean false), ("null".toList, .null)]

/-- The relations, a longer spelling before its own beginning. -/
def relations : List (List Char × Relation) :=
  [("===".toList, .strictEq), ("==".toList, .looseEq), ("=~".toList, .matching),
    ("!==".toList, .strictNe), ("!=".toList, .looseNe), ("<>".toList, .looseNe),
    ("<=".toList, .lessEq), ("<".toList, .less), (">=".toList, .greaterEq), (">".toList, .greater)]

/-- A relation; with fewer than two characters left the text counts as ended. -/
def readRelation (s : List Char) : Except SyntaxFault (Taken s Relation) :=
  match s with
  | [] | [_] => .error ⟨.openQuery, s⟩
  | a :: b :: rest =>
    match readWord? (a :: b :: rest) relations with
    | some relation => .ok relation
    | none => .error ⟨.unreadableRelation, a :: b :: rest⟩

end PathQuery.Lexeme
