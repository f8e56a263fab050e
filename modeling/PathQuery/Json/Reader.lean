import PathQuery.Json.Number
import PathQuery.Json.Quoted

/-!
Reading JSON text. Blanks are space, tab, line feed and carriage return; at most 127 containers may be
open at once; of two members with one name the first gives the place and the last the value.
-/
namespace PathQuery.Json

def isBlank (c : Char) : Bool := c = ' ' || c = '\t' || c = '\n' || c = '\r'

def skipBlank (s : List Char) : List Char := s.dropWhile isBlank

theorem length_skipBlank_le (s : List Char) : (skipBlank s).length ≤ s.length :=
  (List.dropWhile_suffix _).length_le

def skipDigits (s : List Char) : List Char := s.dropWhile Numeral.isDigit

theorem length_skipDigits_le (s : List Char) : (skipDigits s).length ≤ s.length :=
  (List.dropWhile_suffix _).length_le

/-- One zero, or digits that do not start with a zero. -/
def readWhole (s : List Char) : Except Fault (List Char × List Char) :=
  match s with
  | [] => .error ⟨.endInValue, s⟩
  | c :: rest =>
    if c = '0' then
      if rest.head?.any Numeral.isDigit then .error ⟨.invalidNumber, rest⟩ else .ok ([c], rest)
    else if Numeral.isDigit c then .ok (c :: rest.takeWhile Numeral.isDigit, skipDigits rest)
    else .error ⟨.invalidNumber, s⟩

theorem readWhole_shorter {s : List Char} {r : List Char × List Char} (h : readWhole s = .ok r) :
    r.2.length < s.length := by
  unfold readWhole at h
  split at h
  · cases h
  · have := length_skipDigits_le ‹List Char›
    split at h
    · split at h <;> cases h
      simp
    · split at h <;> cases h
      simp only [List.length_cons]
      omega

def readDigits (s : List Char) : Except Fault (List Char × List Char) :=
  match s with
  | [] => .error ⟨.endInValue, s⟩
  | c :: rest =>
    if Numeral.isDigit c then .ok (c :: rest.takeWhile Numeral.isDigit, skipDigits rest)
    else .error ⟨.invalidNumber, s⟩

theorem readDigits_shorter {s : List Char} {r : List Char × List Char} (h : readDigits s = .ok r) :
    r.2.length < s.length := by
  unfold readDigits at h
  split at h
  · cases h
  · have := length_skipDigits_le ‹List Char›
    split at h <;> cases h
    simp only [List.length_cons]
    omega

def readFraction (s : List Char) : Except Fault (Option (List Char) × List Char) :=
  match s with
  | '.' :: rest => (readDigits rest).map fun r => (some r.1, r.2)
  | _ => .ok (none, s)

theorem readFraction_le {s : List Char} {r : Option (List Char) × List Char}
    (h : readFraction s = .ok r) : r.2.length ≤ s.length := by
  unfold readFraction at h
  split at h
  · rename_i rest
    cases e : readDigits rest with
    | error f => simp [e, Except.map] at h
    | ok d =>
      have := readDigits_shorter e
      simp only [e, Except.map, Except.ok.injEq] at h
      subst h
      simp only [List.length_cons]
      omega
  · cases h
    exact Nat.le_refl _

def takeSign : List Char → Bool × List Char
  | '+' :: rest => (false, rest)
  | '-' :: rest => (true, rest)
  | rest => (false, rest)

theorem takeSign_le (s : List Char) : (takeSign s).2.length ≤ s.length := by
  unfold takeSign
  split <;> simp

def readExponent (s : List Char) : Except Fault (Option Int × List Char) :=
  match s with
  | [] => .ok (none, s)
  | c :: rest =>
    if c = 'e' ∨ c = 'E' then
      let (negative, rest) := takeSign rest
      (readDigits rest).map fun r =>
        let n : Int := Numeral.ofDigits r.1
        (some (if negative then -n else n), r.2)
    else .ok (none, s)

theorem readExponent_le {s : List Char} {r : Option Int × List Char} (h : readExponent s = .ok r) :
    r.2.length ≤ s.length := by
  unfold readExponent at h
  split at h
  · cases h
    exact Nat.le_refl _
  · rename_i c rest
    split at h
    · have sign := takeSign_le rest
      cases e : readDigits (takeSign rest).2 with
      | error f => simp [e, Except.map] at h
      | ok d =>
        have := readDigits_shorter e
        simp only [e, Except.map, Except.ok.injEq] at h
        subst h
        simp only [List.length_cons]
        omega
    · cases h
      exact Nat.le_refl _

def readNumber (negative : Bool) (s : List Char) : Except Fault (Taken s Json) :=
  match hw : readWhole s with
  | .error fault => .error fault
  | .ok (whole, afterWhole) =>
    match hf : readFraction afterWhole with
    | .error fault => .error fault
    | .ok (fraction, afterFraction) =>
      match he : readExponent afterFraction with
      | .error fault => .error fault
      | .ok (exponent, rest) =>
        match ofWritten? ⟨negative, whole, fraction, exponent⟩ with
        | none => .error ⟨.numberOutOfRange, rest⟩
        | some json =>
          .ok ⟨json, rest, by
            have a := readWhole_shorter hw
            have b := readFraction_le hf
            have c := readExponent_le he
            simp only at a b c
            omega⟩

/-- What follows a word, of which each letter must be there. -/
def readWord (word s : List Char) : Except Fault (List Char) :=
  match word, s with
  | [], s => .ok s
  | _ :: _, [] => .error ⟨.endInValue, []⟩
  | w :: word, c :: rest => if c = w then readWord word rest else .error ⟨.expectedWord, c :: rest⟩

theorem readWord_le {word s rest : List Char} (h : readWord word s = .ok rest) :
    rest.length ≤ s.length := by
  induction word generalizing s with
  | nil =>
    rw [readWord] at h
    cases h
    exact Nat.le_refl _
  | cons w word ih =>
    cases s with
    | nil => cases h
    | cons c s =>
      rw [readWord] at h
      split at h
      · exact Nat.le_succ_of_le (ih h)
      · cases h

def readConstant (word : List Char) (json : Json) (s : List Char) : Except Fault (Taken s Json) :=
  match s with
  | [] => .error ⟨.endInValue, s⟩
  | _ :: rest =>
    match h : readWord word rest with
    | .error fault => .error fault
    | .ok after => .ok ⟨json, after, Nat.lt_succ_of_le (readWord_le h)⟩

def readColon (s : List Char) : Except Fault (Taken s Unit) :=
  match h : skipBlank s with
  | ':' :: rest => .ok ⟨(), rest, lt_of_eq_cons (length_skipBlank_le s) h⟩
  | [] => .error ⟨.endInObject, []⟩
  | rest => .error ⟨.expectedColon, rest⟩

mutual

def readValue (room : Nat) (s : List Char) : Except Fault (Taken s Json) :=
  match s with
  | [] => .error ⟨.endInValue, []⟩
  | c :: rest =>
    if c = 'n' then readConstant "ull".toList .null (c :: rest)
    else if c = 't' then readConstant "rue".toList (.boolean true) (c :: rest)
    else if c = 'f' then readConstant "alse".toList (.boolean false) (c :: rest)
    else if c = '-' then (readNumber true rest).map (·.widen (Nat.le_succ _))
    else if Numeral.isDigit c then readNumber false (c :: rest)
    else if c = '"' then
      (readString rest).map fun t => ⟨.string t.value, t.rest, Nat.lt_succ_of_lt t.shorter⟩
    else if c = '[' then
      if room = 0 then .error ⟨.tooDeep, c :: rest⟩
      else
        match h : skipBlank rest with
        | [] => .error ⟨.endInArray, []⟩
        | d :: inner =>
          have whole : (d :: inner).length < (c :: rest).length :=
            Nat.lt_succ_of_le (h ▸ length_skipBlank_le rest)
          if d = ']' then .ok ⟨.array [], inner, Nat.lt_of_succ_lt whole⟩
          else
            (readItems (room - 1) (d :: inner)).map fun t =>
              ⟨.array t.value, t.rest, Nat.lt_trans t.shorter whole⟩
    else if c = '\x7b' then
      if room = 0 then .error ⟨.tooDeep, c :: rest⟩
      else
        match h : skipBlank rest with
        | [] => .error ⟨.endInObject, []⟩
        | d :: inner =>
          have whole : (d :: inner).length < (c :: rest).length :=
            Nat.lt_succ_of_le (h ▸ length_skipBlank_le rest)
          if d = '\x7d' then .ok ⟨.object [], inner, Nat.lt_of_succ_lt whole⟩
          else
            (readMembers (room - 1) [] (d :: inner)).map fun t =>
              ⟨.object t.value, t.rest, Nat.lt_trans t.shorter whole⟩
    else .error ⟨.expectedValue, c :: rest⟩
termination_by 2 * s.length
decreasing_by all_goals omega

/-- The items from the one at the front of the text to the closing bracket. -/
def readItems (room : Nat) (s : List Char) : Except Fault (Taken s (List Json)) :=
  match readValue room s with
  | .error fault => .error fault
  | .ok item =>
    match h : skipBlank item.rest with
    | [] => .error ⟨.endInArray, []⟩
    | c :: rest =>
      have shorter := Nat.lt_trans (lt_of_eq_cons (length_skipBlank_le item.rest) h) item.shorter
      if c = ']' then .ok ⟨[item.value], rest, shorter⟩
      else if c = ',' then
        match e : skipBlank rest with
        | [] => .error ⟨.endInValue, []⟩
        | d :: next =>
          have whole : (d :: next).length < s.length :=
            Nat.lt_of_le_of_lt (e ▸ length_skipBlank_le rest) shorter
          if d = ']' then .error ⟨.trailingComma, d :: next⟩
          else
            (readItems room (d :: next)).map fun t =>
              ⟨item.value :: t.value, t.rest, Nat.lt_trans t.shorter whole⟩
      else .error ⟨.expectedCommaOrBracket, c :: rest⟩
termination_by 2 * s.length + 1
decreasing_by all_goals omega

/-- The members from the one at the front of the text to the closing brace, after those in `seen`. -/
def readMembers (room : Nat) (seen : List (String × Json)) (s : List Char) :
    Except Fault (Taken s (List (String × Json))) :=
  match s with
  | [] => .error ⟨.endInValue, []⟩
  | c :: inName =>
    if c = '"' then
      match readString inName with
      | .error fault => .error fault
      | .ok name =>
        match readColon name.rest with
        | .error fault => .error fault
        | .ok colon =>
          have valueShorter : (skipBlank colon.rest).length < (c :: inName).length :=
            Nat.lt_of_le_of_lt (length_skipBlank_le colon.rest)
              (Nat.lt_trans colon.shorter (Nat.lt_succ_of_lt name.shorter))
          match readValue room (skipBlank colon.rest) with
          | .error fault => .error fault
          | .ok value =>
            let members := put name.value value.value seen
            match h : skipBlank value.rest with
            | [] => .error ⟨.endInObject, []⟩
            | d :: rest =>
              have shorter := Nat.lt_trans (lt_of_eq_cons (length_skipBlank_le value.rest) h)
                (Nat.lt_trans value.shorter valueShorter)
              if d = '\x7d' then .ok ⟨members, rest, shorter⟩
              else if d = ',' then
                match f : skipBlank rest with
                | [] => .error ⟨.endInValue, []⟩
                | e :: next =>
                  have whole : (e :: next).length < (c :: inName).length :=
                    Nat.lt_of_le_of_lt (f ▸ length_skipBlank_le rest) shorter
                  if e = '\x7d' then .error ⟨.trailingComma, e :: next⟩
                  else
                    (readMembers room members (e :: next)).map fun t =>
                      ⟨t.value, t.rest, Nat.lt_trans t.shorter whole⟩
              else .error ⟨.expectedCommaOrBrace, d :: rest⟩
    else .error ⟨.nameNotString, c :: inName⟩
termination_by 2 * s.length
decreasing_by all_goals omega

end

def readAll (s : List Char) : Except Fault Json :=
  match readValue 127 (skipBlank s) with
  | .error fault => .error fault
  | .ok taken =>
    match skipBlank taken.rest with
    | [] => .ok taken.value
    | rest => .error ⟨.trailingCharacters, rest⟩

def parse (text : String) : Except ReadError Json :=
  (readAll text.toList).mapError (.ofFault text.toList)

end PathQuery.Json
