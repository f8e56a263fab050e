import PathQuery.Json.Error

/-!
Reading the inside of a JSON string, from behind its opening quote to its closing one. Escapes above
U+FFFF come as a pair of surrogates, which must be complete.
-/
namespace PathQuery.Json

def hexValue? (c : Char) : Option Nat :=
  if '0' ≤ c ∧ c ≤ '9' then some (c.toNat - 48)
  else if 'a' ≤ c ∧ c ≤ 'f' then some (c.toNat - 87)
  else if 'A' ≤ c ∧ c ≤ 'F' then some (c.toNat - 55)
  else none

/-- Four hexadecimal digits. Fewer than four bytes of text count as its end. -/
def readHex (s : List Char) : Except Fault (Nat × List Char) :=
  match s with
  | a :: b :: c :: d :: rest =>
    match hexValue? a, hexValue? b, hexValue? c, hexValue? d with
    | some a, some b, some c, some d => .ok (((a * 16 + b) * 16 + c) * 16 + d, rest)
    | _, _, _, _ => .error ⟨.invalidEscape, s⟩
  | _ => .error (if utf8Length s < 4 then ⟨.endInString, []⟩ else ⟨.invalidEscape, s⟩)

def readLowSurrogate (high : Nat) (s : List Char) : Except Fault (Char × List Char) :=
  match s with
  | [] => .error ⟨.endInString, s⟩
  | '\\' :: [] => .error ⟨.endInString, []⟩
  | '\\' :: 'u' :: rest =>
    match readHex rest with
    | .error fault => .error fault
    | .ok (low, rest) =>
      if low < 0xDC00 ∨ 0xDFFF < low then .error ⟨.loneSurrogate, rest⟩
      else .ok (Char.ofNat (0x10000 + (high - 0xD800) * 0x400 + (low - 0xDC00)), rest)
  | _ => .error ⟨.unfinishedSurrogate, s⟩

def readEscape (s : List Char) : Except Fault (Char × List Char) :=
  match s with
  | [] => .error ⟨.endInString, s⟩
  | '"' :: rest => .ok ('"', rest)
  | '\\' :: rest => .ok ('\\', rest)
  | '/' :: rest => .ok ('/', rest)
  | 'b' :: rest => .ok ('\x08', rest)
  | 'f' :: rest => .ok ('\x0c', rest)
  | 'n' :: rest => .ok ('\n', rest)
  | 'r' :: rest => .ok ('\r', rest)
  | 't' :: rest => .ok ('\t', rest)
  | 'u' :: rest =>
    match readHex rest with
    | .error fault => .error fault
    | .ok (n, rest) =>
      if 0xDC00 ≤ n ∧ n ≤ 0xDFFF then .error ⟨.loneSurrogate, rest⟩
      else if 0xD800 ≤ n ∧ n ≤ 0xDBFF then readLowSurrogate n rest
      else .ok (Char.ofNat n, rest)
  | _ => .error ⟨.invalidEscape, s⟩

theorem readHex_shorter {s rest : List Char} {n : Nat} (h : readHex s = .ok (n, rest)) :
    rest.length < s.length := by
  unfold readHex at h
  split at h
  · split at h
    · simp only [Except.ok.injEq, Prod.mk.injEq] at h
      rw [← h.2]
      simp only [List.length_cons]
      omega
    · cases h
  · split at h <;> cases h

theorem readLowSurrogate_shorter {high : Nat} {s rest : List Char} {c : Char}
    (h : readLowSurrogate high s = .ok (c, rest)) : rest.length < s.length := by
  unfold readLowSurrogate at h
  split at h
  · cases h
  · cases h
  · split at h
    · cases h
    · rename_i hex
      have shorter := readHex_shorter hex
      split at h
      · cases h
      · simp only [Except.ok.injEq, Prod.mk.injEq] at h
        rw [← h.2]
        simp only [List.length_cons]
        omega
  · cases h

theorem readEscape_shorter {s rest : List Char} {c : Char} (h : readEscape s = .ok (c, rest)) :
    rest.length < s.length := by
  unfold readEscape at h
  split at h
  case h_10 =>
    split at h
    · cases h
    · rename_i hex
      have shorter := readHex_shorter hex
      split at h
      · cases h
      · split at h
        · have := readLowSurrogate_shorter h
          simp only [List.length_cons]
          omega
        · simp only [Except.ok.injEq, Prod.mk.injEq] at h
          rw [← h.2]
          simp only [List.length_cons]
          omega
  all_goals first
    | cases h; done
    | simp only [Except.ok.injEq, Prod.mk.injEq] at h
      simp [← h.2]

/-- The characters up to the closing quote, after those in `seen`, which come in reverse. -/
def readChars (seen : List Char) (s : List Char) : Except Fault (List Char × List Char) :=
  match s with
  | [] => .error ⟨.endInString, s⟩
  | c :: rest =>
    if c = '"' then .ok (seen.reverse, rest)
    else if c = '\\' then
      match h : readEscape rest with
      | .error fault => .error fault
      | .ok (e, rest) =>
        have := readEscape_shorter h
        readChars (e :: seen) rest
    else if c.toNat < 32 then .error ⟨.controlCharacter, s⟩
    else readChars (c :: seen) rest
termination_by s.length
decreasing_by all_goals simp only [List.length_cons]; omega

theorem readChars_shorter {seen s : List Char} {r : List Char × List Char}
    (h : readChars seen s = .ok r) : r.2.length < s.length := by
  induction hn : s.length using Nat.strongRecOn generalizing seen s with
  | _ n ih =>
    subst hn
    rw [readChars.eq_def] at h
    split at h
    · cases h
    · split at h
      · cases h
        simp
      · split at h
        · split at h
          · cases h
          · rename_i e
            have shorter := readEscape_shorter e
            have := ih _ (by simp only [List.length_cons]; omega) h rfl
            simp only [List.length_cons]
            omega
        · split at h
          · cases h
          · have := ih _ (by simp) h rfl
            simp only [List.length_cons]
            omega

def readString (s : List Char) : Except Fault (Taken s String) :=
  match h : readChars [] s with
  | .error fault => .error fault
  | .ok (cs, rest) => .ok ⟨String.ofList cs, rest, readChars_shorter h⟩

end PathQuery.Json
