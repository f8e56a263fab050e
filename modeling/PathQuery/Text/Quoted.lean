/-!
Names and strings in single quotes. The quote, the backslash and five control characters are written
as a backslash and a letter; reading also knows the escapes of the double quote and the slash.
-/
namespace PathQuery.Quoted

/-- The letter behind the backslash, for the characters that are written as an escape. -/
def letter? (c : Char) : Option Char :=
  if c = '\'' then some '\''
  else if c = '\\' then some '\\'
  else if c = '\x08' then some 'b'
  else if c = '\t' then some 't'
  else if c = '\n' then some 'n'
  else if c = '\x0c' then some 'f'
  else if c = '\r' then some 'r'
  else none

/-- The character that a letter behind a backslash stands for. -/
def unletter? (c : Char) : Option Char :=
  if c = 'b' then some '\x08'
  else if c = 't' then some '\t'
  else if c = 'n' then some '\n'
  else if c = 'f' then some '\x0c'
  else if c = 'r' then some '\r'
  else if c = '\\' ∨ c = '"' ∨ c = '\'' ∨ c = '/' then some c
  else none

def escaped (c : Char) : List Char :=
  match letter? c with
  | some l => ['\\', l]
  | none => [c]

def encode (cs : List Char) : List Char := '\'' :: (cs.flatMap escaped ++ ['\''])

theorem unletter_letter {c l : Char} (h : letter? c = some l) : unletter? l = some c := by
  unfold letter? at h
  repeat' split at h
  all_goals first
    | cases h; done
    | cases h; subst_vars; rfl

end PathQuery.Quoted
