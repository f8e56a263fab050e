import PathQuery.Decimal.Layout
import PathQuery.Json.Basic
import PathQuery.Scalar.Guid

/-!
The compact text of a JSON value: no spaces, and escapes only for the quote, the backslash and the
control characters below U+0020. NaN and the infinities have no JSON text and are written as null.
-/
namespace PathQuery.Json

/-- Doubles are written with the fewest digits that identify them, positionally from 10^-5 up to
10^16 and else with a signed exponent; of two equally near candidates the even one is taken. -/
def numberLayout : Layout := ⟨-5, 16, true, .toEven⟩

def doubleChars : Double → List Char
  | .nan => "null".toList
  | .number negative rank =>
    if rank.val = infinityRank then "null".toList
    else Layout.signed negative (numberLayout.ofMagnitude rank)

def shortEscape? (c : Char) : Option Char :=
  if c = '"' then some '"'
  else if c = '\\' then some '\\'
  else if c = '\x08' then some 'b'
  else if c = '\t' then some 't'
  else if c = '\n' then some 'n'
  else if c = '\x0c' then some 'f'
  else if c = '\r' then some 'r'
  else none

def escapedChar (c : Char) : List Char :=
  match shortEscape? c with
  | some letter => ['\\', letter]
  | none =>
    if c.toNat < 32 then
      ['\\', 'u', '0', '0', Guid.hexDigit (c.toNat / 16), Guid.hexDigit (c.toNat % 16)]
    else [c]

def quoted (s : String) : List Char := '"' :: (s.toList.flatMap escapedChar ++ ['"'])

mutual

def write (tail : List Char) : Json → List Char
  | null => "null".toList ++ tail
  | boolean b => (if b then "true".toList else "false".toList) ++ tail
  | integer i => (Numeral.intText i.toInt).toList ++ tail
  | unsigned n => Numeral.digits n.val.toNat ++ tail
  | double x => doubleChars x ++ tail
  | string s => quoted s ++ tail
  | array [] => '[' :: ']' :: tail
  | array (item :: items) => '[' :: write (writeItems tail items) item
  | object [] => '\x7b' :: '\x7d' :: tail
  | object ((name, value) :: members) =>
    '\x7b' :: (quoted name ++ ':' :: write (writeMembers tail members) value)

def writeItems (tail : List Char) : List Json → List Char
  | [] => ']' :: tail
  | item :: items => ',' :: write (writeItems tail items) item

def writeMembers (tail : List Char) : List (String × Json) → List Char
  | [] => '\x7d' :: tail
  | (name, value) :: members =>
    ',' :: (quoted name ++ ':' :: write (writeMembers tail members) value)

end

def text (json : Json) : String := String.ofList (json.write [])

end PathQuery.Json
