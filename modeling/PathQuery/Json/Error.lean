import PathQuery.Text.Taken

/-!
Why a text is not JSON, and where. A fault is either that the text ended too early or that something
else stands where it may not.
-/
namespace PathQuery.Json

inductive ReadCause where
  | endInArray
  | endInObject
  | endInString
  | endInValue
  | expectedColon
  | expectedCommaOrBracket
  | expectedCommaOrBrace
  | expectedWord
  | expectedValue
  | invalidEscape
  | invalidNumber
  | numberOutOfRange
  | controlCharacter
  | nameNotString
  | loneSurrogate
  | unfinishedSurrogate
  | trailingComma
  | trailingCharacters
  | tooDeep
deriving DecidableEq, Repr

namespace ReadCause

/-- Whether a longer text could still have been JSON. -/
def isEnd : ReadCause → Bool
  | endInArray | endInObject | endInString | endInValue => true
  | _ => false

def message : ReadCause → String
  | endInArray => "EOF while parsing a list"
  | endInObject => "EOF while parsing an object"
  | endInString => "EOF while parsing a string"
  | endInValue => "EOF while parsing a value"
  | expectedColon => "expected `:`"
  | expectedCommaOrBracket => "expected `,` or `]`"
  | expectedCommaOrBrace => "expected `,` or `\x7d`"
  | expectedWord => "expected ident"
  | expectedValue => "expected value"
  | invalidEscape => "invalid escape"
  | invalidNumber => "invalid number"
  | numberOutOfRange => "number out of range"
  | controlCharacter => "control character (\\u0000-\\u001F) found while parsing a string"
  | nameNotString => "key must be a string"
  | loneSurrogate => "lone leading surrogate in hex escape"
  | unfinishedSurrogate => "unexpected end of hex escape"
  | trailingComma => "trailing comma"
  | trailingCharacters => "trailing characters"
  | tooDeep => "recursion limit exceeded"

end ReadCause

/-- A cause and the text from the offending character on. -/
structure Fault where
  cause : ReadCause
  rest : List Char

/-- A cause with its place: the line, and the bytes of that line up to the offending one. -/
structure ReadError where
  cause : ReadCause
  line : Nat
  column : Nat
deriving DecidableEq, Repr

namespace ReadError

def message (e : ReadError) : String :=
  e.cause.message ++ " at line " ++ toString e.line ++ " column " ++ toString e.column

/-- Places a fault in the text that was read. -/
def ofFault (text : List Char) (fault : Fault) : ReadError :=
  let before := text.take (text.length - fault.rest.length)
  let lastLine := (before.reverse.takeWhile (· ≠ '\n')).reverse
  { cause := fault.cause
    line := before.count '\n' + 1
    column := utf8Length lastLine + (if fault.rest.isEmpty then 0 else 1) }

end ReadError
end PathQuery.Json
