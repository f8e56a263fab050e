import PathQuery.Text.Taken

/-!
Why a text is not a path, and where: the place is counted in bytes from the start of the text.
-/
namespace PathQuery

inductive SyntaxCause where
  | unexpectedInPath (c : Char)
  | unexpectedAfterIndexer (c : Char)
  | unexpectedEnd
  | unexpectedInIndexer (c : Char)
  | openIndexer
  | indexExpected
  | invalidIndex (segment : List Char)
  | openString
  | unknownEscape (c : Char)
  | openPattern
  | openQuery
  | unexpectedInQuery (c : Char)
  | unreadableRelation
deriving DecidableEq, Repr

def SyntaxCause.message : SyntaxCause → String
  | unexpectedInPath c => "Unexpected character while parsing path: " ++ c.toString
  | unexpectedAfterIndexer c => "Unexpected character following indexer: " ++ c.toString
  | unexpectedEnd => "Unexpected end while parsing path."
  | unexpectedInIndexer c => "Unexpected character while parsing path indexer: " ++ c.toString
  | openIndexer => "Path ended with open indexer."
  | indexExpected => "Array index expected."
  | invalidIndex segment => "Invalid array index: " ++ String.ofList segment
  | openString => "Path ended with an open string."
  | unknownEscape c => "Unknown escape character: \\" ++ c.toString
  | openPattern => "Path ended with an open regex."
  | openQuery => "Path ended with open query."
  | unexpectedInQuery c => "Unexpected character while parsing path query: " ++ c.toString
  | unreadableRelation => "Could not read query operator."

/-- A cause and the text from the place on where it was found. -/
structure SyntaxFault where
  cause : SyntaxCause
  rest : List Char

structure SyntaxError where
  cause : SyntaxCause
  position : Nat
deriving DecidableEq, Repr

namespace SyntaxError

def ofFault (text : List Char) (fault : SyntaxFault) : SyntaxError :=
  ⟨fault.cause, utf8Length text - utf8Length fault.rest⟩

def message (e : SyntaxError) : String :=
  "at position " ++ toString e.position ++ ", " ++ e.cause.message

end SyntaxError
end PathQuery
