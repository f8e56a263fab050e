import PathQuery.Document.Place
import PathQuery.Path.Basic

/-!
Why a path cannot be followed. Only a stride of zero and a faulty pattern are errors in every case;
that nothing matches is an error if the caller says so. Why a pattern is faulty is not recorded.
-/
namespace PathQuery

/-- Where in the document a node sits that did not match. -/
structure Location where
  place : String
  line : Option LineInfo
deriving DecidableEq, Repr

inductive SelectError where
  | noProperty (name : String) (location : Location)
  /-- Without a name all properties were asked for. -/
  | propertyNotValid (name : Option String) (type : NodeType) (location : Location)
  | propertiesNotValid (names : List String) (type : NodeType) (location : Location)
  | indexOutOfBounds (index : Int32) (type : NodeType) (location : Location)
  /-- Without an index all items were asked for. -/
  | indexNotValid (index : Option Int32) (type : NodeType) (location : Location)
  | emptySlice (start stop : Option Int32) (location : Location)
  | sliceNotValid (type : NodeType) (location : Location)
  | zeroStep
  /-- Only the pattern is kept; the explanation of an expression engine is not part of the error. -/
  | invalidPattern (source : String)
  | multipleNodes
deriving DecidableEq, Repr

namespace Location

/-- Nothing for the root of a document whose lines are not known. -/
def text (l : Location) : String :=
  if l.place = "" ∧ l.line.isNone then ""
  else
    let line := match l.line with
      | some at_ => ", line " ++ Numeral.text at_.line ++ ", position " ++ Numeral.text at_.position
      | none => ""
    " Path '" ++ l.place ++ "'" ++ line ++ "."

end Location

namespace SelectError

def indexText (index : Option Int32) : String :=
  match index with
  | some i => Numeral.intText i.toInt
  | none => "*"

def message : SelectError → String
  | noProperty name location =>
    "Property '" ++ name ++ "' does not exist on object." ++ location.text
  | propertyNotValid name type location =>
    "Property '" ++ name.getD "*" ++ "' not valid on " ++ type.text ++ "." ++ location.text
  | propertiesNotValid names type location =>
    "Properties " ++ ", ".intercalate (names.map fun name => "'" ++ name ++ "'") ++ " not valid on " ++
      type.text ++ "." ++ location.text
  | indexOutOfBounds index type location =>
    "Index " ++ indexText index ++ " outside the bounds of " ++ type.text ++ "." ++ location.text
  | indexNotValid index type location =>
    "Index " ++ indexText index ++ " not valid on " ++ type.text ++ "." ++ location.text
  | emptySlice start stop location =>
    "Array slice of " ++ indexText start ++ " to " ++ indexText stop ++ " returned no results." ++
      location.text
  | sliceNotValid type location => "Array slice is not valid on " ++ type.text ++ "." ++ location.text
  | zeroStep => "Step cannot be zero."
  -- In full a colon and the explanation would follow, in the words of the expression engine.
  | invalidPattern source => "Invalid regex /" ++ source ++ "/."
  | multipleNodes => "Path returned multiple tokens."

end SelectError

def Document.location (doc : Document) (n : Nat) : Location := ⟨doc.placeText n, doc.line? n⟩

end PathQuery
