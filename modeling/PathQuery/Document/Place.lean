import PathQuery.Document.Navigate
import PathQuery.Path.Text

/-!
The place of a node in its document: the names and positions on the way down to it, and their text,
such as `a.b[0]['x y']`. A property has the place of its value.
-/
namespace PathQuery

/-- One turn on the way down. -/
inductive Turn where
  | name (name : String)
  | index (i : Nat)
deriving DecidableEq, Repr

/-- The text of a turn; `dot` says whether a plain name needs a dot in front of it. -/
def Turn.chars (dot : Bool) : Turn → List Char
  | name s => memberChars dot s
  | index i => '[' :: (Numeral.digits i ++ [']'])

/-- Only a name at the very front goes without a dot. -/
def placeChars : List Turn → List Char
  | [] => []
  | turn :: turns => turn.chars false ++ turns.flatMap (Turn.chars true)

namespace Document

/-- The turn from `p` to its child `n`; there is none from a property to its value. -/
def turn? (doc : Document) (p n : Nat) : Option Turn :=
  match doc.propertyName? n with
  | some name => some (.name name)
  | none => if doc.isProperty p then none else some (.index ((doc.values p).idxOf n))

/-- The turns from the root down to a node. -/
def turns (doc : Document) (n : Nat) : List Turn :=
  match doc.parent? n with
  | some p => if p < n then turns doc p ++ (doc.turn? p n).toList else []
  | none => []
termination_by n

def placeText (doc : Document) (n : Nat) : String := String.ofList (placeChars (doc.turns n))

/-- A node that holds no primitive, by its type and place. -/
def description? (doc : Document) (n : Nat) : Option String :=
  if (doc.value? n).isSome then none
  else some ((doc.nodeType n).text ++ "('" ++ doc.placeText n ++ "')")

end Document
end PathQuery
