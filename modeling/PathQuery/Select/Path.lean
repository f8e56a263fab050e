import PathQuery.Document.Json
import PathQuery.Path.Reader
import PathQuery.Select.Step

/-!
Selecting nodes by a path, as a row of nodes and errors, as a list or as at most one node; and by the
text of a path.
-/
namespace PathQuery

/-- Why a text selects nothing: it is no path, or its path cannot be followed. -/
inductive PathError where
  | unreadable (e : SyntaxError)
  | unmatched (e : SelectError)
deriving DecidableEq, Repr

def PathError.message : PathError → String
  | unreadable e => e.message
  | unmatched e => e.message

namespace Path

/-- The nodes and errors that a path leads to from `start`; `root` is what `$` means inside queries. -/
def evaluate (doc : Document) (path : Path) (root start : Nat) (strict : Bool) : List Item :=
  selectSteps doc root strict path.steps [.ok start]

def select (doc : Document) (path : Path) (start : Nat) (strict : Bool) :
    Except SelectError (List Nat) :=
  Select.collect (path.evaluate doc start start strict)

/-- The one node, if there is one. An error counts only as the first or second of the row; a second
node is an error. -/
def selectOne (doc : Document) (path : Path) (start : Nat) (strict : Bool) :
    Except SelectError (Option Nat) :=
  match path.evaluate doc start start strict with
  | [] => .ok none
  | .error e :: _ => .error e
  | [.ok n] => .ok (some n)
  | .ok _ :: .error e :: _ => .error e
  | .ok _ :: .ok _ :: _ => .error .multipleNodes

end Path

namespace Document

def selectText (doc : Document) (text : String) (start : Nat) (strict : Bool) :
    Except PathError (List Nat) := do
  let path ← (Path.parse text).mapError .unreadable
  (path.select doc start strict).mapError .unmatched

def selectTextOne (doc : Document) (text : String) (start : Nat) (strict : Bool) :
    Except PathError (Option Nat) := do
  let path ← (Path.parse text).mapError .unreadable
  (path.selectOne doc start strict).mapError .unmatched

end Document
end PathQuery
