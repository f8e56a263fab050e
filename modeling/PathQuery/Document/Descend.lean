import PathQuery.Document.Navigate

/-!
All nodes below a node in document order. The walk needs no stack: from a node without children it
goes back up until there is a next sibling, and it stops at the node from which it started.
-/
namespace PathQuery.Document

/-- The next sibling of the node or of the nearest ancestor below `origin` that has one. Parents are
older than their children, so the climb ends. -/
def climb (doc : Document) (origin n : Nat) : Option Nat :=
  if n = origin then none
  else
    match doc.next? n with
    | some m => some m
    | none =>
      match doc.parent? n with
      | some p => if p < n then climb doc origin p else none
      | none => none
termination_by n

/-- The node that comes after `n` below `origin`. -/
def advance (doc : Document) (origin n : Nat) : Option Nat :=
  match doc.first? n with
  | some c => some c
  | none => doc.climb origin n

/-- The walk from `n` on, cut after `fuel` nodes. -/
def walk (doc : Document) (origin : Nat) : (fuel : Nat) → Nat → List Nat
  | 0, _ => []
  | fuel + 1, n =>
    match doc.advance origin n with
    | some m => m :: walk doc origin fuel m
    | none => []

/-- The nodes below `n`, properties included. No node comes twice, so the size of the document bounds
the walk. -/
def descendants (doc : Document) (n : Nat) : List Nat := doc.walk n doc.size n

end PathQuery.Document
