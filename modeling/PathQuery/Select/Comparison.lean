import PathQuery.Regex.Reader
import PathQuery.Select.Error

/-!
Comparisons of single values. Containers are only ever different; a pattern counts as its text, except
to the right of a match.
-/
namespace PathQuery

/-- One of the values that a side of a comparison stands for. -/
inductive Operand where
  | node (n : Nat)
  | literal (v : Scalar)
  | pattern (p : Pattern)

namespace Operand

def value? (doc : Document) : Operand → Option Scalar
  | node n => doc.value? n
  | literal v => some v
  | pattern p => some (.string p.text)

/-- The pattern that an operand is or, as a string, spells. -/
def pattern? (doc : Document) : Operand → Option Pattern
  | pattern p => some p
  | other => ((other.value? doc).bind Scalar.asString?).bind Pattern.ofText?

end Operand

/-- The text on the left in which a pattern is looked for; other values never match. -/
def matchesPattern (text : Option Scalar) (pattern : Pattern) : Except SelectError Bool :=
  match text with
  | some (.string s) =>
    match pattern.compile? with
    | some regex => .ok (regex.isFoundIn s.toList)
    | none => .error (.invalidPattern pattern.source)
  | _ => .ok false

namespace Relation

def holdsFor (left right : Scalar) : Relation → Bool
  | looseEq => left.looseEq right
  | looseNe => !left.looseEq right
  | strictEq => left.strictEq right
  | strictNe => !left.strictEq right
  | less => left.compare? right = some .lt
  | lessEq => left.compare? right = some .lt || left.compare? right = some .eq
  | greater => left.compare? right = some .gt
  | greaterEq => left.compare? right = some .gt || left.compare? right = some .eq
  | matching => false
  | present => true

/-- The relations that hold where one side is a container. -/
def holdsForContainer : Relation → Bool
  | looseNe | present => true
  | _ => false

def holds (doc : Document) (left right : Operand) (relation : Relation) : Except SelectError Bool :=
  if relation = matching then
    match right.pattern? doc with
    | some pattern => matchesPattern (left.value? doc) pattern
    | none => .ok false
  else
    match left.value? doc, right.value? doc with
    | some l, some r => .ok (relation.holdsFor l r)
    | _, _ => .ok relation.holdsForContainer

end Relation
end PathQuery
