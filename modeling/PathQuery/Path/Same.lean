import PathQuery.Path.Basic

/-!
Equality of paths as values: doubles are compared as numbers, so that the two zeros are equal and NaN
differs from itself, and dates by their instants.
-/
namespace PathQuery

def Scalar.same : Scalar → Scalar → Bool
  | double a, double b => a.numericEq b
  | date a, date b => Timestamp.compare a b = .eq
  | a, b => a == b

mutual

def Step.same : Step → Step → Bool
  | .query a, .query b => a.same b
  | .scanQuery a, .scanQuery b => a.same b
  | .pipe a, .pipe b => stepsSame a b
  | .union a, .union b => stepsSame a b
  | .root, .root => true
  | .member a, .member b => a == b
  | .members a, .members b => a == b
  | .item a, .item b => a == b
  | .items a, .items b => a == b
  | .slice a b c, .slice d e f => a == d && b == e && c == f
  | .scan a, .scan b => a == b
  | .scanNames a, .scanNames b => a == b
  | _, _ => false

def stepsSame : List Step → List Step → Bool
  | [], [] => true
  | a :: as, b :: bs => a.same b && stepsSame as bs
  | _, _ => false

def Condition.same : Condition → Condition → Bool
  | .compare r a none, .compare s b none => r == s && a.same b
  | .compare r a (some c), .compare s b (some d) => r == s && a.same b && c.same d
  | .compound c as, .compound d bs => c == d && conditionsSame as bs
  | _, _ => false

def conditionsSame : List Condition → List Condition → Bool
  | [], [] => true
  | a :: as, b :: bs => a.same b && conditionsSame as bs
  | _, _ => false

def Term.same : Term → Term → Bool
  | .literal a, .literal b => a.same b
  | .pattern a, .pattern b => a == b
  | .path a, .path b => stepsSame a b
  | _, _ => false

end

def Path.same (p q : Path) : Bool := stepsSame p.steps q.steps

end PathQuery
