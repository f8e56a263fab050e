import PathQuery.Scalar.Basic

/-!
The natural order of primitive values and the two equalities of queries. Integers and doubles compare
numerically; values of any other two types are incomparable.
-/
namespace PathQuery.Scalar

def compare? : Scalar → Scalar → Option Ordering
  | null, null => some .eq
  | boolean a, boolean b => some (Ord.compare a b)
  | integer a, integer b => some (Ord.compare a.toInt b.toInt)
  | integer a, double b => some (Double.compare (.ofInt a.toInt) b)
  | double a, integer b => some (Double.compare a (.ofInt b.toInt))
  | double a, double b => some (Double.compare a b)
  | string a, string b => some (Ord.compare a b)
  | date a, date b => some (Timestamp.compare a b)
  | bytes a, bytes b => some ((Ord.compare a.length b.length).then (Ord.compare a b))
  | guid a, guid b => some (Guid.compare a b)
  | uri a, uri b => some (Ord.compare a b)
  | timeSpan a, timeSpan b => some (TimeSpan.compare a b)
  | _, _ => none

def strictEq (a b : Scalar) : Bool := a.compare? b = some .eq

/-- Strict equality, or a queried string that is the string form of the value. -/
def looseEq (value queried : Scalar) : Bool :=
  value.strictEq queried ||
    match queried, value.stringForm? with
    | string s, some form => s == form
    | _, _ => false

end PathQuery.Scalar
