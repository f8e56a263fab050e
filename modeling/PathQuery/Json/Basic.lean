import PathQuery.Decimal.Double

/-!
JSON values. Numbers are whole numbers of 64 bits, with a sign or without, or doubles; an object keeps
its members in order and has each name once when it is built with `put`.
-/
namespace PathQuery

/-- A whole number that fits 64 bits without a sign, but not with one. -/
structure Unsigned where
  val : UInt64
  large : power 2 63 ≤ val.toNat
deriving DecidableEq, Repr

namespace Unsigned

def ofNat? (n : Nat) : Option Unsigned :=
  if h : power 2 63 ≤ n ∧ n < power 2 64 then some ⟨.ofNatLT n h.2, h.1⟩ else none

def toDouble (n : Unsigned) : Double := .ofInt n.val.toNat

end Unsigned

inductive Json where
  | null
  | boolean (b : Bool)
  | integer (i : Int64)
  | unsigned (n : Unsigned)
  | double (x : Double)
  | string (s : String)
  | array (items : List Json)
  | object (members : List (String × Json))
deriving Repr, BEq, Inhabited

namespace Json

/-- Sets a member: the first one of that name keeps its place, a new name goes to the end. -/
def put (name : String) (value : Json) : List (String × Json) → List (String × Json)
  | [] => [(name, value)]
  | (n, v) :: rest => if n = name then (n, value) :: rest else (n, v) :: put name value rest

end Json
end PathQuery
