import PathQuery.Decimal.Power

/-!
Identifiers of 128 bits and their text: 32 hexadecimal digits in groups of 8, 4, 4, 4 and 12.
-/
namespace PathQuery

structure Guid where
  bits : BitVec 128
deriving DecidableEq, Repr

namespace Guid

def compare (a b : Guid) : Ordering := Ord.compare a.bits.toNat b.bits.toNat

def hexDigit (d : Nat) : Char := if d < 10 then Char.ofNat (48 + d) else Char.ofNat (87 + d)

def hexDigits (g : Guid) : List Char :=
  (List.range 32).map fun i => hexDigit (g.bits.toNat / power 16 (31 - i) % 16)

def text (g : Guid) : String :=
  let ds := g.hexDigits
  let group (start size : Nat) := String.ofList ((ds.drop start).take size)
  group 0 8 ++ "-" ++ group 8 4 ++ "-" ++ group 12 4 ++ "-" ++ group 16 4 ++ "-" ++ group 20 12

end Guid
end PathQuery
