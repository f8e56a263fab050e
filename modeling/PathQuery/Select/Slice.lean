/-!
The positions that a slice of a row of items comprises. Negative bounds count from the end; bounds
beyond the ends are moved to them; a negative stride goes backwards.
-/
namespace PathQuery.Slice

/-- A bound as a position; a missing one has a position of its own. -/
def resolve (count : Nat) (missing : Int) : Option Int32 → Int
  | some i => if i.toInt < 0 then count + i.toInt else i.toInt
  | none => missing

def clamp (low high i : Int) : Int := max low (min high i)

def first (count : Nat) (start : Option Int32) (stride : Int) : Int :=
  if 0 < stride then clamp 0 count (resolve count 0 start)
  else min (count - 1) (resolve count (count - 1) start)

/-- The position at which the slice ends, itself not part of it. -/
def limit (count : Nat) (stop : Option Int32) (stride : Int) : Int :=
  clamp (-1) count (resolve count (if 0 < stride then count else -1) stop)

/-- How many steps of `stride` lead from `first` to before `limit`. -/
def length (first limit stride : Int) : Nat :=
  if 0 < stride then
    if first < limit then ((limit - first - 1) / stride + 1).toNat else 0
  else
    if limit < first then ((first - limit - 1) / -stride + 1).toNat else 0

def positions (count : Nat) (start stop : Option Int32) (stride : Int) : List Nat :=
  let from_ := first count start stride
  (List.range (length from_ (limit count stop stride) stride)).map
    fun (k : Nat) => (from_ + (k : Int) * stride).toNat

end PathQuery.Slice
