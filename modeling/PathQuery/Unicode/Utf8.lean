import PathQuery.Decimal.Power

/-!
The bytes of code points in UTF-8. A range of code points is a list of sequences of ranges of bytes: a
text of bytes is a code point of the range just if one of the sequences covers it byte by byte.
-/
namespace PathQuery.Utf8

abbrev ByteRange := Nat × Nat

/-- The numbers from `first` to `last` in digits to base 64, `n` of them behind a leading one. -/
def digitRanges : (n : Nat) → (first last : Nat) → List (List ByteRange)
  | 0, first, last => [[(first, last)]]
  | n + 1, first, last =>
    let unit := power 64 (n + 1)
    let a := first / unit
    let b := last / unit
    let under (digit start stop : Nat) : List (List ByteRange) :=
      (digitRanges n start stop).map ((digit, digit) :: ·)
    if a = b then under a (first % unit) (last % unit)
    else
      let startsWhole := first % unit = 0
      let endsWhole := last % unit = unit - 1
      let low := if startsWhole then a else a + 1
      let high := if endsWhole then b else b - 1
      (if startsWhole then [] else under a (first % unit) (unit - 1)) ++
        (if low ≤ high then [(low, high) :: List.replicate (n + 1) (0, 63)] else []) ++
        (if endsWhole then [] else under b 0 (last % unit))

/-- The lengths of encoded code points: the bytes behind the first one, the first and the last code
point, and the mark on the first byte. -/
def lengths : List (Nat × Nat × Nat × Nat) :=
  [(0, 0, 0x7f, 0), (1, 0x80, 0x7ff, 0xc0), (2, 0x800, 0xffff, 0xe0), (3, 0x10000, 0x10ffff, 0xf0)]

/-- Digits with the marks of their places. -/
def marked (mark : Nat) : List ByteRange → List ByteRange
  | [] => []
  | lead :: rest => (lead.1 + mark, lead.2 + mark) :: rest.map fun r => (r.1 + 0x80, r.2 + 0x80)

def sequences (first last : Nat) : List (List ByteRange) :=
  lengths.flatMap fun (n, least, greatest, mark) =>
    let a := max first least
    let b := min last greatest
    if a ≤ b then (digitRanges n a b).map (marked mark) else []

end PathQuery.Utf8
