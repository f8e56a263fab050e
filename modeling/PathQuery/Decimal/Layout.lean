import PathQuery.Decimal.Shortest
import PathQuery.Text.Numeral

/-!
How the digits of a number are laid out. A format is a value of `Layout`; the two that the library
writes are defined where they are used. Whole numbers keep a fraction digit (`1.0`) in positional
notation and have none with an exponent (`1e16`).
-/
namespace PathQuery

/-- The decisions of one number format. Exponents of the leading digit from `plainFrom` up to, but not
including, `plainBelow` are written positionally. -/
structure Layout where
  plainFrom : Int
  plainBelow : Int
  plusSign : Bool
  tie : Tie

namespace Layout

/-- Digits with the point after the first `1 + lead` of them; `lead` may be negative. -/
def positional (ds : List Char) (lead : Int) : List Char :=
  if lead < 0 then
    '0' :: '.' :: (List.replicate (-lead - 1).toNat '0' ++ ds)
  else
    let whole := lead.toNat + 1
    if ds.length ≤ whole then ds ++ List.replicate (whole - ds.length) '0' ++ ['.', '0']
    else ds.take whole ++ '.' :: ds.drop whole

def scientific (plusSign : Bool) (ds : List Char) (lead : Int) : List Char :=
  let significand := match ds with
    | d :: e :: rest => d :: '.' :: e :: rest
    | ds => ds
  let sign := if lead < 0 then ['-'] else if plusSign then ['+'] else []
  significand ++ 'e' :: (sign ++ Numeral.digits lead.natAbs)

def trimZeros (ds : List Char) : List Char := (ds.reverse.dropWhile (· == '0')).reverse

def ofDecimal (layout : Layout) (d : Decimal) : List Char :=
  let all := Numeral.digits d.digits
  let lead := d.exponent + all.length - 1
  if layout.plainFrom ≤ lead ∧ lead < layout.plainBelow then positional (trimZeros all) lead
  else scientific layout.plusSign (trimZeros all) lead

def ofMagnitude (layout : Layout) (rank : Nat) : List Char :=
  if rank = 0 then ['0', '.', '0'] else layout.ofDecimal (.shortest layout.tie rank)

def signed (negative : Bool) (cs : List Char) : List Char := if negative then '-' :: cs else cs

end Layout
end PathQuery
