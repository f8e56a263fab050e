import PathQuery.Decimal.Power
import PathQuery.Text.Numeral

/-!
Which hosts of a URI are well-formed addresses. A host whose last label is a number is an IPv4 address
of at most four numbers, which may be octal or hexadecimal; a host in brackets is an IPv6 address.
-/
namespace PathQuery.Uri

def labels : List Char → List (List Char)
  | [] => [[]]
  | c :: cs =>
    if c = '.' then [] :: labels cs
    else match labels cs with
      | [] => [[c]]
      | label :: rest => (c :: label) :: rest

def hexDigit? (c : Char) : Option Nat :=
  if '0' ≤ c && c ≤ '9' then some (c.toNat - 48)
  else if 'a' ≤ c && c ≤ 'f' then some (c.toNat - 87)
  else if 'A' ≤ c && c ≤ 'F' then some (c.toNat - 55)
  else none

def numberInBase? (base : Nat) (cs : List Char) : Option Nat :=
  cs.foldlM (fun n c => (hexDigit? c).bind fun d => if d < base then some (base * n + d) else none) 0

/-- A number with the marks `0x` for hexadecimal and `0` for octal; a mark alone is zero. -/
def number? : List Char → Option Nat
  | [] => none
  | ['0'] => some 0
  | '0' :: c :: rest =>
    if c = 'x' ∨ c = 'X' then numberInBase? 16 rest else numberInBase? 8 (c :: rest)
  | cs => numberInBase? 10 cs

/-- The labels of a host without the empty one behind a dot at the end. -/
def trimmedLabels (host : List Char) : List (List Char) :=
  let all := labels host
  if all.getLast? = some [] ∧ 1 < all.length then all.dropLast else all

def endsInNumber (host : List Char) : Bool :=
  match (trimmedLabels host).getLast? with
  | none | some [] => false
  | some last => last.all Numeral.isDigit || (number? last).isSome

/-- At most four numbers: each but the last is a byte, the last fills the rest of the 32 bits. -/
def isIpv4 (host : List Char) : Bool :=
  let all := trimmedLabels host
  match all.mapM number? with
  | none => false
  | some numbers =>
    match numbers.getLast? with
    | none => false
    | some last =>
      numbers.length ≤ 4 && numbers.dropLast.all (· < 256) && last < power 256 (5 - numbers.length)

/-- A byte in decimal digits without zeros in front. -/
def isByte (cs : List Char) : Bool :=
  !cs.isEmpty && cs.all Numeral.isDigit && (cs.length = 1 || cs.head? ≠ some '0') && cs.length ≤ 3 &&
    Numeral.ofDigits cs < 256

/-- Four bytes in decimal, as they may end an IPv6 address. -/
def isFourBytes (cs : List Char) : Bool :=
  let all := labels cs
  all.length = 4 && all.all isByte

/-- The pieces of an IPv6 address after `count` others; `compressed` says whether a double colon stood
before. A piece is up to four hexadecimal digits. -/
def areIpv6Pieces (compressed : Bool) (count : Nat) (cs : List Char) : Bool :=
  match cs with
  | [] => if compressed then count ≤ 8 else count = 8
  | c :: rest =>
    if 8 ≤ count then false
    else if c = ':' then !compressed && areIpv6Pieces true (count + 1) rest
    else
      let digits := ((c :: rest).take 4).takeWhile fun c => (hexDigit? c).isSome
      match h : (c :: rest).drop digits.length with
      | [] => if compressed then count + 1 ≤ 8 else count + 1 = 8
      | d :: after =>
        if d = '.' then
          !digits.isEmpty && count ≤ 6 && isFourBytes (c :: rest) && (compressed || count = 6)
        else if d = ':' ∧ !after.isEmpty then areIpv6Pieces compressed (count + 1) after
        else false
termination_by cs.length
decreasing_by
  · simp
  · have := congrArg List.length h
    simp only [List.length_drop, List.length_cons] at this ⊢
    omega

/-- An IPv6 address without its brackets. A double colon stands for one piece or more. -/
def isIpv6 : List Char → Bool
  | ':' :: ':' :: rest => areIpv6Pieces true 1 rest
  | ':' :: _ => false
  | [_] => false
  | [] => false
  | cs => areIpv6Pieces false 0 cs

end PathQuery.Uri
