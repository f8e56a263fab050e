import PathQuery.Decimal.Power
import PathQuery.Regex.Basic

/-!
Whether a regular expression is found in a text. A set of places in the text is a number whose bit `i`
says whether the place in front of character `i` is in it. Every expression then is a function from the
places where it may start to those where it may end, and its time is linear in the text.
-/
namespace PathQuery.Regex

/-- The set of the places for which a condition holds. -/
def mask : List Bool → Nat
  | [] => 0
  | b :: bs => 2 * mask bs + (if b then 1 else 0)

def charMask (text : List Char) (set : CharSet) : Nat := mask (text.map set)

/-- What a boundary says about the place behind `before` and about those that follow. -/
def placesPassing (boundary : Boundary) (before : Option Char) : List Char → List Bool
  | [] => [boundary.holds before none]
  | c :: text => boundary.holds before (some c) :: placesPassing boundary (some c) text

def boundaryMask (text : List Char) (boundary : Boundary) : Nat :=
  mask (placesPassing boundary none text)

/-- A function applied `n` times; a set that is empty stays so. -/
def times (f : Nat → Nat) : Nat → Nat → Nat
  | 0, places => places
  | n + 1, places => if places = 0 then 0 else times f n (f places)

/-- What is reached from `frontier` in at most `n` applications, together with what is already seen.
Places seen before need not be followed again. -/
def reach (f : Nat → Nat) : (n : Nat) → (seen frontier : Nat) → Nat
  | 0, seen, _ => seen
  | n + 1, seen, frontier =>
    let found := f frontier
    let fresh := found ^^^ (found &&& seen)
    if fresh = 0 then seen else reach f n (seen ||| fresh) fresh

/-- The places where the expression may end if it starts at one of `places`; `room` bounds the number
of places, and so the number of repetitions that can still reach a new one. -/
def ends (room : Nat) : Regex Nat Nat → (places : Nat) → Nat
  | empty, places => places
  | one set, places => (places &&& set) <<< 1
  | test set, places => places &&& set
  | sequence a b, places => b.ends room (a.ends room places)
  | alternative a b, places => a.ends room places ||| b.ends room places
  | repeated a least most, places =>
    let start := times (a.ends room) least places
    reach (a.ends room) ((most.map (min room)).getD room) start start
  | group _ a, places => a.ends room places

def isFoundIn (regex : Expression) (text : List Char) : Bool :=
  let room := text.length + 1
  (regex.map (fun k => charMask text k.set) (boundaryMask text)).ends room (power 2 room - 1) ≠ 0

end PathQuery.Regex
