import PathQuery.Unicode.Ranges

/-!
Maps of characters as lists of shifts. A shift moves the code points of a run by a fixed distance:
`41-5A+20` maps the capitals of ASCII to the small letters, and `178~79` goes down.
-/
namespace PathQuery.Unicode

structure Shift where
  run : Run
  distance : Int

namespace Shift

def covers (s : Shift) (n : Nat) : Bool := s.run.covers n

def image (s : Shift) (n : Nat) : Nat := (n + s.distance).toNat

/-- The code point that a shift moves to `n`, if there is one. -/
def preimage? (s : Shift) (n : Nat) : Option Nat :=
  let m := (n - s.distance).toNat
  if s.covers m && s.image m = n then some m else none

def ofWord (word : List Char) : Shift :=
  match Run.pieces '+' word with
  | [run, distance] => ⟨Run.ofWord run, Run.hexNumber distance⟩
  | _ => match Run.pieces '~' word with
    | [run, distance] => ⟨Run.ofWord run, -(Run.hexNumber distance : Int)⟩
    | _ => ⟨Run.ofWord word, 0⟩

def ofLines (lines : List String) : List Shift :=
  lines.flatMap fun line => (Run.pieces ' ' line.toList).map ofWord

end Shift

/-- The image of a character; one that no shift covers stays. -/
def applyShifts (shifts : List Shift) (c : Char) : Char :=
  match shifts.find? fun s => s.covers c.toNat with
  | some s => Char.ofNat (s.image c.toNat)
  | none => c

end PathQuery.Unicode
