/-!
Sets of code points as lists of runs, written in hexadecimal: `41-5A` is a run of neighbours, `AA` of
one code point, `100-12E/2` of every second one. The tables of this folder follow version 16.0 of the
Unicode standard.
-/
namespace PathQuery.Unicode

/-- The code points from `first` to `last` in steps of `stride`. -/
structure Run where
  first : Nat
  last : Nat
  stride : Nat
deriving DecidableEq, Repr

namespace Run

def covers (r : Run) (n : Nat) : Bool :=
  r.first ≤ n && n ≤ r.last && (n - r.first) % r.stride = 0

def hexValue (c : Char) : Nat :=
  if c.toNat < 58 then c.toNat - 48 else c.toNat - 55

def hexNumber (cs : List Char) : Nat := cs.foldl (fun n c => 16 * n + hexValue c) 0

/-- The pieces of a text between the places where a separator stands. -/
def pieces (separator : Char) : List Char → List (List Char)
  | [] => [[]]
  | c :: cs =>
    if c = separator then [] :: pieces separator cs
    else match pieces separator cs with
      | [] => [[c]]
      | piece :: rest => (c :: piece) :: rest

def ofEnds (ends : List Char) (stride : Nat) : Run :=
  match pieces '-' ends with
  | [first, last] => ⟨hexNumber first, hexNumber last, stride⟩
  | _ => ⟨hexNumber ends, hexNumber ends, stride⟩

def ofWord (word : List Char) : Run :=
  match pieces '/' word with
  | [ends, stride] => ofEnds ends (hexNumber stride)
  | _ => ofEnds word 1

end Run

/-- Runs in ascending order that do not overlap. -/
structure Ranges where
  runs : Array Run

namespace Ranges

def ofLines (lines : List String) : Ranges :=
  ⟨(lines.flatMap fun line => (Run.pieces ' ' line.toList).map Run.ofWord).toArray⟩

/-- Whether one of the runs from place `low` up to place `high` covers `n`. The one in the middle tells
in which half to go on. -/
def coversBetween (runs : Array Run) (n low high : Nat) : Bool :=
  if _h : low < high then
    let middle := (low + high) / 2
    match runs[middle]? with
    | none => false
    | some r =>
      if n < r.first then coversBetween runs n low middle
      else if r.last < n then coversBetween runs n (middle + 1) high
      else r.covers n
  else false
termination_by high - low

def contains (ranges : Ranges) (c : Char) : Bool :=
  coversBetween ranges.runs c.toNat 0 ranges.runs.size

end Ranges
end PathQuery.Unicode
