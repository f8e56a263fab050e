import PathQuery.Regex.Basic
import PathQuery.Unicode.Utf8

/-!
The size of the automata over bytes that search for an expression from its front and from its end. A
state takes 32 bytes, the way to a next state 8 bytes if it reads one, and 4 bytes if it is a choice.
-/
namespace PathQuery

def stateSize : Nat := 32

def stepSize : Nat := 8

def choiceSize : Nat := 4

/-- The sizes of the automaton that reads forwards and of the one that reads backwards. -/
structure AutomatonSize where
  forwards : Nat
  backwards : Nat

namespace AutomatonSize

def both (size : Nat) : AutomatonSize := ⟨size, size⟩

def add (a b : AutomatonSize) : AutomatonSize := ⟨a.forwards + b.forwards, a.backwards + b.backwards⟩

def times (n : Nat) (a : AutomatonSize) : AutomatonSize := ⟨n * a.forwards, n * a.backwards⟩

def isAtMost (limit : Nat) (a : AutomatonSize) : Bool := a.forwards ≤ limit && a.backwards ≤ limit

end AutomatonSize

namespace CharSet

/-- The ranges of the code points of a set among the `count` behind the `n` that are done; `found` are
those so far in reverse, and `first` is where the open one begins. -/
def rangesFrom (set : CharSet) : (count n : Nat) → (first : Option Nat) → (found : List (Nat × Nat)) →
    List (Nat × Nat)
  | 0, n, first, found => ((first.map fun a => (a, n - 1)).toList ++ found).reverse
  | count + 1, n, first, found =>
    if n.isValidChar && set (Char.ofNat n) then
      rangesFrom set count (n + 1) (some (first.getD n)) found
    else rangesFrom set count (n + 1) none ((first.map fun a => (a, n - 1)).toList ++ found)

def codeRanges (set : CharSet) : List (Nat × Nat) := rangesFrom set 0x110000 0 none []

/-- Sequences of bytes that are still to be read stand for a state. The states behind it are those of
the sequences that begin with the same range. -/
def statesBehind (state : List (List Utf8.ByteRange)) : List (List (List Utf8.ByteRange)) :=
  (state.splitBy fun a b => a.head? == b.head?).map (·.map List.tail)

/-- The states that are reached from some by reading less than `length` bytes; equal ones are one. -/
def statesWithin : (length : Nat) → List (List (List Utf8.ByteRange)) →
    List (List (List Utf8.ByteRange))
  | 0, _ => []
  | length + 1, states =>
    let distinct := states.eraseDups
    let next := (distinct.flatMap statesBehind).filter fun state => state.any (!·.isEmpty)
    distinct ++ statesWithin length next

def forwardSize (sequences : List (List Utf8.ByteRange)) : Nat :=
  (statesWithin 4 [sequences]).eraseDups.foldl
    (fun size state => size + stateSize + stepSize * (statesBehind state).length) stateSize

def sharedLength : List Utf8.ByteRange → List Utf8.ByteRange → Nat
  | a :: as, b :: bs => if a = b then sharedLength as bs + 1 else 0
  | _, _ => 0

/-- The states of sequences in their order; each shares those of its beginning with the one before. -/
def backwardStates (before : List Utf8.ByteRange) : List (List Utf8.ByteRange) → Nat
  | [] => 0
  | s :: rest => (s.length - sharedLength before s) + backwardStates s rest

def backwardSize (sequences : List (List Utf8.ByteRange)) : Nat :=
  stateSize * (2 + backwardStates [] sequences) + choiceSize * sequences.length

/-- One character alone takes a state for each byte, and ASCII characters take one state together. -/
def automatonSize (set : CharSet) : AutomatonSize :=
  let ranges := set.codeRanges
  let sequences := ranges.flatMap fun r => Utf8.sequences r.1 r.2
  match ranges with
  | [] => .both (2 * stateSize)
  | [(a, b)] =>
    if a = b then .both (stateSize * (Char.ofNat a).utf8Size)
    else if b < 128 then .both (2 * stateSize + stepSize)
    else ⟨forwardSize sequences, backwardSize sequences⟩
  | _ =>
    if ranges.all (·.2 < 128) then .both (2 * stateSize + stepSize * ranges.length)
    else ⟨forwardSize sequences, backwardSize sequences⟩

end CharSet

namespace Regex

variable {τ : Type}

/-- Whether an expression is left out of a sequence: it reads nothing and tests nothing. -/
def isVoid : Regex CharClass τ → Bool
  | empty => true
  | one _ | test _ | alternative _ _ => false
  | sequence a b => a.isVoid && b.isVoid
  | repeated a least most => (least = 0 && most = some 0) || (least ≠ 0 && a.isVoid)
  | group captures a => !captures && a.isVoid

def isWidthless : Regex CharClass τ → Bool
  | empty | test _ => true
  | one _ => false
  | sequence a b | alternative a b => a.isWidthless && b.isWidthless
  | repeated a least most => (least = 0 && most = some 0) || a.isWidthless
  | group _ a => a.isWidthless

def hasWidth : Regex CharClass τ → Bool
  | empty | test _ => false
  | one _ => true
  | sequence a b => a.hasWidth || b.hasWidth
  | alternative a b => a.hasWidth && b.hasWidth
  | repeated a least _ => least ≠ 0 && a.hasWidth
  | group _ a => a.hasWidth

def joinedSet? : Regex CharClass τ → Option CharSet
  | one k => some k.set
  | alternative a b =>
    match a.joinedSet?, b.joinedSet? with
    | some s, some t => some fun c => s c || t c
    | _, _ => none
  | group false a => a.joinedSet?
  | _ => none

def repeatedSize (hasWidth : Bool) (body : AutomatonSize) (least : Nat) : (most : Option Nat) →
    AutomatonSize
  | none =>
    let loop := AutomatonSize.both (stateSize + 2 * choiceSize)
    if least ≠ 0 then (body.times least).add loop
    else if hasWidth then body.add loop
    else body.add ((loop.times 2).add (.both stateSize))
  | some more =>
    if more = 0 then if least = 0 then .both stateSize else body.times least
    else
      let option := body.add (.both (stateSize + 2 * choiceSize))
      let front := if least ≠ 0 then body.times least else .both (if more = 1 then 0 else stateSize)
      front.add ((option.times more).add (.both stateSize))

/-- A branch among alternatives gives its choice to them. -/
def asBranch (isBranch : Bool) (size : AutomatonSize) : AutomatonSize :=
  if isBranch then size.add (.both choiceSize) else size

/-- The size of an expression if a set of characters takes `cost`. Alternatives among alternatives are
branches of the outer ones. -/
def automatonSize (cost : CharSet → AutomatonSize) (isBranch : Bool) : Regex CharClass τ → AutomatonSize
  | empty | test _ => asBranch isBranch (.both stateSize)
  | one k => asBranch isBranch (cost k.set)
  | sequence a b => asBranch isBranch <|
    if a.isVoid then b.automatonSize cost false
    else if b.isVoid then a.automatonSize cost false
    else (a.automatonSize cost false).add (b.automatonSize cost false)
  | alternative a b =>
    let branches := (a.automatonSize cost true).add (b.automatonSize cost true)
    if isBranch then branches
    else
      match (alternative a b).joinedSet? with
      | some set => cost set
      | none => branches.add (.both (2 * stateSize))
  | repeated a least most => asBranch isBranch <|
    let body := a.automatonSize cost false
    if !a.isWidthless then repeatedSize a.hasWidth body least most
    else if least ≠ 0 then body
    else repeatedSize false body 0 (some (if most = some 0 then 0 else 1))
  | group false a =>
    match a.joinedSet? with
    | some set => asBranch isBranch (cost set)
    | none => a.automatonSize cost isBranch
  | group true a =>
    asBranch isBranch ((a.automatonSize cost false).add ⟨2 * stateSize, 0⟩)

end Regex
end PathQuery
