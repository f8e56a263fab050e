import PathQuery.Decimal.Power
import PathQuery.Regex.Size

/-!
The limits of expressions: how deep they are nested, and how large their automata are.
-/
namespace PathQuery

namespace Regex

variable {τ : Type}

def isSequence : Regex CharClass τ → Bool
  | sequence _ _ => true
  | _ => false

def isAlternative : Regex CharClass τ → Bool
  | alternative _ _ => true
  | _ => false

/-- The number of groups, repetitions, sequences, alternatives and brackets around the innermost piece.
The parts of one sequence are all as deep as its first, and so are alternatives. -/
def depth : Regex CharClass τ → Nat
  | empty | test _ => 0
  | one k => k.nesting
  | sequence a b => max (a.depth + 1) (if b.isSequence then b.depth else b.depth + 1)
  | alternative a b => max (a.depth + 1) (if b.isAlternative then b.depth else b.depth + 1)
  | repeated a _ _ => a.depth + 1
  | group _ a => a.depth + 1

end Regex

namespace Expression

def depthLimit : Nat := 250

/-- Ten megabytes, less what is around every expression. -/
def sizeLimit : Nat := 10 * power 2 20 - 208

/-- A size that no set of characters has more than. -/
def largestSet : Nat := power 2 16

/-- Whether the automata are small enough. The sets need to be looked at only if it depends on them. -/
def fits (e : Expression) : Bool :=
  (e.automatonSize (fun _ => .both stateSize) false).isAtMost sizeLimit &&
    ((e.automatonSize (fun _ => .both largestSet) false).isAtMost sizeLimit ||
      (e.automatonSize CharSet.automatonSize false).isAtMost sizeLimit)

def isWithinLimits (e : Expression) : Bool := e.depth ≤ depthLimit && e.fits

end Expression
end PathQuery
