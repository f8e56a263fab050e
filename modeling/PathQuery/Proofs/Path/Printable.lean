import PathQuery.Path.Pattern

/-! The paths that have a text. A path is well formed when it has the shape that reading produces:
lists of at least two names or positions, comparisons that have a right side exactly when they need
one, and conditions whose connectives alternate. It is printable when moreover all its numbers are
finite; the two infinities have no text that can be read. -/
namespace PathQuery

/-- Pairs of a backslash and a character other than a slash, and characters other than a backslash. -/
def Pattern.isSource : List Char → Bool
  | [] => true
  | [c] => c ≠ '\\'
  | c :: e :: cs => if c = '\\' then e ≠ '/' && isSource cs else isSource (e :: cs)

def Pattern.isWellFormed (p : Pattern) : Bool :=
  isSource p.source.toList && p.flags.toList.all isFlag

def Scalar.isWellFormed : Scalar → Bool
  | null | boolean _ | integer _ | string _ => true
  | double x => x ≠ .nan
  | _ => false

def Scalar.isFinite : Scalar → Bool
  | double x => x.isFinite
  | _ => true

namespace Condition

def isComparison : Condition → Bool
  | compare .. => true
  | compound .. => false

/-- The connective that joins the members of a compound condition. -/
def connective? : Condition → Option Connective
  | compare .. => none
  | compound c _ => some c

end Condition

mutual

def Step.isWellFormed : Step → Bool
  | .member _ | .scan _ | .item _ | .slice .. => true
  | .members names | .scanNames names => 2 ≤ names.length
  | .items indexes => 2 ≤ indexes.length
  | .query condition | .scanQuery condition => condition.isWellFormed
  | .root | .pipe _ | .union _ => false

def stepsWellFormed : List Step → Bool
  | [] => true
  | step :: steps => step.isWellFormed && stepsWellFormed steps

def Condition.isWellFormed : Condition → Bool
  | .compare relation left none => relation = .present && left.isWellFormed
  | .compare relation left (some right) =>
    relation ≠ .present && left.isWellFormed && right.isWellFormed
  | .compound connective members => 2 ≤ members.length && membersWellFormed connective members

/-- Only the last member may be a compound condition, and then of the other connective. -/
def membersWellFormed (connective : Connective) : List Condition → Bool
  | [] => false
  | [last] => last.isWellFormed && last.connective? ≠ some connective
  | member :: members =>
    member.isComparison && member.isWellFormed && membersWellFormed connective members

def Term.isWellFormed : Term → Bool
  | .literal value => value.isWellFormed
  | .pattern pattern => pattern.isWellFormed
  | .path (.root :: steps) => stepsWellFormed steps
  | .path steps => stepsWellFormed steps

end

mutual

def Step.isFinite : Step → Bool
  | .query condition | .scanQuery condition => condition.isFinite
  | .pipe steps | .union steps => stepsFinite steps
  | _ => true

def stepsFinite : List Step → Bool
  | [] => true
  | step :: steps => step.isFinite && stepsFinite steps

def Condition.isFinite : Condition → Bool
  | .compare _ left none => left.isFinite
  | .compare _ left (some right) => left.isFinite && right.isFinite
  | .compound _ members => conditionsFinite members

def conditionsFinite : List Condition → Bool
  | [] => true
  | condition :: conditions => condition.isFinite && conditionsFinite conditions

def Term.isFinite : Term → Bool
  | .literal value => value.isFinite
  | .pattern _ => true
  | .path steps => stepsFinite steps

end

namespace Path

def isWellFormed (path : Path) : Bool := stepsWellFormed path.steps

/-- Every double in the path is finite. -/
def isFinite (path : Path) : Bool := stepsFinite path.steps

def isPrintable (path : Path) : Bool := path.isWellFormed && path.isFinite

end Path
end PathQuery
