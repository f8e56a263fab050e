import PathQuery.Document.Descend
import PathQuery.Select.Comparison
import PathQuery.Select.Slice

/-!
What steps select. A step turns a row of candidates into another; candidates may be errors, which pass
through in their places. `strict` says whether it is an error that nothing matches; inside conditions
it never is.
-/
namespace PathQuery

abbrev Item := Except SelectError Nat

namespace Select

def each (f : Nat → List Item) (current : List Item) : List Item :=
  current.flatMap fun
    | .ok n => f n
    | .error e => [.error e]

/-- Nothing, or the error that there is nothing. -/
def noMatch (strict : Bool) (e : SelectError) : List Item := if strict then [.error e] else []

def member (doc : Document) (strict : Bool) (name : Option String) (n : Nat) : List Item :=
  if doc.isObject n then
    match name with
    | none => (doc.values n).map .ok
    | some s =>
      match doc.get? n s with
      | some v => [.ok v]
      | none => noMatch strict (.noProperty s (doc.location n))
  else noMatch strict (.propertyNotValid name (doc.nodeType n) (doc.location n))

/-- Names that are missing are passed over in every case. -/
def members (doc : Document) (strict : Bool) (names : List String) (n : Nat) : List Item :=
  if doc.isObject n then (names.filterMap (doc.get? n)).map .ok
  else noMatch strict (.propertiesNotValid names (doc.nodeType n) (doc.location n))

/-- The item at a position counted from the start; negative positions are out of bounds. -/
def position? (doc : Document) (n : Nat) (index : Int32) : Option Nat :=
  if index.toInt < 0 then none else doc.item? n index.toInt.toNat

def item (doc : Document) (strict : Bool) (index : Int32) (n : Nat) : List Item :=
  if doc.isIndexable n then
    match position? doc n index with
    | some c => [.ok c]
    | none => noMatch strict (.indexOutOfBounds index (doc.nodeType n) (doc.location n))
  else noMatch strict (.indexNotValid (some index) (doc.nodeType n) (doc.location n))

def allItems (doc : Document) (strict : Bool) (n : Nat) : List Item :=
  if doc.isIndexable n then (doc.values n).map .ok
  else noMatch strict (.indexNotValid none (doc.nodeType n) (doc.location n))

def slice (doc : Document) (strict : Bool) (start stop : Option Int32) (stride : Int) (n : Nat) :
    List Item :=
  if doc.isArray n then
    match Slice.positions (doc.len n) start stop stride with
    | [] => noMatch strict (.emptySlice start stop (doc.location n))
    | positions => (positions.filterMap (doc.item? n)).map .ok
  else noMatch strict (.sliceNotValid (doc.nodeType n) (doc.location n))

/-- The node and all below it that are no properties. -/
def selfAndBelow (doc : Document) (n : Nat) : List Nat :=
  n :: (doc.descendants n).filter fun d => !doc.isProperty d

/-- The values of the properties below a node whose names pass a test. -/
def propertiesBelow (doc : Document) (wanted : String → Bool) (n : Nat) : List Nat :=
  ((doc.descendants n).filter fun d => (doc.propertyName? d).any wanted).filterMap doc.first?

def scan (doc : Document) (name : Option String) (n : Nat) : List Item :=
  match name with
  | none => (selfAndBelow doc n).map .ok
  | some s => (propertiesBelow doc (· == s) n).map .ok

def scanNames (doc : Document) (names : List String) (n : Nat) : List Item :=
  (propertiesBelow doc names.contains n).map .ok

/-- The nodes that pass a test, and the errors of the test. -/
def passing (test : Nat → Except SelectError Bool) (nodes : List Nat) : List Item :=
  nodes.filterMap fun n =>
    match test n with
    | .ok true => some (.ok n)
    | .ok false => none
    | .error e => some (.error e)

/-- Drops the nodes that came before or are in `seen`, and keeps all errors. -/
def distinct (seen : List Nat) : List Item → List Item
  | [] => []
  | .ok n :: items =>
    if seen.contains n then distinct seen items else .ok n :: distinct (n :: seen) items
  | .error e :: items => .error e :: distinct seen items

def collect {α : Type} : List (Except SelectError α) → Except SelectError (List α)
  | [] => .ok []
  | .ok a :: rest => (collect rest).map (a :: ·)
  | .error e :: _ => .error e

/-- Whether a relation holds between any value on the left and any on the right. Without a value on the
left those on the right are not looked at. -/
def anyPair (doc : Document) (relation : Relation)
    (lefts rights : List (Except SelectError Operand)) : Except SelectError Bool :=
  if lefts.isEmpty then .ok false
  else do
    let rights ← collect rights
    lefts.anyM fun left => do
      let left ← left
      rights.anyM fun right => relation.holds doc left right

end Select

open Select

mutual

/-- What a step selects from a row of candidates. `root` is where a path inside a condition may start
again. -/
def Step.select (doc : Document) (root : Nat) (strict : Bool) : Step → List Item → List Item
  | .root, _ => [.ok root]
  | .member name, current => each (Select.member doc strict name) current
  | .members names, current => each (Select.members doc strict names) current
  | .item (some index), current => each (Select.item doc strict index) current
  | .item none, current => each (allItems doc strict) current
  | .items indexes, current =>
    each (fun n => indexes.flatMap fun index => Select.item doc strict index n) current
  | .slice start stop stride, current =>
    if stride = some 0 then [.error .zeroStep]
    else each (Select.slice doc strict start stop ((stride.map Int32.toInt).getD 1)) current
  | .scan name, current => each (Select.scan doc name) current
  | .scanNames names, current => each (Select.scanNames doc names) current
  | .query condition, current =>
    each (fun n => passing (condition.holds doc root) (doc.values n)) current
  | .scanQuery condition, current =>
    each (fun n => passing (condition.holds doc root) (selfAndBelow doc n)) current
  | .pipe steps, current => selectSteps doc root strict steps current
  | .union steps, current => distinct [] (selectEach doc root strict steps current)

def selectSteps (doc : Document) (root : Nat) (strict : Bool) : List Step → List Item → List Item
  | [], current => current
  | step :: steps, current =>
    selectSteps doc root strict steps (step.select doc root strict current)

/-- What the steps select from the same candidates, in the order of the steps. -/
def selectEach (doc : Document) (root : Nat) (strict : Bool) : List Step → List Item → List Item
  | [], _ => []
  | step :: steps, current =>
    step.select doc root strict current ++ selectEach doc root strict steps current

def Condition.holds (doc : Document) (root : Nat) : Condition → Nat → Except SelectError Bool
  | .compare _ left none, n =>
    match left.operands doc root n with
    | [] => .ok false
    | .ok _ :: _ => .ok true
    | .error e :: _ => .error e
  | .compare relation left (some right), n =>
    anyPair doc relation (left.operands doc root n) (right.operands doc root n)
  | .compound .all members, n => allHold doc root members n
  | .compound .any members, n => anyHolds doc root members n

/-- Conditions after the first that does not hold are not looked at. -/
def allHold (doc : Document) (root : Nat) : List Condition → Nat → Except SelectError Bool
  | [], _ => .ok true
  | member :: members, n =>
    match member.holds doc root n with
    | .ok true => allHold doc root members n
    | other => other

/-- Conditions after the first that holds are not looked at. -/
def anyHolds (doc : Document) (root : Nat) : List Condition → Nat → Except SelectError Bool
  | [], _ => .ok false
  | member :: members, n =>
    match member.holds doc root n with
    | .ok false => anyHolds doc root members n
    | other => other

def Term.operands (doc : Document) (root : Nat) : Term → Nat → List (Except SelectError Operand)
  | .literal v, _ => [.ok (.literal v)]
  | .pattern p, _ => [.ok (.pattern p)]
  | .path steps, n => (selectSteps doc root false steps [.ok n]).map (·.map .node)

end

end PathQuery
