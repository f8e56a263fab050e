import PathQuery.Scalar.Order

/-!
Paths: lists of steps, each of which turns a row of nodes into another. Steps and the conditions of
queries refer to each other.
-/
namespace PathQuery

inductive Relation where
  | looseEq
  | looseNe
  | strictEq
  | strictNe
  | less
  | lessEq
  | greater
  | greaterEq
  | matching
  | present
deriving DecidableEq, Repr

inductive Connective where
  | all
  | any
deriving DecidableEq, Repr

structure Pattern where
  source : String
  flags : String
deriving DecidableEq, Repr

mutual

inductive Step where
  /-- Starts again from the root. -/
  | root
  /-- The value of one property, or of all. -/
  | member (name : Option String)
  /-- The values of several properties, in the order of the names. -/
  | members (names : List String)
  /-- One item of an array or constructor, or all. -/
  | item (index : Option Int32)
  /-- Several items, in the order of the indexes. -/
  | items (indexes : List Int32)
  /-- The items from `start` to `stop` in strides of `stride`. -/
  | slice (start stop stride : Option Int32)
  /-- The values of the properties of one name at any depth; without a name, the node and all below. -/
  | scan (name : Option String)
  /-- The values of the properties of several names at any depth. -/
  | scanNames (names : List String)
  /-- The child values that meet a condition. -/
  | query (condition : Condition)
  /-- The node and all below it, as far as they meet a condition. -/
  | scanQuery (condition : Condition)
  | pipe (steps : List Step)
  /-- What any of the steps selects, each node once. -/
  | union (steps : List Step)

inductive Condition where
  /-- A comparison, or without a right side the test that the left side selects anything. -/
  | compare (relation : Relation) (left : Term) (right : Option Term)
  | compound (connective : Connective) (members : List Condition)

inductive Term where
  | literal (value : Scalar)
  | pattern (pattern : Pattern)
  | path (steps : List Step)

end

deriving instance Repr, BEq for Step, Condition, Term

instance : Inhabited Step := ⟨.root⟩

/-- A path, which starts at the root of a document. -/
structure Path where
  steps : List Step

end PathQuery
