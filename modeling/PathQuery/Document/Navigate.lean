import PathQuery.Document.Basic
import PathQuery.Unicode.Lowercase

/-!
Ways from node to node: by name, by position and along the links. Links between siblings only lead to
younger nodes, which is why the row of children ends.
-/
namespace PathQuery.Document

def parent? (doc : Document) (n : Nat) : Option Nat := (doc.node n).parent

def previous? (doc : Document) (n : Nat) : Option Nat := (doc.node n).previous

def next? (doc : Document) (n : Nat) : Option Nat := (doc.node n).next

def first? (doc : Document) (n : Nat) : Option Nat := (doc.node n).first

def last? (doc : Document) (n : Nat) : Option Nat := (doc.node n).last

def line? (doc : Document) (n : Nat) : Option LineInfo := (doc.node n).line

def isObject (doc : Document) (n : Nat) : Bool := doc.nodeType n = .object

def isArray (doc : Document) (n : Nat) : Bool := doc.nodeType n = .array

def isProperty (doc : Document) (n : Nat) : Bool := doc.nodeType n = .property

/-- Arrays and constructors have items. -/
def isIndexable (doc : Document) (n : Nat) : Bool :=
  doc.nodeType n = .array || doc.nodeType n = .constructor

def value? (doc : Document) (n : Nat) : Option Scalar :=
  match doc.kind n with
  | .value v => some v
  | _ => none

def propertyName? (doc : Document) (n : Nat) : Option String :=
  match doc.kind n with
  | .property name => some name
  | _ => none

def constructorName? (doc : Document) (n : Nat) : Option String :=
  match doc.kind n with
  | .constructor name _ => some name
  | _ => none

/-- The type of a primitive, and of any other node its own. -/
def typeName (doc : Document) (n : Nat) : String :=
  match doc.kind n with
  | .value v => v.typeName
  | kind => kind.nodeType.text

def len (doc : Document) (n : Nat) : Nat :=
  match doc.kind n with
  | .object members => members.size
  | .array items | .constructor _ items => items.size
  | .property _ => 1
  | .value _ => 0

def isEmpty (doc : Document) (n : Nat) : Bool := doc.len n = 0

def hasValues (doc : Document) (n : Nat) : Bool := (doc.first? n).isSome

def property? (members : Array (String × Nat)) (name : String) : Option Nat :=
  (members.find? fun member => member.1 == name).map (·.2)

def get? (doc : Document) (n : Nat) (name : String) : Option Nat :=
  match doc.kind n with
  | .object members => (property? members name).bind doc.first?
  | _ => none

/-- The value of the property of a name, or else of the first one whose name differs in case only. -/
def getIgnoreCase? (doc : Document) (n : Nat) (name : String) : Option Nat :=
  match doc.kind n with
  | .object members =>
    (doc.get? n name).or
      ((members.find? fun member =>
        Unicode.foldCase member.1.toList == Unicode.foldCase name.toList).bind
        fun member => doc.first? member.2)
  | _ => none

def item? (doc : Document) (n : Nat) (i : Nat) : Option Nat :=
  match doc.kind n with
  | .array items | .constructor _ items => items[i]?
  | _ => none

/-- A node and its younger siblings in order. -/
def siblingsFrom (doc : Document) (n : Nat) : List Nat :=
  n :: match doc.next? n with
    | some m => if n < m ∧ m < doc.size then siblingsFrom doc m else []
    | none => []
termination_by doc.size - n
decreasing_by omega

def children (doc : Document) (n : Nat) : List Nat :=
  match doc.first? n with
  | some c => doc.siblingsFrom c
  | none => []

/-- What a child stands for: a property for its value, any other node for itself. -/
def childValue? (doc : Document) (c : Nat) : Option Nat :=
  if doc.isProperty c then doc.first? c else some c

/-- The values of the properties of an object, or the items of an array or constructor. -/
def values (doc : Document) (n : Nat) : List Nat := (doc.children n).filterMap doc.childValue?

end PathQuery.Document
