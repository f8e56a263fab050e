import PathQuery.Scalar.Basic

/-!
Documents as growing arrays of linked nodes. Nodes are numbered in the order in which they are added,
starting with the root; each knows its parent, its neighbours and its first and last child. Containers
also know their children by name or by position. A member of an object is a property node, which has
the member's value as its only child. Nothing is ever removed.
-/
namespace PathQuery

/-- Where a node stood in the text that it was read from. -/
structure LineInfo where
  line : Nat
  position : Nat
deriving DecidableEq, Repr

inductive Kind where
  | object (members : Array (String × Nat))
  | array (items : Array Nat)
  | constructor (name : String) (items : Array Nat)
  | property (name : String)
  | value (v : Scalar)
deriving Repr

inductive NodeType where
  | object
  | array
  | constructor
  | property
  | value
deriving DecidableEq, Repr

def NodeType.text : NodeType → String
  | object => "object"
  | array => "array"
  | constructor => "constructor"
  | property => "property"
  | value => "value"

def Kind.nodeType : Kind → NodeType
  | object _ => .object
  | array _ => .array
  | constructor .. => .constructor
  | property _ => .property
  | value _ => .value

/-- What a new node is to be; containers start out empty. -/
inductive NewNode where
  | object
  | array
  | constructor (name : String)
  | value (v : Scalar)
deriving DecidableEq, Repr

def NewNode.kind : NewNode → Kind
  | object => .object #[]
  | array => .array #[]
  | constructor name => .constructor name #[]
  | value v => .value v

structure Node where
  kind : Kind
  parent : Option Nat := none
  previous : Option Nat := none
  next : Option Nat := none
  first : Option Nat := none
  last : Option Nat := none
  line : Option LineInfo := none
deriving Repr

def Node.addItem (item : Nat) (node : Node) : Node :=
  match node.kind with
  | .array items => { node with kind := .array (items.push item) }
  | .constructor name items => { node with kind := .constructor name (items.push item) }
  | _ => node

def Node.addMember (name : String) (property : Nat) (node : Node) : Node :=
  match node.kind with
  | .object members => { node with kind := .object (members.push (name, property)) }
  | _ => node

structure Document where
  nodes : Array Node
  nonempty : 0 < nodes.size

/-- Why a document cannot be changed as asked. -/
inductive BuildError where
  | notAnObject (type : NodeType)
  | notIndexable (type : NodeType)
  | duplicateProperty (name : String)
  | unknownNode (id : Nat)
deriving DecidableEq, Repr

def BuildError.message : BuildError → String
  | notAnObject type => "can not add property to " ++ type.text
  | notIndexable type => "can not add item to " ++ type.text
  | duplicateProperty name =>
    "can not add property " ++ name ++ ", a property with the same name already exists"
  | unknownNode id => "node NodeId(" ++ Numeral.text id ++ ") does not belong to this document"

namespace Document

def ofRoot (new : NewNode) : Document := ⟨#[{ kind := new.kind }], Nat.one_pos⟩

def root : Nat := 0

def size (doc : Document) : Nat := doc.nodes.size

def contains (doc : Document) (n : Nat) : Bool := n < doc.size

/-- The node of a number; beyond the last one an unlinked null. -/
def node (doc : Document) (n : Nat) : Node := doc.nodes.getD n { kind := .value .null }

def kind (doc : Document) (n : Nat) : Kind := (doc.node n).kind

def nodeType (doc : Document) (n : Nat) : NodeType := (doc.kind n).nodeType

def update (doc : Document) (n : Nat) (f : Node → Node) : Document :=
  ⟨doc.nodes.modify n f, by rw [Array.size_modify]; exact doc.nonempty⟩

/-- A further node without links; its number is the size before. -/
def alloc (doc : Document) (kind : Kind) : Document :=
  ⟨doc.nodes.push { kind }, by simp⟩

/-- Makes `child` the last child of `parent`. -/
def link (doc : Document) (parent child : Nat) : Document :=
  let previous := (doc.node parent).last
  let joined := match previous with
    | some p => doc.update p fun node => { node with next := some child }
    | none => doc.update parent fun node => { node with first := some child }
  (joined.update parent fun node => { node with last := some child }).update child
    fun node => { node with parent := some parent, previous := previous }

/-- Adds an item at the end of an array or constructor; its number is the size before. -/
def appendItem (doc : Document) (container : Nat) (new : NewNode) : Document :=
  ((doc.alloc new.kind).update container (Node.addItem doc.size)).link container doc.size

/-- Adds a property at the end of an object; its number is the size before, its value comes next. -/
def appendProperty (doc : Document) (object : Nat) (name : String) (new : NewNode) : Document :=
  let withProperty := ((doc.alloc (.property name)).update object
    (Node.addMember name doc.size)).link object doc.size
  (withProperty.alloc new.kind).link doc.size (doc.size + 1)

def hasMember (members : Array (String × Nat)) (name : String) : Bool :=
  members.any fun member => member.1 == name

/-- Adds a property to an object, and says which node its value is. -/
def insert (doc : Document) (object : Nat) (name : String) (new : NewNode) :
    Except BuildError (Document × Nat) :=
  if doc.contains object then
    match doc.kind object with
    | .object members =>
      if hasMember members name then .error (.duplicateProperty name)
      else .ok (doc.appendProperty object name new, doc.size + 1)
    | kind => .error (.notAnObject kind.nodeType)
  else .error (.unknownNode object)

/-- Adds an item to an array or constructor, and says which node it is. -/
def push (doc : Document) (container : Nat) (new : NewNode) :
    Except BuildError (Document × Nat) :=
  if doc.contains container then
    match doc.kind container with
    | .array _ | .constructor .. => .ok (doc.appendItem container new, doc.size)
    | kind => .error (.notIndexable kind.nodeType)
  else .error (.unknownNode container)

def setLine (doc : Document) (n : Nat) (line : LineInfo) : Except BuildError Document :=
  if doc.contains n then .ok (doc.update n fun node => { node with line := some line })
  else .error (.unknownNode n)

end Document
end PathQuery
