import PathQuery.Document.Navigate
import PathQuery.Json.Reader

/-!
Documents from JSON values and back. A document has no whole numbers beyond the signed ones, so those
become doubles. On the way back constructors become arrays of their items, a property becomes its value,
primitives that JSON does not have become strings of their text, and doubles that are not finite become
null.
-/
namespace PathQuery

def Scalar.toJson : Scalar → Json
  | null => .null
  | boolean b => .boolean b
  | integer i => .integer i
  | double x => if x.isFinite then .double x else .null
  | v => .string v.text

namespace Document

/-- The JSON value of a node. Children are younger than their parents, so the descent ends. -/
def toJson (doc : Document) (n : Nat) : Json :=
  let below (c : Nat) : Option Json :=
    if n < c ∧ c < doc.size then some (toJson doc c) else none
  match doc.kind n with
  | .value v => v.toJson
  | .object _ =>
    .object ((doc.children n).filterMap fun p =>
      match doc.propertyName? p, (doc.first? p).bind below with
      | some name, some json => some (name, json)
      | _, _ => none)
  | .property _ => ((doc.first? n).bind below).getD .null
  | .array _ | .constructor .. => .array ((doc.values n).filterMap below)
termination_by doc.size - n

/-- The node that a JSON value starts out as. -/
def shell : Json → NewNode
  | .null => .value .null
  | .boolean b => .value (.boolean b)
  | .integer i => .value (.integer i)
  | .unsigned n => .value (.double n.toDouble)
  | .double x => .value (.double x)
  | .string s => .value (.string s)
  | .array _ => .array
  | .object _ => .object

mutual

/-- Adds what a JSON value holds below the node that stands for it. -/
def fill (doc : Document) (n : Nat) : Json → Document
  | .array items => fillItems doc n items
  | .object members => fillMembers doc n members
  | _ => doc

def fillItems (doc : Document) (n : Nat) : List Json → Document
  | [] => doc
  | item :: items => fillItems (fill (doc.appendItem n (shell item)) doc.size item) n items

def fillMembers (doc : Document) (n : Nat) : List (String × Json) → Document
  | [] => doc
  | (name, json) :: members =>
    fillMembers (fill (doc.appendProperty n name (shell json)) (doc.size + 1) json) n members

end

def ofJson (json : Json) : Document := (ofRoot (shell json)).fill root json

/-- The document that a JSON text denotes. -/
def parse (text : String) : Except Json.ReadError Document := (Json.parse text).map ofJson

end Document
end PathQuery
