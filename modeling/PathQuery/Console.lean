import PathQuery.Json.Text
import PathQuery.Select.Path
import PathQuery.Unicode.Blank

/-!
Questions and answers in text: a line of JSON, a line with a path, and the selected values, one a line.
-/
namespace PathQuery.Console

structure Options where
  strict : Bool
  single : Bool

def select (options : Options) (doc : Document) (path : Path) : Except SelectError (List Nat) :=
  if options.single then (path.selectOne doc Document.root options.strict).map Option.toList
  else path.select doc Document.root options.strict

def answer (options : Options) (json path : String) : List String :=
  match Document.parse json with
  | .error e => [e.message]
  | .ok doc =>
    match Path.parse (String.ofList (Unicode.trimBlank path.toList)) with
    | .error e => [e.message]
    | .ok path =>
      match select options doc path with
      | .error e => [e.message]
      | .ok nodes => nodes.map fun n => (doc.toJson n).text

def jsonPrompt : String := "json: "

def pathPrompt : String := "path: "

/-- The lines of a text; each ends with a line feed, which a carriage return may precede, or with the
text. -/
def lines : List Char → List (List Char)
  | [] => []
  | '\r' :: '\n' :: cs => [] :: lines cs
  | c :: cs =>
    if c = '\n' then [] :: lines cs
    else match lines cs with
      | [] => [[c]]
      | line :: rest => (c :: line) :: rest

def dialogue (options : Options) : List (List Char) → String
  | [] => jsonPrompt
  | [_] => jsonPrompt ++ pathPrompt
  | json :: path :: rest =>
    jsonPrompt ++ pathPrompt ++
      String.join ((answer options (String.ofList json) (String.ofList path)).map (· ++ "\n")) ++
      dialogue options rest

def run (options : Options) (input : String) : String := dialogue options (lines input.toList)

end PathQuery.Console
