import PathQuery.Path.Basic

/-!
The text of a regular expression, `/source/flags`, as it is written in a path and as a document may
hold it in a string.
-/
namespace PathQuery.Pattern

def knownFlags : List Char := ['i', 'm', 's', 'x']

def isFlag (c : Char) : Bool := knownFlags.contains c

/-- A slash is written behind a backslash. -/
def escapeSlashes (cs : List Char) : List Char :=
  cs.flatMap fun c => if c = '/' then ['\\', '/'] else [c]

def chars (p : Pattern) : List Char :=
  '/' :: (escapeSlashes p.source.toList ++ '/' :: p.flags.toList)

def text (p : Pattern) : String := String.ofList p.chars

/-- The pattern that a document's string denotes: what stands between its first character, a slash, and
its last slash, with the known flags behind that. -/
def ofText? (text : String) : Option Pattern :=
  match text.toList with
  | '/' :: rest =>
    let reversed := rest.reverse
    match reversed.dropWhile (· ≠ '/') with
    | [] => none
    | _ :: source =>
      some ⟨String.ofList source.reverse,
        String.ofList ((reversed.takeWhile (· ≠ '/')).reverse.filter isFlag)⟩
  | _ => none

end PathQuery.Pattern
