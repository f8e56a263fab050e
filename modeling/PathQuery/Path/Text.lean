import PathQuery.Path.Pattern
import PathQuery.Text.Quoted

/-!
The canonical text of a path. Pipes and unions have no syntax that can be read; they are written as
`and(@…, @…)` and `or(@…, @…)`.
-/
namespace PathQuery

/-- The characters that force a property name into brackets: those that end a name in a path, and all
that would be hard to see. -/
def isSpecialInName (c : Char) : Bool :=
  [' ', '.', '\'', '/', '"', '[', ']', '(', ')', '\t', '\n', '\r', '\x0c', '\x08', '\\', '\u0085',
    '\u2028', '\u2029', '=', '<', '>', '!', '&', '|'].contains c

def isPlainName (name : List Char) : Bool :=
  !name.isEmpty && name ≠ ['*'] && !name.any isSpecialInName

def memberChars (dot : Bool) (name : String) : List Char :=
  let cs := name.toList
  if isPlainName cs then (if dot then ['.'] else []) ++ cs
  else '[' :: (Quoted.encode cs ++ [']'])

def joinChars (separator : List Char) : List (List Char) → List Char
  | [] => []
  | [a] => a
  | a :: b :: rest => a ++ separator ++ joinChars separator (b :: rest)

def namesChars (names : List String) : List Char :=
  '[' :: (joinChars [','] (names.map fun name => Quoted.encode name.toList) ++ [']'])

def indexChars (index : Int32) : List Char := (Numeral.intText index.toInt).toList

def boundChars (bound : Option Int32) : List Char := (bound.map indexChars).getD []

def Relation.chars : Relation → List Char
  | looseEq => "==".toList
  | looseNe => "!=".toList
  | strictEq => "===".toList
  | strictNe => "!==".toList
  | less => "<".toList
  | lessEq => "<=".toList
  | greater => ">".toList
  | greaterEq => ">=".toList
  | matching => "=~".toList
  | present => "exists".toList

def Connective.chars : Connective → List Char
  | all => "&&".toList
  | any => "||".toList

/-- Strings, and the types that JSON does not have, are written in quotes. -/
def Scalar.chars : Scalar → List Char
  | string s => Quoted.encode s.toList
  | v => if v.stringForm?.isSome then Quoted.encode v.text.toList else v.text.toList

mutual

def Step.chars : Step → List Char
  | .root => ['$']
  | .member (some name) => memberChars true name
  | .member none => ".*".toList
  | .members names => namesChars names
  | .item (some index) => '[' :: (indexChars index ++ [']'])
  | .item none => "[*]".toList
  | .items indexes => '[' :: (joinChars [','] (indexes.map indexChars) ++ [']'])
  | .slice start stop stride =>
    let last := if stride.isSome then ':' :: boundChars stride else []
    '[' :: (boundChars start ++ ':' :: (boundChars stop ++ last ++ [']']))
  | .scan (some name) => '.' :: '.' :: memberChars false name
  | .scan none => "..*".toList
  | .scanNames names => '.' :: '.' :: namesChars names
  | .query condition => "[?(".toList ++ condition.chars ++ ")]".toList
  | .scanQuery condition => "..[?(".toList ++ condition.chars ++ ")]".toList
  | .pipe steps => "and(".toList ++ alternativesChars steps ++ [')']
  | .union steps => "or(".toList ++ alternativesChars steps ++ [')']

def stepsChars : List Step → List Char
  | [] => []
  | step :: steps => step.chars ++ stepsChars steps

def alternativesChars : List Step → List Char
  | [] => []
  | [step] => '@' :: step.chars
  | step :: steps => '@' :: (step.chars ++ ',' :: ' ' :: alternativesChars steps)

def Condition.chars : Condition → List Char
  | .compare _ left none => left.chars
  | .compare relation left (some right) =>
    left.chars ++ ' ' :: (relation.chars ++ ' ' :: right.chars)
  | .compound connective members => conditionsChars connective members

def conditionsChars (connective : Connective) : List Condition → List Char
  | [] => []
  | [condition] => condition.chars
  | condition :: conditions =>
    condition.chars ++ ' ' :: (connective.chars ++ ' ' :: conditionsChars connective conditions)

def Term.chars : Term → List Char
  | .literal value => value.chars
  | .pattern pattern => pattern.chars
  | .path (.root :: steps) => '$' :: stepsChars steps
  | .path steps => '@' :: stepsChars steps

end

def Path.chars (path : Path) : List Char := '$' :: stepsChars path.steps

def Path.text (path : Path) : String := String.ofList path.chars

def Condition.text (condition : Condition) : String := String.ofList condition.chars

def Term.text (term : Term) : String := String.ofList term.chars

end PathQuery
