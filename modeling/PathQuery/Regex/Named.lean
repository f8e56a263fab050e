import PathQuery.Regex.Basic
import PathQuery.Unicode.Age
import PathQuery.Unicode.GraphemeBreak
import PathQuery.Unicode.Property
import PathQuery.Unicode.ScriptExtension
import PathQuery.Unicode.SentenceBreak
import PathQuery.Unicode.WordBreak

/-!
Sets of characters that have names: the classes of ASCII characters, and general categories, scripts
and properties. Names of the latter are compared without case, spaces, hyphens, underscores and a
leading "is".
-/
namespace PathQuery.CharSet

/-- The classes that are written as in `[:alpha:]`. -/
def asciiClass? (name : List Char) : Option CharSet :=
  let lower : Char × Char := ('a', 'z')
  let upper : Char × Char := ('A', 'Z')
  let digit : Char × Char := ('0', '9')
  match String.ofList name with
  | "alnum" => some (ofRanges [digit, upper, lower])
  | "alpha" => some (ofRanges [upper, lower])
  | "ascii" => some (range '\x00' '\x7f')
  | "blank" => some (ofRanges [('\t', '\t'), (' ', ' ')])
  | "cntrl" => some (ofRanges [('\x00', '\x1f'), ('\x7f', '\x7f')])
  | "digit" => some (ofRanges [digit])
  | "graph" => some (range '!' '~')
  | "lower" => some (ofRanges [lower])
  | "print" => some (range ' ' '~')
  | "punct" => some (ofRanges [('!', '/'), (':', '@'), ('[', '\x60'), ('\x7b', '~')])
  | "space" => some (ofRanges [('\t', '\r'), (' ', ' ')])
  | "upper" => some (ofRanges [upper])
  | "word" => some asciiWord
  | "xdigit" => some (ofRanges [digit, ('A', 'F'), ('a', 'f')])
  | _ => none

/-- A name without case, spaces, hyphens, underscores and other than ASCII characters. -/
def squeezed (name : List Char) : List Char :=
  (name.filter fun c => c ≠ ' ' && c ≠ '_' && c ≠ '-' && c.toNat < 128).map Char.toLower

/-- The normal form of a name; a lone c behind "is" is the name of a property. -/
def normalName (name : List Char) : String :=
  match name with
  | i :: s :: rest =>
    if i.toLower = 'i' ∧ s.toLower = 's' then
      let rest := squeezed rest
      String.ofList (if rest = ['c'] then ['i', 's', 'c'] else rest)
    else String.ofList (squeezed name)
  | _ => String.ofList (squeezed name)

/-- Names that stand for several categories, or for one under a name of its own. -/
def categoryGroups : List (List String × List Unicode.Category) := [
    (["l", "letter"], Unicode.Category.letters), (["lc", "casedletter"], Unicode.Category.cased),
    (["m", "mark", "combiningmark"], Unicode.Category.marks),
    (["n", "number"], Unicode.Category.numbers),
    (["p", "punctuation", "punct"], Unicode.Category.punctuation),
    (["s", "symbol"], Unicode.Category.symbols), (["z", "separator"], Unicode.Category.separators),
    (["c", "other"], Unicode.Category.others), (["cntrl"], [.control]), (["digit"], [.decimalNumber])]

def categories? (name : String) : Option (List Unicode.Category) :=
  (Unicode.findNamed? name categoryGroups).or <|
    ((Unicode.Category.unassigned :: Unicode.Category.allAssigned).find? fun category =>
      category.names.1 = name || category.names.2 = name).map fun category => [category]

def category? (name : String) : Option CharSet :=
  if name = "any" then some fun _ => true
  else if name = "ascii" then some (range '\x00' '\x7f')
  else if name = "assigned" then some fun c => !Unicode.Category.unassigned.contains c
  else (categories? name).map Unicode.inCategories

def script? (name : String) : Option CharSet :=
  (Unicode.Script.named? name).map fun script => script.ranges.contains

/-- The set of a name alone: a property, a category or a script. Three short names of categories are
those of properties too that are no sets. -/
def named? (name : List Char) : Option CharSet :=
  let normal := normalName name
  let property := if ["cf", "sc", "lc"].contains normal then none else Unicode.property? normal
  property.or ((category? normal).or (script? normal))

inductive Valued where
  | category | script | scriptExtensions | age | graphemeBreak | wordBreak | sentenceBreak
deriving DecidableEq, Repr

namespace Valued

def named? (name : String) : Option Valued :=
  Unicode.findNamed? name [
    (["gc", "generalcategory"], category), (["sc", "script"], script),
    (["scx", "scriptextensions"], scriptExtensions), (["age"], age),
    (["gcb", "graphemeclusterbreak"], graphemeBreak), (["wb", "wordbreak"], wordBreak),
    (["sb", "sentencebreak"], sentenceBreak)]

def set? (value : String) : Valued → Option CharSet
  | category => category? value
  | script => script? value
  | scriptExtensions => (Unicode.Script.named? value).map (·.uses)
  | age => Unicode.assignedBy? value
  | graphemeBreak =>
    (Unicode.GraphemeBreak.named? value).map fun kind c => Unicode.GraphemeBreak.ofChar c = kind
  | wordBreak =>
    (Unicode.WordBreak.named? value).map fun kind c => Unicode.WordBreak.ofChar c = kind
  | sentenceBreak =>
    (Unicode.SentenceBreak.named? value).map fun kind c => Unicode.SentenceBreak.ofChar c = kind

end Valued

def valued? (property value : List Char) : Option CharSet :=
  (Valued.named? (normalName property)).bind (Valued.set? (normalName value))

def splitAt? (separator : List Char) : List Char → Option (List Char × List Char)
  | [] => none
  | c :: cs =>
    if separator.isPrefixOf (c :: cs) then some ([], (c :: cs).drop separator.length)
    else (splitAt? separator cs).map fun pair => (c :: pair.1, pair.2)

/-- The set that the text in the braces of a `\p` stands for; `!=` asks for the others. -/
def braced? (text : List Char) : Option CharSet :=
  match splitAt? ['!', '='] text with
  | some (property, value) => (valued? property value).map fun set c => !set c
  | none =>
    match splitAt? [':'] text with
    | some (property, value) => valued? property value
    | none =>
      match splitAt? ['='] text with
      | some (property, value) => valued? property value
      | none => named? text

end PathQuery.CharSet
