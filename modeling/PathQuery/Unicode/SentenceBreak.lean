import PathQuery.Unicode.Alphabetic
import PathQuery.Unicode.Blank
import PathQuery.Unicode.Grapheme
import PathQuery.Unicode.Name
import PathQuery.Unicode.Punctuation
import PathQuery.Unicode.Symbol

/-!
The classes that characters fall into when the edges of sentences are looked for. The first rule that
fits decides.
-/
namespace PathQuery.Unicode

inductive SentenceBreak where
  | carriageReturn | lineFeed | separator | extend | format | blank | lower | upper | letter
  | numeric | fullStop | terminal | continuing | close | other
deriving DecidableEq, Repr

namespace SentenceBreak

def separatorMark : Ranges := .ofLines ["85 2028-2029"]

/-- Georgian letters that capitals come in the place of in whole words only. -/
def caselessGeorgian : Ranges := .ofLines ["10D0-10FA 10FD-10FF 1C90-1CBF"]

def fullStopSign : Ranges := .ofLines ["2E 2024 FE52 FF0E"]

def continuingSign : Ranges := .ofLines [
    "2C-2D 3A-3B 37E 55D 60C-60D 7F8 1802 1808 2013-2014 3001 FE10-FE11 FE13-FE14 FE31-FE32",
    "FE50-FE51 FE54-FE55 FE58 FE63 FF0C-FF0D FF1A-FF1B FF64"]

/-- Quotation marks that neither open nor close by their category. -/
def plainQuotation : Ranges := .ofLines ["22 27 275B-2760 2E00-2E01 2E06-2E08 2E0B 1F676-1F678"]

def ofChar (c : Char) : SentenceBreak :=
  if c = '\r' then carriageReturn
  else if c = '\n' then lineFeed
  else if separatorMark.contains c then separator
  else if isGraphemeExtend c || Category.spacingMark.contains c || c = '\u200d' then extend
  else if isNumeric c then numeric
  else if Category.format.contains c then format
  else if isBlank c then blank
  else if isLowercase c && !caselessGeorgian.contains c then lower
  else if (isUppercase c || Category.titlecaseLetter.contains c) && !caselessGeorgian.contains c then
    upper
  else if isAlphabetic c || c = '\u05f3' then letter
  else if fullStopSign.contains c then fullStop
  else if sentenceTerminal.contains c then terminal
  else if continuingSign.contains c then continuing
  else if plainQuotation.contains c || inCategories
      [.openPunctuation, .closePunctuation, .initialPunctuation, .finalPunctuation] c then close
  else other

def named? (name : String) : Option SentenceBreak :=
  findNamed? name [
    (["cr"], carriageReturn), (["lf"], lineFeed), (["se", "sep"], separator),
    (["ex", "extend"], extend), (["fo", "format"], format), (["sp"], blank),
    (["lo", "lower"], lower), (["up", "upper"], upper), (["le", "oletter"], letter),
    (["nu", "numeric"], numeric), (["at", "aterm"], fullStop), (["st", "sterm"], terminal),
    (["sc", "scontinue"], continuing), (["cl", "close"], close)]

end SentenceBreak
end PathQuery.Unicode
