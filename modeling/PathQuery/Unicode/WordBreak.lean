import PathQuery.Unicode.Alphabetic
import PathQuery.Unicode.Emoji
import PathQuery.Unicode.Grapheme
import PathQuery.Unicode.Name
import PathQuery.Unicode.Script
import PathQuery.Unicode.Symbol

/-!
The classes that characters fall into when the edges of words are looked for. The first rule that fits
decides.
-/
namespace PathQuery.Unicode

inductive WordBreak where
  | carriageReturn | lineFeed | newline | extend | joiner | regional | format | katakana
  | hebrewLetter | letter | singleQuote | doubleQuote | midNumberLetter | midLetter | midNumber
  | numeric | connector | blank | other
deriving DecidableEq, Repr

namespace WordBreak

def newlineMark : Ranges := .ofLines ["B-C 85 2028-2029"]

def unspacedLetter : Ranges := .ofLines [
    "E01-E30 E32-E33 E40-E46 E81-E82 E84 E86-E8A E8C-EA3 EA5 EA7-EB0 EB2-EB3 EBD EC0-EC4 EC6",
    "EDC-EDF 1000-102A 103F 1050-1055 105A-105D 1061 1065-1066 106E-1070 1075-1081 108E 1780-17B3",
    "17D7 17DC 1950-196D 1970-1974 1980-19AB 19B0-19C9 1A20-1A54 1AA7 A9E0-A9E4 A9E6-A9EF",
    "A9FA-A9FE AA60-AA76 AA7A AA7E-AAAF AAB1 AAB5-AAB6 AAB9-AABD AAC0 AAC2 AADB-AADD 11700-1171A",
    "11740-11746"]

def letterSign : Ranges := .ofLines [
    "B8 2C2-2C5 2D2-2D7 2DE-2DF 2E5-2EB 2ED 2EF-2FF 55A-55C 55E 58A 5F3 70F A708-A716 A720-A721",
    "A789-A78A AB5B"]

def katakanaSign : Ranges := .ofLines ["3031-3035 309B-309C 30A0 30FC FF70"]

def midNumberLetterSign : Ranges := .ofLines ["2E 2018-2019 2024 FE52 FF07 FF0E"]

def midLetterSign : Ranges := .ofLines ["3A B7 387 55F 5F4 2027 FE13 FE55 FF1A"]

def midNumberSign : Ranges := .ofLines [
    "2C 3B 37E 589 60C-60D 66C 7F8 2044 FE10 FE14 FE50 FE54 FF0C FF1B"]

/-- Spaces that no line is broken at. -/
def fixedSpace : Ranges := .ofLines ["A0 2007 202F"]

def hiragana : Ranges := Script.rangesOf "hira"

def katakanaOnly : Ranges := Script.rangesOf "kana"

def hebrew : Ranges := Script.rangesOf "hebr"

def ofChar (c : Char) : WordBreak :=
  if c = '\r' then carriageReturn
  else if c = '\n' then lineFeed
  else if newlineMark.contains c then newline
  else if c = '\u200d' then joiner
  else if isGraphemeExtend c || Category.spacingMark.contains c || emojiModifier.contains c then
    extend
  else if regionalIndicator.contains c then regional
  else if midNumberSign.contains c then midNumber
  else if isNumeric c then numeric
  else if letterSign.contains c then letter
  else if Category.format.contains c && c ≠ '\u200b' then format
  else if katakanaOnly.contains c || katakanaSign.contains c then katakana
  else if hebrew.contains c && Category.otherLetter.contains c then hebrewLetter
  else if c = '\'' then singleQuote
  else if c = '"' then doubleQuote
  else if midNumberLetterSign.contains c then midNumberLetter
  else if midLetterSign.contains c then midLetter
  else if Category.connectorPunctuation.contains c || c = '\u202f' then connector
  else if isAlphabetic c && !ideographic.contains c && !unspacedLetter.contains c &&
      !hiragana.contains c then letter
  else if Category.spaceSeparator.contains c && !fixedSpace.contains c then blank
  else other

def named? (name : String) : Option WordBreak :=
  findNamed? name [
    (["cr"], carriageReturn), (["lf"], lineFeed), (["nl", "newline"], newline),
    (["extend"], extend), (["zwj"], joiner), (["ri", "regionalindicator"], regional),
    (["fo", "format"], format), (["ka", "katakana"], katakana),
    (["hl", "hebrewletter"], hebrewLetter), (["le", "aletter"], letter),
    (["sq", "singlequote"], singleQuote), (["dq", "doublequote"], doubleQuote),
    (["mb", "midnumlet"], midNumberLetter), (["ml", "midletter"], midLetter),
    (["mn", "midnum"], midNumber), (["nu", "numeric"], numeric),
    (["ex", "extendnumlet"], connector), (["wsegspace"], blank)]

end WordBreak
end PathQuery.Unicode
