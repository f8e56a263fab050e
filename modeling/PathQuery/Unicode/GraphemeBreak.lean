import PathQuery.Unicode.Emoji
import PathQuery.Unicode.Grapheme
import PathQuery.Unicode.Invisible
import PathQuery.Unicode.Name

/-!
The classes that characters fall into when the edges of graphemes are looked for. The first rule that
fits decides.
-/
namespace PathQuery.Unicode

inductive GraphemeBreak where
  | carriageReturn | lineFeed | control | extend | joiner | prepend | regional
  | spacingMark | leading | vowel | trailing | leadingVowel | leadingVowelTrailing | other
deriving DecidableEq, Repr

namespace GraphemeBreak

def leadingJamo : Ranges := .ofLines ["1100-115F A960-A97C"]

/-- The vowels of Hangul, and those of Kirat Rai that join to one. -/
def joiningVowel : Ranges := .ofLines ["1160-11A7 D7B0-D7C6 16D63 16D67-16D6A"]

def trailingJamo : Ranges := .ofLines ["11A8-11FF D7CB-D7FB"]

def isSyllable (c : Char) : Bool := '\uac00' ≤ c && c ≤ '\ud7a3'

def prependedLetter : Ranges := .ofLines [
    "D4E 111C2-111C3 113D1 1193F 11941 11A3A 11A84-11A89 11D46 11F02"]

/-- Marks that take space and begin a grapheme. -/
def separateMark : Ranges := .ofLines [
    "102B-102C 1038 1062-1064 1067-106D 1083 1087-108C 108F 109A-109C 1A61 1A63-1A64 AA7B AA7D",
    "11720-11721"]

/-- The vowels of Thai and Lao that join to their consonant. -/
def joiningSign : Ranges := .ofLines ["E33 EB3"]

def ofChar (c : Char) : GraphemeBreak :=
  if c = '\r' then carriageReturn
  else if c = '\n' then lineFeed
  else if c = '\u200d' then joiner
  else if isGraphemeExtend c || emojiModifier.contains c then extend
  else if prependedConcatenationMark.contains c || prependedLetter.contains c then prepend
  else if inCategories [.lineSeparator, .paragraphSeparator, .control, .format] c then control
  else if Category.unassigned.contains c && isDefaultIgnorable c then control
  else if regionalIndicator.contains c then regional
  else if joiningSign.contains c then spacingMark
  else if Category.spacingMark.contains c && !separateMark.contains c then spacingMark
  else if leadingJamo.contains c then leading
  else if joiningVowel.contains c then vowel
  else if trailingJamo.contains c then trailing
  else if isSyllable c then
    if (c.toNat - 0xac00) % 28 = 0 then leadingVowel else leadingVowelTrailing
  else other

def named? (name : String) : Option GraphemeBreak :=
  findNamed? name [
    (["cr"], carriageReturn), (["lf"], lineFeed), (["cn", "control"], control),
    (["ex", "extend"], extend), (["zwj"], joiner), (["pp", "prepend"], prepend),
    (["ri", "regionalindicator"], regional), (["sm", "spacingmark"], spacingMark),
    (["l"], leading), (["v"], vowel), (["t"], trailing), (["lv"], leadingVowel),
    (["lvt"], leadingVowelTrailing)]

end GraphemeBreak
end PathQuery.Unicode
