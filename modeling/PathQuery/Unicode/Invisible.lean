import PathQuery.Unicode.Blank
import PathQuery.Unicode.Category

/-!
Characters that show nothing by themselves, and code points that are no characters.
-/
namespace PathQuery.Unicode

def variationSelector : Ranges := .ofLines ["180B-180D 180F FE00-FE0F E0100-E01EF"]

/-- Signs that stand before the digits that they span. -/
def prependedConcatenationMark : Ranges := .ofLines ["600-605 6DD 70F 890-891 8E2 110BD 110CD"]

def otherDefaultIgnorable : Ranges := .ofLines [
    "34F 115F-1160 17B4-17B5 2065 3164 FFA0 FFF0-FFF8 E0000 E0002-E001F E0080-E00FF E01F0-E0FFF"]

/-- Format characters that are shown: annotations and the controls of hieroglyphs. -/
def visibleFormat : Ranges := .ofLines ["FFF9-FFFB 13430-13440"]

/-- What a display without a glyph for it passes over. -/
def isDefaultIgnorable (c : Char) : Bool :=
  (Category.format.contains c || variationSelector.contains c || otherDefaultIgnorable.contains c) &&
    !isBlank c && !visibleFormat.contains c && !prependedConcatenationMark.contains c

def joinControl : Ranges := .ofLines ["200C-200D"]

def bidiControl : Ranges := .ofLines ["61C 200E-200F 202A-202E 2066-2069"]

def deprecatedCharacter : Ranges := .ofLines ["149 673 F77 F79 17A3-17A4 206A-206F 2329-232A E0001"]

/-- The last two code points of each plane, and 32 of the first. -/
def isNoncharacter (c : Char) : Bool :=
  c.toNat % 0x10000 ≥ 0xfffe || (0xfdd0 ≤ c.toNat && c.toNat ≤ 0xfdef)

end PathQuery.Unicode
