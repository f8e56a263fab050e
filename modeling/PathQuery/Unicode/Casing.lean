import PathQuery.Unicode.Alphabetic
import PathQuery.Unicode.CaseFold
import PathQuery.Unicode.Lowercase

/-!
Properties of case: which characters have it, which are passed over when the edges of words are looked
for, and which a change of case changes.
-/
namespace PathQuery.Unicode

def isCased (c : Char) : Bool :=
  isLowercase c || isUppercase c || Category.titlecaseLetter.contains c

/-- The apostrophes, dots and colons that words go on behind. -/
def midWord : Ranges := .ofLines [
    "27 2E 3A B7 387 55F 5F4 2018-2019 2024 2027 FE13 FE52 FE55 FF07 FF0E FF1A"]

def isCaseIgnorable (c : Char) : Bool :=
  inCategories [.nonspacingMark, .enclosingMark, .format, .modifierLetter, .modifierSymbol] c ||
    midWord.contains c

def changesWhenLowercased (c : Char) : Bool := lowercase c ≠ [c]

def changingWhenUppercased : Ranges := .ofLines [
    "61-7A B5 DF-F6 F8-FF 101-137/2 13A-146/2 148-149 14B-177/2 17A 17C 17E-180 183 185 188 18C",
    "192 195 199-19B 19E 1A1-1A5/2 1A8 1AD 1B0 1B4 1B6 1B9 1BD 1BF 1C5-1C6 1C8-1C9 1CB-1CC",
    "1CE-1DA/2 1DC-1DD 1DF-1ED/2 1EF-1F0 1F2-1F3 1F5 1F9-21F/2 223-233/2 23C 23F-240 242",
    "247-24D/2 24F-254 256-257 259 25B-25C 260-261 263-266 268-26C 26F 271-272 275 27D 280",
    "282-283 287-28C 292 29D-29E 345 371 373 377 37B-37D 390 3AC-3CE 3D0-3D1 3D5-3D7 3D9-3ED/2",
    "3EF-3F3 3F5 3F8 3FB 430-45F 461-481/2 48B-4BF/2 4C2-4CC/2 4CE-4CF 4D1-52F/2 561-587",
    "10D0-10FA 10FD-10FF 13F8-13FD 1C80-1C88 1C8A 1D79 1D7D 1D8E 1E01-1E93/2 1E95-1E9B",
    "1EA1-1EFD/2 1EFF-1F07 1F10-1F15 1F20-1F27 1F30-1F37 1F40-1F45 1F50-1F57 1F60-1F67 1F70-1F7D",
    "1F80-1FB4 1FB6-1FB7 1FBC 1FBE 1FC2-1FC4 1FC6-1FC7 1FCC 1FD0-1FD3 1FD6-1FD7 1FE0-1FE7",
    "1FF2-1FF4 1FF6-1FF7 1FFC 214E 2170-217F 2184 24D0-24E9 2C30-2C5F 2C61 2C65-2C66 2C68-2C6C/2",
    "2C73 2C76 2C81-2CE3/2 2CEC 2CEE 2CF3 2D00-2D25 2D27 2D2D A641-A66D/2 A681-A69B/2 A723-A72F/2",
    "A733-A76F/2 A77A A77C A77F-A787/2 A78C A791 A793-A794 A797-A7A9/2 A7B5-A7C3/2 A7C8 A7CA A7CD",
    "A7D1 A7D7-A7DB/2 A7F6 AB53 AB70-ABBF FB00-FB06 FB13-FB17 FF41-FF5A 10428-1044F 104D8-104FB",
    "10597-105A1 105A3-105B1 105B3-105B9 105BB-105BC 10CC0-10CF2 10D70-10D85 118C0-118DF",
    "16E60-16E7F 1E922-1E943"]

def changesWhenUppercased (c : Char) : Bool := changingWhenUppercased.contains c

/-- The capitals of the digraphs that have a title case. -/
def digraphCapital : Ranges := .ofLines ["1C4 1C7 1CA 1F1"]

def isGeorgianSmall (c : Char) : Bool := '\u10d0' ≤ c && c ≤ '\u10ff'

/-- Small letters have a title case other than themselves, but for the Georgian ones. -/
def changesWhenTitlecased (c : Char) : Bool :=
  digraphCapital.contains c ||
    (changesWhenUppercased c && !Category.titlecaseLetter.contains c && !isGeorgianSmall c)

def changesWhenCasemapped (c : Char) : Bool :=
  changesWhenLowercased c || changesWhenUppercased c || changesWhenTitlecased c

/-- Characters that fold to several. -/
def foldingToSeveral : Ranges := .ofLines [
    "DF 130 149 587 1E9A 1F80-1F87 1F90-1F97 1FA0-1FA7 1FB2-1FB4 1FB7 1FC2-1FC4 1FC7 1FF2-1FF4",
    "1FF7 FB00-FB04 FB06 FB13-FB17"]

/-- Full folding changes what simple folding changes, except for three Greek letters: what they fold to
is canonically equivalent to them. -/
def changesWhenCasefolded (c : Char) : Bool :=
  foldingToSeveral.contains c ||
    (foldChar c ≠ c && c ≠ '\u1fbe' && c ≠ '\u1fd3' && c ≠ '\u1fe3')

end PathQuery.Unicode
