import PathQuery.Unicode.Category

/-!
Parts of graphemes: what begins one, what extends the one before it, and what links two.
-/
namespace PathQuery.Unicode

/-- What extends a grapheme but is no mark that takes no space. -/
def otherGraphemeExtend : Ranges := .ofLines [
    "9BE 9D7 B3E B57 BBE BD7 CC0 CC2 CC7-CC8 CCA-CCB CD5-CD6 D3E D57 DCF DDF 1715 1734 1B35 1B3B",
    "1B3D 1B43-1B44 1BAA 1BF2-1BF3 200C 302E-302F A953 A9C0 FF9E-FF9F 111C0 11235 1133E 1134D",
    "11357 113B8 113C2 113C5 113C7-113C9 113CF 114B0 114BD 115AF 116B6 11930 1193D 11F41",
    "16FF0-16FF1 1D165-1D166 1D16D-1D172 E0020-E007F"]

def isGraphemeExtend (c : Char) : Bool :=
  inCategories [.nonspacingMark, .enclosingMark] c || otherGraphemeExtend.contains c

def isGraphemeBase (c : Char) : Bool :=
  !inCategories (.lineSeparator :: .paragraphSeparator :: Category.others) c && !isGraphemeExtend c

def graphemeLink : Ranges := .ofLines [
    "94D 9CD A4D ACD B4D BCD C4D CCD D3B-D3C D4D DCA E3A EBA F84 1039-103A 1714-1715 1734 17D2",
    "1A60 1B44 1BAA-1BAB 1BF2-1BF3 2D7F A806 A82C A8C4 A953 A9C0 AAF6 ABED 10A3F 11046 11070",
    "1107F 110B9 11133-11134 111C0 11235 112EA 1134D 113CE-113D0 11442 114C2 115BF 1163F 116B6",
    "1172B 11839 1193D-1193E 119E0 11A34 11A47 11A99 11C3F 11D44-11D45 11D97 11F41-11F42 1612F"]

def regionalIndicator : Ranges := .ofLines ["1F1E6-1F1FF"]

end PathQuery.Unicode
