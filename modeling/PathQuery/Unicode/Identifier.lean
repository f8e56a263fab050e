import PathQuery.Unicode.Category

/-!
Identifiers: their first and their other characters, and the signs and blanks that are never among
them. The narrower properties hold on to their meaning under compatibility normalization.
-/
namespace PathQuery.Unicode

def patternSyntax : Ranges := .ofLines [
    "21-2F 3A-40 5B-5E 60 7B-7E A1-A7 A9 AB-AC AE B0-B1 B6 BB BF D7 F7 2010-2027 2030-203E",
    "2041-2053 2055-205E 2190-245F 2500-2775 2794-2BFF 2E00-2E7F 3001-3003 3008-3020 3030",
    "FD3E-FD3F FE45-FE46"]

def patternWhiteSpace : Ranges := .ofLines ["9-D 20 85 200E-200F 2028-2029"]

def isReserved (c : Char) : Bool := patternSyntax.contains c || patternWhiteSpace.contains c

def otherIdStart : Ranges := .ofLines ["1885-1886 2118 212E 309B-309C"]

def otherIdContinue : Ranges := .ofLines ["B7 387 1369-1371 19DA 200C-200D 30FB FF65"]

def isIdStart (c : Char) : Bool :=
  (inCategories (.letterNumber :: Category.letters) c || otherIdStart.contains c) && !isReserved c

def isIdContinue (c : Char) : Bool :=
  isIdStart c || ((inCategories
    [.nonspacingMark, .spacingMark, .decimalNumber, .connectorPunctuation] c ||
    otherIdContinue.contains c) && !isReserved c)

/-- What no identifier may have in it if normalization is not to break it. -/
def unstableInIdentifiers : Ranges := .ofLines ["37A 309B-309C FC5E-FC63 FDFA-FDFB FE70-FE7E/2"]

/-- What no identifier may begin with, moreover. -/
def unstableAtStart : Ranges := .ofLines ["E33 EB3 FF9E-FF9F"]

def isXidStart (c : Char) : Bool :=
  isIdStart c && !unstableInIdentifiers.contains c && !unstableAtStart.contains c

def isXidContinue (c : Char) : Bool := isIdContinue c && !unstableInIdentifiers.contains c

/-- Mathematical signs that some languages let identifiers begin with. -/
def compatibleMathStart : Ranges := .ofLines [
    "2202 2207 221E 1D6C1 1D6DB 1D6FB 1D715 1D735 1D74F 1D76F 1D789 1D7A9 1D7C3"]

def raisedOrLowered : Ranges := .ofLines ["B2-B3 B9 2070 2074-207E 2080-208E"]

def isCompatibleMathContinue (c : Char) : Bool :=
  compatibleMathStart.contains c || raisedOrLowered.contains c

end PathQuery.Unicode
