import PathQuery.Unicode.Casing
import PathQuery.Unicode.Emoji
import PathQuery.Unicode.Grapheme
import PathQuery.Unicode.Identifier
import PathQuery.Unicode.Invisible
import PathQuery.Unicode.Mark
import PathQuery.Unicode.Name
import PathQuery.Unicode.Punctuation
import PathQuery.Unicode.Symbol

/-!
The properties that a character has or has not, under their names.
-/
namespace PathQuery.Unicode

/-- Names are in small letters without separators; the first of each is the long one. -/
def properties : List (List String × (Char → Bool)) := [
    (["alphabetic", "alpha"], isAlphabetic),
    (["asciihexdigit", "ahex"], asciiHexDigit.contains),
    (["bidicontrol", "bidic"], bidiControl.contains),
    (["bidimirrored", "bidim"], bidiMirrored.contains),
    (["caseignorable", "ci"], isCaseIgnorable),
    (["cased"], isCased),
    (["changeswhencasefolded", "cwcf"], changesWhenCasefolded),
    (["changeswhencasemapped", "cwcm"], changesWhenCasemapped),
    (["changeswhenlowercased", "cwl"], changesWhenLowercased),
    (["changeswhentitlecased", "cwt"], changesWhenTitlecased),
    (["changeswhenuppercased", "cwu"], changesWhenUppercased),
    (["dash"], dash.contains),
    (["defaultignorablecodepoint", "di"], isDefaultIgnorable),
    (["deprecated", "dep"], deprecatedCharacter.contains),
    (["diacritic", "dia"], diacritic.contains),
    (["emoji"], emoji.contains),
    (["emojicomponent", "ecomp"], emojiComponent.contains),
    (["emojimodifier", "emod"], emojiModifier.contains),
    (["emojimodifierbase", "ebase"], emojiModifierBase.contains),
    (["emojipresentation", "epres"], emojiPresentation.contains),
    (["extendedpictographic", "extpict"], pictograph.contains),
    (["extender", "ext"], extender.contains),
    (["graphemebase", "grbase"], isGraphemeBase),
    (["graphemeextend", "grext"], isGraphemeExtend),
    (["graphemelink", "grlink"], graphemeLink.contains),
    (["hexdigit", "hex"], hexDigit.contains),
    (["hyphen"], hyphen.contains),
    (["idcompatmathcontinue"], isCompatibleMathContinue),
    (["idcompatmathstart"], compatibleMathStart.contains),
    (["idcontinue", "idc"], isIdContinue),
    (["idstart", "ids"], isIdStart),
    (["ideographic", "ideo"], ideographic.contains),
    (["idsbinaryoperator", "idsb"], binaryDescription.contains),
    (["idstrinaryoperator", "idst"], trinaryDescription.contains),
    (["idsunaryoperator", "idsu"], unaryDescription.contains),
    (["joincontrol", "joinc"], joinControl.contains),
    (["logicalorderexception", "loe"], logicalOrderException.contains),
    (["lowercase", "lower"], isLowercase),
    (["math"], isMath),
    (["modifiercombiningmark", "mcm"], modifierCombiningMark.contains),
    (["noncharactercodepoint", "nchar"], isNoncharacter),
    (["otheralphabetic", "oalpha"], otherAlphabetic.contains),
    (["otherdefaultignorablecodepoint", "odi"], otherDefaultIgnorable.contains),
    (["othergraphemeextend", "ogrext"], otherGraphemeExtend.contains),
    (["otheridcontinue", "oidc"], otherIdContinue.contains),
    (["otheridstart", "oids"], otherIdStart.contains),
    (["otherlowercase", "olower"], otherLowercase.contains),
    (["othermath", "omath"], otherMath.contains),
    (["otheruppercase", "oupper"], otherUppercase.contains),
    (["patternsyntax", "patsyn"], patternSyntax.contains),
    (["patternwhitespace", "patws"], patternWhiteSpace.contains),
    (["prependedconcatenationmark", "pcm"], prependedConcatenationMark.contains),
    (["quotationmark", "qmark"], quotationMark.contains),
    (["radical"], radical.contains),
    (["regionalindicator", "ri"], regionalIndicator.contains),
    (["sentenceterminal", "sterm"], sentenceTerminal.contains),
    (["softdotted", "sd"], softDotted.contains),
    (["terminalpunctuation", "term"], terminalPunctuation.contains),
    (["unifiedideograph", "uideo"], unifiedIdeograph.contains),
    (["uppercase", "upper"], isUppercase),
    (["variationselector", "vs"], variationSelector.contains),
    (["whitespace", "wspace", "space"], isBlank),
    (["xidcontinue", "xidc"], isXidContinue),
    (["xidstart", "xids"], isXidStart)]

def property? (name : String) : Option (Char → Bool) := findNamed? name properties

end PathQuery.Unicode
