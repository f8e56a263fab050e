import PathQuery.Unicode.Script

/-!
Characters that are used in scripts other than their own: mostly marks and signs of the scripts Common
and Inherited, which a few scripts share.
-/
namespace PathQuery.Unicode

/-- Codes of scripts, and the characters that just these scripts use. -/
def scriptExtensions : List (List String × Ranges) := [
    (["beng"], .ofLines ["1CF7"]),
    (["deva"], .ofLines ["1CD1 1CD4 1CDB 1CDE-1CDF 1CE3-1CE8 1CEC 1CEE-1CF1"]),
    (["dupl"], .ofLines ["2E3C 1BCA0-1BCA3"]),
    (["grek"], .ofLines ["342 345 1DC0-1DC1"]),
    (["hani"],
      .ofLines [
        "3006 303E-303F 3190-319F 31C0-31E5 3220-3247 3280-32B0 32C0-32CB 32FF 3358-3370",
        "337B-337F 33E0-33FE 1D360-1D371 1F250-1F251"]),
    (["latn"], .ofLines ["363-36F"]),
    (["nand"], .ofLines ["1CFA"]),
    (["runr"], .ofLines ["16EB-16ED"]),
    (["syrc"], .ofLines ["1DFA"]),
    (["adlm", "arab"], .ofLines ["204F"]),
    (["arab", "copt"], .ofLines ["102E0-102FB"]),
    (["arab", "nkoo"], .ofLines ["FD3E-FD3F"]),
    (["arab", "rohg"], .ofLines ["6D4"]),
    (["arab", "syrc"], .ofLines ["64B-655 670"]),
    (["arab", "thaa"], .ofLines ["FDF2 FDFD"]),
    (["avst", "orkh"], .ofLines ["2E30"]),
    (["beng", "deva"], .ofLines ["1CE1 1CF5-1CF6"]),
    (["bopo", "hani"], .ofLines ["302A-302D"]),
    (["bopo", "latn"], .ofLines ["2C7 2C9-2CB 2D9"]),
    (["bugi", "java"], .ofLines ["A9CF"]),
    (["copt", "grek"], .ofLines ["374-375"]),
    (["copt", "latn"], .ofLines ["2E17"]),
    (["cprt", "linb"], .ofLines ["10102 10137-1013F"]),
    (["cyrl", "glag"], .ofLines ["484 487 2E43 A66F"]),
    (["cyrl", "latn"], .ofLines ["485-486"]),
    (["cyrl", "perm"], .ofLines ["483"]),
    (["deva", "gran"], .ofLines ["1CF3 1CF8-1CF9"]),
    (["deva", "newa"], .ofLines ["1CEB"]),
    (["deva", "shrd"], .ofLines ["1CD9 1CDC-1CDD 1CE0"]),
    (["deva", "taml"], .ofLines ["A8F3"]),
    (["ethi", "latn"], .ofLines ["30E"]),
    (["gran", "taml"], .ofLines ["BE6-BF3 11301 11303 1133B-1133C 11FD0-11FD1 11FD3"]),
    (["gujr", "khoj"], .ofLines ["AE6-AEF"]),
    (["guru", "mult"], .ofLines ["A66-A6F"]),
    (["hani", "latn"], .ofLines ["A700-A707"]),
    (["hani", "tang"], .ofLines ["2FF0-2FFF 31EF"]),
    (["hira", "kana"], .ofLines ["3031-3035 3099-309C 30A0 30FC FF70 FF9E-FF9F"]),
    (["latn", "lisu"], .ofLines ["2CD"]),
    (["latn", "osge"], .ofLines ["358"]),
    (["latn", "sunu"], .ofLines ["30D 310"]),
    (["latn", "syrc"], .ofLines ["325 32E"]),
    (["latn", "tfng"], .ofLines ["309"]),
    (["latn", "thai"], .ofLines ["2D7"]),
    (["mani", "ougr"], .ofLines ["10AF2"]),
    (["mong", "phag"], .ofLines ["1802-1803 1805"]),
    (["adlm", "arab", "hung"], .ofLines ["2E41"]),
    (["aghb", "latn", "todr"], .ofLines ["35E"]),
    (["arab", "syrc", "thaa"], .ofLines ["61C"]),
    (["arab", "thaa", "yezi"], .ofLines ["660-669"]),
    (["armn", "geor", "glag"], .ofLines ["589"]),
    (["beng", "cakm", "sylo"], .ofLines ["9E6-9EF"]),
    (["beng", "deva", "shrd"], .ofLines ["1CEA"]),
    (["beng", "deva", "telu"], .ofLines ["1CD6"]),
    (["beng", "deva", "tutg"], .ofLines ["A8F1"]),
    (["cakm", "mymr", "tale"], .ofLines ["1040-1049"]),
    (["cher", "latn", "syrc"], .ofLines ["330"]),
    (["cher", "latn", "tale"], .ofLines ["30C"]),
    (["cpmn", "cprt", "linb"], .ofLines ["10100-10101"]),
    (["cprt", "lina", "linb"], .ofLines ["10107-10133"]),
    (["cyrl", "latn", "syrc"], .ofLines ["1DF8"]),
    (["cyrl", "latn", "todr"], .ofLines ["311"]),
    (["deva", "gran", "knda"], .ofLines ["1CD3"]),
    (["deva", "gran", "latn"], .ofLines ["20F0"]),
    (["deva", "nand", "newa"], .ofLines ["1CE9"]),
    (["deva", "newa", "shrd"], .ofLines ["1CD7"]),
    (["deva", "newa", "tirh"], .ofLines ["1CE2"]),
    (["dupl", "latn", "syrc"], .ofLines ["30A"]),
    (["geor", "glag", "latn"], .ofLines ["10FB"]),
    (["hani", "hira", "kana"], .ofLines ["303C-303D"]),
    (["kali", "latn", "mymr"], .ofLines ["A92E"]),
    (["knda", "nand", "tutg"], .ofLines ["CE6-CEF"]),
    (["latn", "mong", "phag"], .ofLines ["202F"]),
    (["latn", "sunu", "syrc"], .ofLines ["32D"]),
    (["beng", "deva", "gran", "knda"], .ofLines ["1CD0 1CD2"]),
    (["beng", "deva", "newa", "shrd"], .ofLines ["1CED"]),
    (["beng", "deva", "newa", "telu"], .ofLines ["1CD8"]),
    (["buhd", "hano", "tagb", "tglg"], .ofLines ["1735-1736"]),
    (["cari", "grek", "hung", "mero"], .ofLines ["205D"]),
    (["cher", "cyrl", "latn", "osge"], .ofLines ["30B"]),
    (["cher", "cyrl", "latn", "tfng"], .ofLines ["302"]),
    (["cher", "dupl", "latn", "syrc"], .ofLines ["324"]),
    (["deva", "dogr", "kthi", "mahj"], .ofLines ["966-96F"]),
    (["deva", "gran", "knda", "tutg"], .ofLines ["1CF4"]),
    (["grek", "latn", "perm", "todr"], .ofLines ["313"]),
    (["beng", "deva", "newa", "telu", "tirh"], .ofLines ["1CD5"]),
    (["bopo", "hang", "hani", "hira", "kana"],
      .ofLines ["3003 3013 301C-301F 3030 3037 FE45-FE46"]),
    (["cyrl", "grek", "latn", "perm", "tfng"], .ofLines ["306"]),
    (["glag", "latn", "sunu", "syrc", "thai"], .ofLines ["303"]),
    (["bopo", "hang", "hani", "hira", "kana", "yiii"],
      .ofLines ["300C-3011 3014-301B 30FB FF61-FF65"]),
    (["cari", "geor", "glag", "hung", "lyci", "orkh"], .ofLines ["205A"]),
    (["cher", "dupl", "kana", "latn", "syrc", "tfng"], .ofLines ["323"]),
    (["copt", "elba", "glag", "goth", "kana", "latn"], .ofLines ["305"]),
    (["deva", "knda", "mlym", "orya", "taml", "telu"], .ofLines ["1CDA"]),
    (["aghb", "cher", "goth", "latn", "sunu", "syrc", "thai"], .ofLines ["331"]),
    (["arab", "gara", "nkoo", "rohg", "syrc", "thaa", "yezi"], .ofLines ["60C 61B"]),
    (["avst", "cari", "geor", "hung", "kthi", "lydi", "samr"], .ofLines ["2E31"]),
    (["beng", "cyrl", "deva", "latn", "lisu", "thai", "toto"], .ofLines ["2BC"]),
    (["bopo", "hang", "hani", "hira", "kana", "mong", "yiii"], .ofLines ["3001"]),
    (["adlm", "arab", "gara", "nkoo", "rohg", "syrc", "thaa", "yezi"], .ofLines ["61F"]),
    (["bopo", "hang", "hani", "hira", "kana", "mong", "phag", "yiii"], .ofLines ["3002"]),
    (["bopo", "hang", "hani", "hira", "kana", "mong", "tibt", "yiii"], .ofLines ["3008-3009"]),
    (["cher", "copt", "cyrl", "grek", "latn", "perm", "sunu", "tale"], .ofLines ["300"]),
    (["cher", "cyrl", "grek", "latn", "osge", "sunu", "tale", "todr"], .ofLines ["301"]),
    (["adlm", "arab", "mand", "mani", "ougr", "phlp", "rohg", "sogd", "syrc"], .ofLines ["640"]),
    (["bopo", "hang", "hani", "hira", "kana", "lisu", "mong", "tibt", "yiii"],
      .ofLines ["300A-300B"]),
    (["copt", "dupl", "hebr", "latn", "perm", "syrc", "tale", "tfng", "todr"], .ofLines ["307"]),
    (["aghb", "cher", "copt", "cyrl", "goth", "grek", "latn", "osge", "syrc", "tfng", "todr"],
      .ofLines ["304"]),
    (["armn", "cyrl", "dupl", "goth", "grek", "hebr", "latn", "perm", "syrc", "tale", "tfng"],
      .ofLines ["308"]),
    (["beng", "deva", "gran", "knda", "mlym", "nand", "orya", "sinh", "telu", "tirh", "tutg"],
      .ofLines ["1CF2"]),
    (["deva", "dogr", "gujr", "guru", "khoj", "kthi", "mahj", "modi", "sind", "takr", "tirh"],
      .ofLines ["A836-A837 A839"]),
    (["deva", "dogr", "gujr", "guru", "khoj", "kthi", "mahj", "modi", "shrd", "sind", "takr",
      "tirh"],
      .ofLines ["A838"]),
    (["beng", "deva", "gran", "gujr", "guru", "knda", "latn", "mlym", "newa", "orya", "taml",
      "telu", "tirh"],
      .ofLines ["952"]),
    (["beng", "deva", "gran", "gujr", "guru", "knda", "latn", "mlym", "nand", "newa", "orya",
      "shrd", "taml", "telu", "tirh"],
      .ofLines ["951"]),
    (["deva", "dogr", "gujr", "guru", "khoj", "knda", "kthi", "mahj", "modi", "nand", "shrd",
      "sind", "takr", "tirh", "tutg"],
      .ofLines ["A833-A835"]),
    (["avst", "cari", "copt", "dupl", "elba", "geor", "glag", "gong", "goth", "grek", "hani",
      "latn", "lydi", "mahj", "perm", "shaw"],
      .ofLines ["B7"]),
    (["deva", "dogr", "gujr", "guru", "khoj", "knda", "kthi", "mahj", "mlym", "modi", "nand",
      "shrd", "sind", "takr", "tirh", "tutg"],
      .ofLines ["A830-A832"]),
    (["beng", "deva", "dogr", "gong", "gonm", "gran", "gujr", "guru", "knda", "mahj", "mlym",
      "nand", "onao", "orya", "sind", "sinh", "sylo", "takr", "taml", "telu", "tirh"],
      .ofLines ["964"]),
    (["beng", "deva", "dogr", "gong", "gonm", "gran", "gujr", "gukh", "guru", "knda", "limb",
      "mahj", "mlym", "nand", "onao", "orya", "sind", "sinh", "sylo", "takr", "taml", "telu",
      "tirh"],
      .ofLines ["965"])]

namespace Script

/-- Whether a script uses a character: one that it shares, or one of its own that is not shared. -/
def uses (script : Script) : Char → Bool :=
  let own := script.ranges
  fun c =>
    match scriptExtensions.find? fun entry => entry.2.contains c with
    | some entry => entry.1.contains script.code
    | none => own.contains c

end Script
end PathQuery.Unicode
