import Descent.Unicode.Case

/-!
# Words and identifiers

The characters that make up words, and those that identifiers are made of in languages that
follow the standard. The tables are those of Unicode 16.0.
-/
namespace Descent.Unicode

/-- Marks and symbols that are used like letters. -/
def otherAlphabetic : CodePoints := table
  ["BGfaBdmWenbabbbbbaCukBwmbgqaDxgedcbeaBjaBepDykDxbdibcbdEcaCildggtCcbcobbfckbBdcCggcbcbkakb",
   "BdcCgeebcbeaBebdalcCghbcbbvbwcecCggcbcbjbkbBeaChedcbckaBoeCfgbcbciblbBdcCggbcbciblbpamdCggbc",
   "bckakbBdcCxfbabhsbCjacgsaDvacfbbqaGhsjkbBjEglbacdxdecbccgddnlbakdCLobBebBebBebCosHgbBiaEolei",
   "IoeCfjctCwblcBxeBwoCicBeicbCfkBysPwBhCOnBzDKgBfBTQahBibNqaiaxeDkbBypbaCfaBmeBclBtdBwlBlaCpn",
   "maibBtcByabccbfaBsefaJdhBDZvaDEdeCMgcbbfdBEidCnaMjbDbaJzcCbnBtblcBtijaCjcBklsbCfcBwmobDoica",
   "gacaGbjxdCggcbcbkakbDgibacabdbbDzmbcEcrJdgcgBdbDeobaEckDznJxmJnfbbcbdabaFmgcfeaBcjBqebdskBun",
   "PrhbgDfvbnEsfdabbbcbadaCoebbbdNkdjbbaBwgdcYYnqFJcabCchdDpbBDAyaNKjgbqcgbbbeDwaDHvaCZwzgzgz"]

def alphabetic : CodePoints := .unions [lowercase, uppercase, letter, letterNumber, otherAlphabetic]

def whiteSpace : CodePoints :=
  [(0x9, 0xD), (0x20, 0x20), (0x85, 0x85), (0xA0, 0xA0), (0x1680, 0x1680), (0x2000, 0x200A),
   (0x2028, 0x2029), (0x202F, 0x202F), (0x205F, 0x205F), (0x3000, 0x3000)]

/-- The characters that join or part the characters around them. -/
def joinControl : CodePoints := [(0x200C, 0x200D)]

/-- The characters that words are made of: letters, marks, decimal digits, the punctuation that
connects words, and the controls that join letters. -/
def wordCharacters : CodePoints :=
  .unions [alphabetic, mark, decimalNumber, connectorPunctuation, joinControl]

/-- Characters that are kept for the notation of languages. -/
def patternSyntax : CodePoints := table
  ["BhokgBadbaBadBigbabbbabbeaeadaxaBfaLUexiocsbjLtBBrGeYfBeBRnTsExOvceypaCZQzbKbb"]

def patternWhiteSpace : CodePoints :=
  [(0x9, 0xD), (0x20, 0x20), (0x85, 0x85), (0x200E, 0x200F), (0x2028, 0x2029)]

def otherIdStart : CodePoints :=
  [(0x1885, 0x1886), (0x2118, 0x2118), (0x212E, 0x212E), (0x309B, 0x309C)]

def otherIdContinue : CodePoints :=
  [(0xB7, 0xB7), (0x387, 0x387), (0x1369, 0x1371), (0x19DA, 0x19DA), (0x200C, 0x200D),
   (0x30FB, 0x30FB), (0xFF65, 0xFF65)]

def idStart : CodePoints :=
  (.unions [letter, letterNumber, otherIdStart] : CodePoints)
    |>.difference patternSyntax |>.difference patternWhiteSpace

def idContinue : CodePoints :=
  (.unions [idStart, nonspacingMark, spacingMark, decimalNumber, connectorPunctuation,
    otherIdContinue] : CodePoints)
    |>.difference patternSyntax |>.difference patternWhiteSpace

/-- Characters that normalization takes apart into some that no identifier may hold. -/
def decomposedApart : CodePoints :=
  [(0x37A, 0x37A), (0x309B, 0x309C), (0xFC5E, 0xFC63), (0xFDFA, 0xFDFB), (0xFE70, 0xFE70),
   (0xFE72, 0xFE72), (0xFE74, 0xFE74), (0xFE76, 0xFE76), (0xFE78, 0xFE78), (0xFE7A, 0xFE7A),
   (0xFE7C, 0xFE7C), (0xFE7E, 0xFE7E)]

/-- Characters that normalization takes apart into some that may not come first. -/
def decomposedLater : CodePoints := [(0xE33, 0xE33), (0xEB3, 0xEB3), (0xFF9E, 0xFF9F)]

def xidStart : CodePoints := (idStart.difference decomposedApart).difference decomposedLater

def xidContinue : CodePoints := idContinue.difference decomposedApart

/-- Mathematical signs that an identifier may start with where such are allowed. -/
def idCompatMathStart : CodePoints := table
  ["MWwaeawaGJJeazaBfazaBfazaBfazaBfaza"]

def idCompatMathContinue : CodePoints :=
  idCompatMathStart.union
    [(0xB2, 0xB3), (0xB9, 0xB9), (0x2070, 0x2070), (0x2074, 0x207E), (0x2080, 0x208E)]

/-- The properties that have to do with words and identifiers, under their names. -/
def wordProperties : List NamedSet :=
  [⟨["alphabetic", "alpha"], alphabetic⟩,
   ⟨["whitespace", "wspace", "space"], whiteSpace⟩,
   ⟨["idstart", "ids"], idStart⟩,
   ⟨["idcontinue", "idc"], idContinue⟩,
   ⟨["xidstart", "xids"], xidStart⟩,
   ⟨["xidcontinue", "xidc"], xidContinue⟩,
   ⟨["patternsyntax", "patsyn"], patternSyntax⟩,
   ⟨["patternwhitespace", "patws"], patternWhiteSpace⟩,
   ⟨["idcompatmathstart"], idCompatMathStart⟩,
   ⟨["idcompatmathcontinue"], idCompatMathContinue⟩,
   ⟨["joincontrol", "joinc"], joinControl⟩,
   ⟨["otheralphabetic", "oalpha"], otherAlphabetic⟩,
   ⟨["otheridstart", "oids"], otherIdStart⟩,
   ⟨["otheridcontinue", "oidc"], otherIdContinue⟩]

end Descent.Unicode
