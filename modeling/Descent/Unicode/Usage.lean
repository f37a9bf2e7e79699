import Descent.Unicode.Category

/-!
# Usage

What characters are used for: numbers and formulas, punctuation, marks of sound, and the writing
of ideographs. The tables are those of Unicode 16.0.
-/
namespace Descent.Unicode

/-! ## Numbers and formulas -/

def asciiHexDigit : CodePoints := [(0x30, 0x39), (0x41, 0x46), (0x61, 0x66)]

def hexDigit : CodePoints :=
  [(0x30, 0x39), (0x41, 0x46), (0x61, 0x66), (0xFF10, 0xFF19), (0xFF21, 0xFF26), (0xFF41, 0xFF46)]

/-- Letters and other characters that formulas use. -/
def otherMath : CodePoints := table
  ["DqaBHxccaBabcbKQyaBbclaBgdybobCnmeadbeesaeacjbadegadbcbbcbfddfeCxecdbbbbbabecbebercbbabgbagb",
   "LedGmbbayaraRdbmifefbcbdeoabacfybCfabaBddjbNebBfjPnvCldBgbDCLfabaeaIdabaDCOvDgbCsbbcacbcdbl",
   "babgbCmbdchbgbBbbdbebadgbNbcybybBebybBebybBebybBebybhcBxIIqdbBabbbacabjbdbabagaeabababcbbba",
   "cabababababbbacdbgbdbdbabjbqfcbebq"]

def math : CodePoints := mathSymbol.union otherMath

/-! ## Punctuation -/

def dash : CodePoints := table
  ["BtaCAuaBzaFKjaBNpaDBdfCjaBnapaPaaEOiacaBfbeaBcaReataEhaCZWabBlakaGnaFLoaMga"]

def hyphen : CodePoints :=
  [(0x2D, 0x2D), (0xAD, 0xAD), (0x58A, 0x58A), (0x1806, 0x1806), (0x2010, 0x2011),
   (0x2E17, 0x2E17), (0x30FB, 0x30FB), (0xFE63, 0xFE63), (0xFF0D, 0xFF0D), (0xFF65, 0xFF65)]

def quotationMark : CodePoints := table
  ["BiaeaFbapaLWuhzbFIdaRpdncDABpdHhaeaDmb"]

/-- Marks at the end of a part of a text. -/
def terminalPunctuation : CodePoints := table
  ["BhakabalbdaBFyaiaTtaCfaCuaoabcGyaBrkbaJbbCcfbhBfaKbbBWubGqaefLzbBEjhBDtaEucCtbGbcdaBndcbMcb",
   "NqdGgbkbbcBdcHfeCkbBJwaxbjcEUxcLuanaeakabbdbQmbBSHvbKjcIteOsbDibDraFvcFrcExaqbJpaBFCwacbCfc",
   "bdGnakabalbdaCnacaBPqaBwaBSoaHraLybFwfCqfDldBKqeBsdHhgEidExcEzbgaqbDkeEeaLmbEncmbNuddoEbbJpc",
   "TxabaJrbDjbebPycBtaYvbCwbBYxeBAMzbFdaCnckaVhbLjbBDOgaLIld"]

/-- Marks at the end of a sentence. -/
def sentenceTerminal : CodePoints := table
  ["BhamaqaCAbaFrcGyaBrcJmaCjabadbLhbCPwbBEkaebBDtaHqbGbbBtafaMcbNqdGgbkbcbBdcHfbCnbBJwaxbjcEUxc",
   "LuanawbQnaBSHwaKkbItadaOsbDibDraFwbFrcFobJpaBFCwacbChadbGnamaqaCnaEDwbBXdeBsdHhbEndExcEzbga",
   "qbDkbbbEeaLmbEnbOjbfoEbbJpcTxabaJrbDjbQebBAqbCwbBCMbbFdaCnblaVhbLkaBDOgaLIma"]

/-! ## Sounds and signs -/

/-- Marks that modify another character. -/
def diacritic : CodePoints := table
  ["DqabaCtagaeacbTjGcbhffrbeajbJteIbaCdqbBababbbaFehebFebebdcCpBaDnkCgkBibEwhBpjqBbCjaqaddBca",
   "CwaqaEgaqaEgaqaBvcCiaqahaEpaEgaqaEgaqaEfbqaEuaEhamfbaEdaneCxbBbababaebCocbbCkaEiabbBobeezgba",
   "kbBBdcBKmbBeaFskjaNjcLgauhcaBwockEaapaBmiCcbCgalbCobCmfDeyeagaccByCkDllBlkRdabclcncncnbEXkc",
   "MfaTmfEbdDraBSMkambbaBcbDeboBhDycEfbmaBlaFvaBbrCfdBkaDramaBkaFtcCndBzaDwejcEybBDZsaBDppKkaba",
   "BvaBtbCpaBDkaBTnfbBpbiYnceaGjbVzfBmaBaePjcCskBxdHkaBpaCubEqbCkaCyajcEabGwbDcbqaygdeDlcbbnb",
   "DradaEtbJrbEwaEobElaKjbJybeaGaaDfasaDdaQfaJyabbDdaQjbxaHYaoQZpaDSaeChgVsbVaqDcbYGcdbgbbLThBt",
   "cwUycdfihcgBedFMwCjHmgOlaCjdBDmbBCigEfcbc"]

/-- Characters that lengthen or repeat the one before them. -/
def extender : CodePoints := table
  ["HbaUqbBHuaQzaYgaFhaDlaBCyaExaDNfaCeaXnaPiaCqaHKjaBreDzbDpcBQBuaCGsaBLaawaFhaEeavbBFZvaDBkb",
   "CFbaBbaeaBVbaLhaEmbTecBVjaBEOfbBTkbbaBQYabBUfaBGuc"]

def ideographic : CodePoints := table
  ["SEwbziocBLdJTnCmBFBjBHSiObcEbBSIkaBbJBziBVpBpjNUlPfBDEiCLFbBgGDtgIncINpoLBkpXxDQwUvCFyHHy",
   "fGFf"]

def unifiedIdeograph : CodePoints := table
  ["TSaJTnCmBFBjBICsbbabbkababbccDVEcCLFbBgGDtgIncINpoLBkpXxGRqHHyfGFf"]

def radical : CodePoints := [(0x2E80, 0x2E99), (0x2E9B, 0x2EF3), (0x2F00, 0x2FD5)]

/-- Signs that describe an ideograph by one part, two parts or three. -/
def idsUnaryOperator : CodePoints := [(0x2FFE, 0x2FFF)]

def idsBinaryOperator : CodePoints := [(0x2FF0, 0x2FF1), (0x2FF4, 0x2FFD), (0x31EF, 0x31EF)]

def idsTrinaryOperator : CodePoints := [(0x2FF2, 0x2FF3)]

/-! ## Code points not to be used -/

def deprecated : CodePoints :=
  [(0x149, 0x149), (0x673, 0x673), (0xF77, 0xF77), (0xF79, 0xF79), (0x17A3, 0x17A4),
   (0x206A, 0x206F), (0x2329, 0x232A), (0xE0001, 0xE0001)]

/-- Code points that will never be characters: the last two of every plane, and a block. -/
def noncharacter : CodePoints :=
  .unions [[(0xFDD0, 0xFDEF)],
    (List.range 17).map fun plane => (0x10000 * plane + 0xFFFE, 0x10000 * plane + 0xFFFF)]

/-- The properties that have to do with usage, under their names. -/
def usageProperties : List NamedSet :=
  [⟨["asciihexdigit", "ahex"], asciiHexDigit⟩,
   ⟨["hexdigit", "hex"], hexDigit⟩,
   ⟨["math"], math⟩,
   ⟨["othermath", "omath"], otherMath⟩,
   ⟨["dash"], dash⟩,
   ⟨["hyphen"], hyphen⟩,
   ⟨["quotationmark", "qmark"], quotationMark⟩,
   ⟨["terminalpunctuation", "term"], terminalPunctuation⟩,
   ⟨["sentenceterminal", "sterm"], sentenceTerminal⟩,
   ⟨["diacritic", "dia"], diacritic⟩,
   ⟨["extender", "ext"], extender⟩,
   ⟨["ideographic", "ideo"], ideographic⟩,
   ⟨["unifiedideograph", "uideo"], unifiedIdeograph⟩,
   ⟨["radical"], radical⟩,
   ⟨["idsunaryoperator", "idsu"], idsUnaryOperator⟩,
   ⟨["idsbinaryoperator", "idsb"], idsBinaryOperator⟩,
   ⟨["idstrinaryoperator", "idst"], idsTrinaryOperator⟩,
   ⟨["deprecated", "dep"], deprecated⟩,
   ⟨["noncharactercodepoint", "nchar"], noncharacter⟩]

end Descent.Unicode
