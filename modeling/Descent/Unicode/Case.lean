import Descent.Text.CaseFolding
import Descent.Unicode.Category

/-!
# Case

Which characters are small or capital letters, or take part in case in some other way, and which
of them change when a text is put into one case. Most of this follows from the categories and
from case folding; what does not is tabulated. The tables are those of Unicode 16.0.
-/
namespace Descent.Unicode

/-- Characters used like small letters that are not of that category. -/
def otherLowercase : CodePoints := table
  ["GoapaThihbBeeDsaCaaFCzaEPzCknaBiBkBAnanaqmIdpBGqzCWobBUGkbIcaEzcdbBHidjaBIWsaccbBpbiDDZhCj"]

/-- Characters used like capital letters that are not of that category. -/
def otherUppercase : CodePoints :=
  [(0x2160, 0x216F), (0x24B6, 0x24CF), (0x1F130, 0x1F149), (0x1F150, 0x1F169), (0x1F170, 0x1F189)]

def lowercase : CodePoints := lowercaseLetter.union otherLowercase

def uppercase : CodePoints := uppercaseLetter.union otherUppercase

def cased : CodePoints := .unions [lowercase, uppercase, titlecaseLetter]

/-- Small letters whose dot is left out under another mark. -/
def softDotted : CodePoints := table
  ["EbbHoaKvaBeaCaauaMiaDuabaJMnaBzanadaFcaGbaQfaIgbEGgaGELhbBybBybBybBybBybBybBybBybBybBybByb",
   "BybDFyaLtbBaa"]

/-- Punctuation marks that may stand between the letters of a word. -/
def wordInnerMarks : CodePoints :=
  [(0x27, 0x27), (0x2E, 0x2E), (0x3A, 0x3A), (0xB7, 0xB7), (0x387, 0x387), (0x55F, 0x55F),
   (0x5F4, 0x5F4), (0x2018, 0x2019), (0x2024, 0x2024), (0x2027, 0x2027), (0xFE13, 0xFE13),
   (0xFE52, 0xFE52), (0xFE55, 0xFE55), (0xFF07, 0xFF07), (0xFF0E, 0xFF0E), (0xFF1A, 0xFF1A)]

/-- Characters that do not interrupt a word in one case. -/
def caseIgnorable : CodePoints :=
  .unions [nonspacingMark, enclosingMark, format, modifierLetter, modifierSymbol, wordInnerMarks]

/-- Letters that fold to another letter. -/
def folding : CodePoints :=
  .ofRanges ((CaseFolding.foldings.flatMap fun r => r.preimages .everything).map fun n => (n, n))

/-- Letters that another letter folds to. -/
def folded : CodePoints :=
  .ofRanges ((CaseFolding.foldings.flatMap fun r => r.images .everything).map fun n => (n, n))

/-- Capital and title letters with a small letter: those that fold to another letter, the capital
with a dot, and the letters of the script that folds to its capitals. -/
def changesWhenLowercased : CodePoints :=
  (folding.intersection (uppercase.union titlecaseLetter)).union [(0x130, 0x130), (0x13A0, 0x13F5)]

/-- Small letters without a capital of their own, which several capitals stand for. -/
def expandsToCapitals : CodePoints := table
  ["LtaxaGkaBJiaJMseGzabababaDnababbkababbkadbkababbkababbDEYqeoe"]

def changesWhenUppercased : CodePoints :=
  .unions [(folding.union folded).difference uppercase, expandsToCapitals]

/-- Letters that a word which starts with them does not start with in title case. The capital
digraphs are among them, but not the letters of the script whose capitals are for whole texts. -/
def changesWhenTitlecased : CodePoints :=
  ((changesWhenUppercased.difference titlecaseLetter).difference
    [(0x10D0, 0x10FA), (0x10FD, 0x10FF)]).union
    [(0x1C4, 0x1C4), (0x1C7, 0x1C7), (0x1CA, 0x1CA), (0x1F1, 0x1F1)]

/-- Letters that fold to several letters only. -/
def expandsToSmall : CodePoints := table
  ["IpaDcayaBPtaJMwaIvhihihkccakccaBqccaDEYqebame"]

/-- Letters that full folding changes. Three that fold to a letter are the same letter already
when they are taken apart into a letter and its marks. -/
def changesWhenCasefolded : CodePoints :=
  (folding.union expandsToSmall).difference
    [(0x1FBE, 0x1FBE), (0x1FD3, 0x1FD3), (0x1FE3, 0x1FE3)]

def changesWhenCasemapped : CodePoints :=
  .unions [changesWhenLowercased, changesWhenUppercased, changesWhenTitlecased]

/-- The properties that have to do with case, under their names. -/
def caseProperties : List NamedSet :=
  [⟨["lowercase", "lower"], lowercase⟩,
   ⟨["uppercase", "upper"], uppercase⟩,
   ⟨["cased"], cased⟩,
   ⟨["caseignorable", "ci"], caseIgnorable⟩,
   ⟨["softdotted", "sd"], softDotted⟩,
   ⟨["changeswhenlowercased", "cwl"], changesWhenLowercased⟩,
   ⟨["changeswhenuppercased", "cwu"], changesWhenUppercased⟩,
   ⟨["changeswhentitlecased", "cwt"], changesWhenTitlecased⟩,
   ⟨["changeswhencasefolded", "cwcf"], changesWhenCasefolded⟩,
   ⟨["changeswhencasemapped", "cwcm"], changesWhenCasemapped⟩,
   ⟨["otherlowercase", "olower"], otherLowercase⟩,
   ⟨["otheruppercase", "oupper"], otherUppercase⟩]

end Descent.Unicode
