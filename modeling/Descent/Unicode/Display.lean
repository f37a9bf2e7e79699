import Descent.Unicode.Word

/-!
# Display

How characters combine on a line: which attach to the character before them, which are not shown
at all, which change the direction of writing, and which are pictures. The tables are those of
Unicode 16.0.
-/
namespace Descent.Unicode

/-! ## Combining -/

def otherGraphemeExtend : CodePoints := table
  ["DRyayaNuayaDyayaIyabaebbbjbDzayaEpapaDMraBeaBNkafabafbDxaCtbBOiaGCvbBTWtaEeaBGNlbGWmaEmaKea",
   "oajaDsajacabcfaIqamaJhaKcaYjamaCHfaBEOkbBKXnbgfBTLAzDr"]

/-- Characters that attach to the one before them. -/
def graphemeExtend : CodePoints := .unions [enclosingMark, nonspacingMark, otherGraphemeExtend]

def graphemeBase : CodePoints :=
  (CodePoints.everything.difference graphemeExtend).difference
    (.unions [other, lineSeparator, paragraphSeparator])

/-- Marks that join two consonants. -/
def graphemeLink : CodePoints := table
  ["DNpaExaExaExaExaExaExaExaEfbqaEuaEhaExaHtaGybCPlbBeaGbaZdaItaDxbCsbGQtaBUKkaBlaFvaFmaEeaLxa",
   "JmaBJSraCHiaBpaoaCfaErbFjaEmaGyaDuaEycEjaExaJsaExaEoaEmaKjaJzbGfaDfasaDdaQfaKabDdaQjbYZca"]

def modifierCombiningMark : CodePoints :=
  [(0x654, 0x655), (0x658, 0x658), (0x6DC, 0x6DC), (0x6E3, 0x6E3), (0x6E7, 0x6E8), (0x8CA, 0x8CB),
   (0x8CD, 0x8CF), (0x8D3, 0x8D3), (0x8F3, 0x8F3)]

/-! ## Direction and what is not shown -/

def variationSelector : CodePoints :=
  [(0x180B, 0x180D), (0x180F, 0x180F), (0xFE00, 0xFE0F), (0xE0100, 0xE01EF)]

/-- Format characters that are shown, before the digits that they reach over. -/
def prependedConcatenationMark : CodePoints :=
  [(0x600, 0x605), (0x6DD, 0x6DD), (0x70F, 0x70F), (0x890, 0x891), (0x8E2, 0x8E2),
   (0x110BD, 0x110BD), (0x110CD, 0x110CD)]

def otherDefaultIgnorable : CodePoints := table
  ["BGpaFIlbCKhbDHnaGLiaDACpaDbiBWMIhabBdDsExJgFIl"]

/-- Characters that are left out in display where they are not known. -/
def defaultIgnorable : CodePoints :=
  (.unions [otherDefaultIgnorable, format, variationSelector] : CodePoints)
    |>.difference (.unions [whiteSpace, prependedConcatenationMark])
    |>.difference [(0xFFF9, 0xFFFB), (0x13430, 0x13440)]

/-- Controls of the direction of writing. -/
def bidiControl : CodePoints :=
  [(0x61C, 0x61C), (0x200E, 0x200F), (0x202A, 0x202E), (0x2066, 0x2069)]

/-- Characters that are mirrored where writing goes from right to left. -/
def bidiMirrored : CodePoints := table
  ["BobsabaBcabaBdabaBtapaFMsdCUnbDQqbkbCcbobGvaHkddfdadbddbdbabaeifabrfdjbbabhbBfcdfajbcsfbjecb",
   "excpidubhbBPtnCwacdbbbcfdfcdnPnvcfbniahfdaeebbceeabccbkfcbmsbdcabacabdfbgcyblbedbbcbeBqchbBn",
   "fabadefceadebaJwaTvddbbbobcjBrhQljchDACrffbGgbsabaBcabaBdababbbbDDPnaCfaCfaCfaCfa"]

/-- Vowels that are written before the consonant after which they are spoken. -/
def logicalOrderException : CodePoints :=
  [(0xE40, 0xE44), (0xEC0, 0xEC4), (0x19B5, 0x19B7), (0x19BA, 0x19BA), (0xAAB5, 0xAAB6),
   (0xAAB9, 0xAAB9), (0xAABB, 0xAABC)]

/-! ## Pictures -/

def emoji : CodePoints := table
  ["BjagafjEhaeaLYramaIiawaDmfpbOdbmaGkazkecHraIxbkajaCgdbejacacbcaeacabbcadadbicfabafllbcabbba",
   "sacbsfbabbdbfacbeblbfbcafbbabbubffbdcaeacacfbacababagadagakbpacaeabaecbalbBwcjaoaoaOibRvctb",
   "BzaeaBVuamaXdabaGMRqaHuaGebmboacjCxzbbxauacivbGsBhcEhcbbccDeccbKcbCklfbxhbchmacdcaebnbcaibja",
   "fcmciccabaeagadagDhBwCrfhccejdabbdacjItleaKxBubjbHcEimdjfCdhockgi"]

def emojiComponent : CodePoints :=
  [(0x23, 0x23), (0x2A, 0x2A), (0x30, 0x39), (0x200D, 0x200D), (0x20E3, 0x20E3), (0xFE0F, 0xFE0F),
   (0x1F1E6, 0x1F1FF), (0x1F3FB, 0x1F3FF), (0x1F9B0, 0x1F9B3), (0xE0020, 0xE007F)]

def emojiModifier : CodePoints := [(0x1F3FB, 0x1F3FF)]

def emojiModifierBase : CodePoints := table
  ["OLhaIlaqdGSJvaCiccaccEnbckvsdaecbchabayaHtbeavaebGscdeDfaqcjalaWdacaihgajjccCeaCjbbbbarcbm",
   "IvcBqi"]

/-- Pictures that are shown in colour unless asked otherwise. -/
def emojiPresentation : CodePoints := table
  ["NHqbHxddacaUbbvbBylBratanaibrbfbiafavahbbaeacahaebBcaBjabaecbaCjcyaoaBHbbBzaeaGPLeaHuaHiacj",
   "CxzbayauacebcvbGsBgmibCrbvmBqeemqdadCsbabHecCkndbxsaBabnaDiDgBwCrgadcccedlbhiItleaKxBubjbHc",
   "EimdjfCdhockgi"]

def extendedPictographic : CodePoints := table
  ["GnaeaLYramaIiawaDmfpbOdbmaDraCsazkecHraIxbkajaCgdbfblbEjkEnckbabagadagakbpacaeabaecbaleBtcja",
   "oaoaOibRvctbBzaeaBVuamaXdabaGMRmJvncBfaCifmboacjsCeBbokauacibdjQrfMfiKfBwExEmlDhBqmdCehkfBoh",
   "BeDdmBubjbQyJwBNh"]

/-- Letters of which two stand for a flag. -/
def regionalIndicator : CodePoints := [(0x1F1E6, 0x1F1FF)]

/-- The properties that have to do with display, under their names. -/
def displayProperties : List NamedSet :=
  [⟨["graphemeextend", "grext"], graphemeExtend⟩,
   ⟨["graphemebase", "grbase"], graphemeBase⟩,
   ⟨["graphemelink", "grlink"], graphemeLink⟩,
   ⟨["defaultignorablecodepoint", "di"], defaultIgnorable⟩,
   ⟨["variationselector", "vs"], variationSelector⟩,
   ⟨["prependedconcatenationmark", "pcm"], prependedConcatenationMark⟩,
   ⟨["bidicontrol", "bidic"], bidiControl⟩,
   ⟨["bidimirrored", "bidim"], bidiMirrored⟩,
   ⟨["logicalorderexception", "loe"], logicalOrderException⟩,
   ⟨["modifiercombiningmark", "mcm"], modifierCombiningMark⟩,
   ⟨["othergraphemeextend", "ogrext"], otherGraphemeExtend⟩,
   ⟨["otherdefaultignorablecodepoint", "odi"], otherDefaultIgnorable⟩,
   ⟨["emoji"], emoji⟩,
   ⟨["emojicomponent", "ecomp"], emojiComponent⟩,
   ⟨["emojimodifier", "emod"], emojiModifier⟩,
   ⟨["emojimodifierbase", "ebase"], emojiModifierBase⟩,
   ⟨["emojipresentation", "epres"], emojiPresentation⟩,
   ⟨["extendedpictographic", "extpict"], extendedPictographic⟩,
   ⟨["regionalindicator", "ri"], regionalIndicator⟩]

end Descent.Unicode
