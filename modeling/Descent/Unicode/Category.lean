import Descent.Unicode.Table

/-!
# General categories

What kind of character each code point is: a letter, a mark, a numeral, a punctuation mark, a
symbol, a separator, or something else. Every code point is of one kind, and related kinds make
up groups. The tables are those of Unicode 16.0.
-/
namespace Descent.Unicode

/-! ## Letters -/

def uppercaseLetter : CodePoints := table
  ["CnzDxwbgBhabababababababababababababababababababababababababababacabababababababacababababa",
   "bababababababababababababababababababbbabadbbabbbccdbbbcdbbbbababbbacabbbcbabbdahacacacababa",
   "bababababacababababababababacacabcbababababababababababababababababababababababababababababa",
   "hbbbcabdbabababaLdabadaiagabcbabbbqbiBjaccdabababababababababababafacabbcByBwabababababababa",
   "bababababababababajabababababababababababababababababababababababababababbbabababababacababa",
   "bababababababababababababababababababababababababababababababababababababababababababababa",
   "cBlEHdBlbafaBBuDhDGlagBqccMiabababababababababababababababababababababababababababababababa",
   "bababababababababababababababababababababababababababababababababababababababababababajababa",
   "babababababababababababababababababababababababababababababababababababababababababababababa",
   "jhifkhihiflabababaihCudmdmdmeldKcaeadccccadegabababdcdkbfaCjaDZgBvBwabccabababdbacaicbababa",
   "babababababababababababababababababababababababababababababababababababababababababababababa",
   "iabaeaBTYjababababababababababababababababababababababatabababababababababababababaFfabababa",
   "bababadababababababababababababababababababababababababababababababakababbbabababaeabacabada",
   "babababababababababebebabababababababdbabbdafabababayaBHAhzBUzBnFgBjGakbobgbbCQcByGbvEGoBf",
   "BGJwBfBMMqzBazBazBaabbcacbcdbhBazBabbdchbgBbbbdbebadgBbzBazBazBazBazBazBeyBhyBhyBhyBhyBha",
   "GNlBh"]

def lowercaseLetter : CodePoints := table
  ["DtzCgaBpxbhbabababababababababababababababababababababababababababbbabababababababbbabababa",
   "bababababababababababababababababababacababccabacadbeacadccacababacabbbacadabacbccgacacababa",
   "babababababbbababababababababbcabadababababababababababababababababababababababababababababa",
   "bgcacbbaeababababCqbBaHlabadadcsaBbBibbdcbabababababababababababebacacbBzBvbabababababababa",
   "bababababababababajababababababababababababababababababababababababababacababababababbbababa",
   "bababababababababababababababababababababababababababababababababababababababababababababa",
   "BwBoEHbBqccBDgfDFuibaEnBrClmbBhDyabababababababababababababababababababababababababababababa",
   "bababababababababababababababababababababababababababababababababababababababababababababiba",
   "babababababababababababababababababababababababababababababababababababababababababababababa",
   "babiifkhihifkhihinchihihiebbgadcbbidcbihkcbbKoadbdaBbaeaeacbideaCbaEBbBvbadbbababaeabbbffaba",
   "babababababababababababababababababababababababababababababababababababababababababababababa",
   "babbhabaeamBlbafaBTWdababababababababababababababababababababababatababababababababababababa",
   "baFfababababababcbabababababababababababababababababababababababababababababababhbabacababa",
   "babaeabacabcbabababababababababafafabababababababaeabacadabababababaBaadaBFpBqfihDbBEAigme",
   "BOzzBVhBnFgBjFzkbobgbbCRbByEvvEGoBfBGJwBfBMMkzBagbrBazBadbabgbkBazBazBazBazBazBazBazBazBaBb",
   "BcybfBaybfBaybfBaybfBaybfbaCSyjbtgfDUdBh"]

def titlecaseLetter : CodePoints := table
  ["RlacacaBmaLFhhihihmapaBva"]

/-- Letters that have case. -/
def casedLetter : CodePoints := .unions [uppercaseLetter, lowercaseLetter, titlecaseLetter]

def modifierLetter : CodePoints := table
  ["BAmreloehabaFdafaSkaIwaGibKjbeaBfajadaGeaGlaBVoaExaVtaCPmaEdaXnaRwfGsCknaBiBkBAnanaqmEMxbJha",
   "HjaSbaBrefaDtbDpcBQBuaBWcfKkaEkaBcbEriDcaxaEbcdbSbawaFhaEeavbDzdjaBFViaBtbCZofbBpbiCCxaBga",
   "BJNsdTocBobVemCmbbaYGqdbgbbSGnCjHtgBKfaBRba"]

def otherLetter : CodePoints := table
  ["GoapaJwaedIaaBFvBaedBtBfbjBjbbDubaybkccaqabBdBdDklayBgvvBqyhkfxbfrBoChCbdasahjqoehcbcvbgbadd",
   "daqanbbcobkaifebcvbgbbbbbbBfdbatcqibcbvbgbbbedasapbxalhcbcvbgbbbedaBebbcparabfdcbddbbabbdbdc",
   "dlwaCahbcbwbpdaBaccacbBeaehbcbwbjbedaBfbbbpbribcbBocaqafcicyffrdxbibacgCgBvbbmfChbbabebxbabj",
   "bbjacexdBgaClhbBjBbeElBquaqfeddadbhcemmaEjMqbdcgbabdcBobdcBgbdcgbabdcobCebdcCoBlpEjXvcqbzfCw",
   "ghhrnsorombcpBzBoaCpBibCahecBhbafCrkBeBxBdcelBrezCcwjCaGuBurhCcBdnbkBrBaBjBpckBdEjdbfbbda",
   "BPqdENvCdywjgbgbgbgbgbgbgbgVfaCbaeDhiabDleafBqbDprBfBwpTsJTnCmBFCebBRyCpBniKhepkbCoaBxCrGna",
   "DzadgbcbdbwBdBzoBxCkfdabblBbkwzBchBuBtecikebBoxcbhupbfdadBxbadbcecabaybdkhaofcfcfjgbgFpBi",
   "BdQNrmweBwMNcObcEbCpabjbmbebabbbbbEdBhNysClcCbBolEmebFeEbjbBscBedfcfcfccBjlbzbsbbbocnBiEs",
   "OzBcdBwBvBfntbhgBlkBdcBjehEyCzDuBniBzDoBzmLyjvkhFwfcabBrbbdacwkwjBeCnsbbkvkzCsCdgbCmapdbcbBc",
   "BqBcdBcBjhbBbBbCbkvksnrEgCuHbBjBmdbaLsBpgbqcChBckaivBqrBuuBbwmCaCfbcanBsBgyBaBjBdacaiBidamBv",
   "odvabaBjrbytbClgbabdbobjhBuBmhcbcvbgbbbedasameBejbacabBlbazabaBsCasducBeBvubbaHcBuBpdBkBvua",
   "ChBqnaCtBaBlgHdBrIdhcachbbbxpabaDqhcBmqabaBcakBnhavalBttasCuHrBgBfibBkraBxBdEigbbbBlvazfbb",
   "bBfoaMpspabmbBhEuaDbBJlIwHnDXkDspBPfrfzFXqfWkKDdBdCPuVwhBerDarBdsBvBzufsQtBnPpCwfaGtJBziBVp",
   "BpjNGhLepaBdccaodiPfDKuEcfmdihjNBcaThBsBhaMjBdsBrSqBaIvBdcaTbgbdbbbobHoBZndbBabbbacabjbdbaba",
   "gaeabababcbbbacabababababbbacdbgbdbdbabjbqfcbebqGOaCLFbBgGDtgIncINpoLBkpXxDQwUvCFyHHyfGFf"]

def letter : CodePoints := .unions [casedLetter, modifierLetter, otherLetter]

/-! ## Marks -/

/-- Marks that are placed on another character. -/
def nonspacingMark : CodePoints := table
  ["BDoEhKpeKfBsbabbbbbaCukBwuqaDxgcfcbbdBjaBeBaDnkCgijaydbibcbeBrcChiBqxbBfCdabaeheadgkbBdaCga",
   "ediaubBaacbCfaebebccdaBebdalbCfaeebbeaubwfbaCgacabdiahblbBeaCjamaByadaCdabcfcbdhblbBdaCgaca",
   "gafbubBcbCfbediaubBdaCuahcbaDmacgmhDuacilgCvbBbababaCdnbebbfkbBjjaDydbfbbcbzbecqdnacbgapa",
   "BBbcBKkcBdbBebBebCmbbgiackjaBtcbaEnbBiaEocebjagcIlbcaCgabgbabachgjcaBwnbpBxdBwabebafaBoimb",
   "BgdcbbcCeabbdabcCghcbFwcbmbgeagadbHqClBBsmeadlEOccFlaDsBfVidEdbBSQeaejBgbDcbKmadaeazbfaFvb",
   "BarnaBmhzkBucBwacdcbBnaCpfcbcbmaiaBvaBzabccbfbbaBqbiaJeacaeaBDZsaBCjpqpBLlaIsaFteCMgcbbfdBoc",
   "eaGjbWbdCneMfbDbdCskBxdEtaCcoBpacbkcBxdcbhaCjcBkebhCkambCaikdcaDrccabbgacaGbadhvbCfbdaBlgde",
   "CsfnababaobDhhccbaxaDgfbaebbbJedgbbbBbbDhhcabbEcabacfbaDxabacdbeJzibbJwbbaeaFodcbeaBgjBofcd",
   "iajfccBumbbPqgbfbaDevcgbbbbEsfdabbbgbaCubdabaNjblbCaefabaxaHXtagoQYyldcDSaeChgBOiaCldDda",
   "BDBkbGYzBtcwUycrhcgBedFscCYdCceBxiaoaweboCAigbqcgbbbeDwaGegOlaCjdTodJubBCigEfgBTCIvJf"]

/-- Marks that take a place of their own. -/
def spacingMark : CodePoints := table
  ["DKtaCdaccidbbBybCgcgbcbkaBraCgcCoaCgciabbCbbCgabagbcbkaDybbbdcbckaBpcCjdCjbCgabecbbbjbBcaob",
   "CgcfcbckaBqbCxcghsbMsbClaGpbeagacbzbkccgvbcfcakcCLsaBeaEzahhbbNidccebbfIqbCgabajabbifFpaBwa",
   "fabebbCjaBeaebcaCiaccbadbBwhibGpavaHHebBTLbbcaDkbBypFmbBvaBwbebccEgbcbyaBtabaEfacbfaJdbbbbb",
   "baBLXjabaExaBtcebElaybChaBwcjbnaDpcdbbaGocBfbCgbbdcbccjakbDgchacabdbbbaDxcibdaEccgabdcaJdcgd",
   "caEjcibbaEfabbgaDzabbeaKbcjaJnfbbeacabaFmcideaDgaBdbCkaPraoaEcahacaIfeebbaNmbmaBwbibbaYYyc",
   "FJgCcEabBKXnbgf"]

/-- Marks around another character. -/
def enclosingMark : CodePoints :=
  [(0x488, 0x489), (0x1ABE, 0x1ABE), (0x20DD, 0x20E0), (0x20E2, 0x20E4), (0xA670, 0xA672)]

def mark : CodePoints := .unions [nonspacingMark, spacingMark, enclosingMark]

/-! ## Numerals -/

def decimalNumber : CodePoints := table
  ["BwjCIojFejHqjPwjEojEojEojEojEojEojEojEojEojDsjEojCsjKsjCsjCTqjBmjLojEyjGkjgjHajDijFejgjCAEoj",
   "BAcjBmjHqjwjDijPqjBFMcjCCkjDFyjgjBEqjEyjCijFojKsjNejEojOkjDyjgtCyjQgjDyjZmjDijJmjCsjQgjYYgj",
   "DMcjDijFejUojBKDyjECqBxDNcjQgjTijJnjBGvjHBaj"]

/-- Numerals made of letters. -/
def letterNumber : CodePoints := table
  ["IRucDYtBicdFMsaziocBSYljBIFgCaRsaiaFeeMEsEg"]

/-- Numerals that are neither digits nor letters. -/
def otherNumber : CodePoints := table
  ["GwbfaccDMrfOmfEqcFdgIjgriQrjBPltBRvjSmaCMvadfgjHqpBpaBByChDavYgBdCBhaBTcdFijBehboBgjBnoBSMif",
   "BHQnBsCndrbNdBaBkdBZghzgBniCxewfGebcpcBtCmiCabBecCxeEahyhBpgMsfNoBeGcjBqdEigFetOptBZxbQoi",
   "BHnsBGtuBCPqgBEswBLYftmtEeyIBuiBJtCgbcbdCyBsboBLam"]

def number : CodePoints := .unions [decimalNumber, letterNumber, otherNumber]

/-! ## Punctuation -/

def connectorPunctuation : CodePoints :=
  [(0x5F, 0x5F), (0x203F, 0x2040), (0x2054, 0x2054), (0xFE33, 0xFE34), (0xFE4D, 0xFE4F),
   (0xFF3F, 0xFF3F)]

def dashPunctuation : CodePoints := table
  ["BtaCAuaBzaFKjaBNpaDBdfFHxacaBfbeaBcaReataEhaCZWabBlakaGnaFLoaMga"]

def openPunctuation : CodePoints := table
  ["BoaByaBfaFPeabaCUoaDPmadaBmaCdapaYkabaBeaBPuababababababaDcaBgababababaPoabababababababababa",
   "baCmabaBhaBOvabababazasabababaQmababababadabababacaCZRtaIhaBdabababababababadarababaGoaBya",
   "Bfadaca"]

def closePunctuation : CodePoints := table
  ["BpaBzaBfaFPdabaCUoaDRdaCdapaYkabaBeaBPuababababababaDcaBgababababaPoababababababababababaCma",
   "baBhaBOvabababaBsabababaQmababababadabababacbCZRqaIjaBdabababababababadarababaGoaBzaBfacaca"]

def initialPunctuation : CodePoints := table
  ["GpaLXkacbcazaFFsabaeacapada"]

def finalPunctuation : CodePoints := table
  ["HfaLWvadaBcaFFsabaeacapada"]

def otherPunctuation : CodePoints := table
  ["BhcbccababbkbdbBbaCqafaobhaBBaaiaRyfBpaCcacacaBsbubbbnabcCwdDyaBrnIzcCcoBfaKbbkaFkaEqaEraPaa",
   "maOdaDmakbGmobaEiaCweebEhfGpaXoiBDtaEucCtbGbcbcBlfbdMbbIibEygbfGebkgBccEudCheCkbCmhlaBGcbih",
   "iicdccdkbabjEUcdbbEiaFnbeccacibbbacbkebjcdbabmccQmcCfaHhaBRYgbKjcDvakaElfOqdDibBocbaBxbBva",
   "DtmqbEudEwbqbJpaBFCugcawaubcddcbdhcgabbFtcbccababbkbdbBbaBkacbPucZsaBwaPyaBCpaHraBfaKmiBma",
   "EigCogDldBKqeBsdHhgEfbbdEwdBwbDbdeanabcDkfEdaLmbbbEkekbbaEaaJqwEbcBcmCyaFacJsaKecFzaDohDfcbe",
   "DpjIhaDreBqbYvbCwmGtaBRseEJcbWDvbFdaCneiaVgcLjdMpaBDBoaLIleEItaBHeb"]

def punctuation : CodePoints :=
  .unions [connectorPunctuation, dashPunctuation, openPunctuation, closePunctuation,
     initialPunctuation, finalPunctuation, otherPunctuation]

/-! ## Symbols -/

def mathSymbol : CodePoints := table
  ["BraqcCjabaBtaeaBlaBfaBDmaUhcJYhanaBncncFjaBnegaCqefbeacacahaBfbcabaBfKhBgbDmaBeyBofSbajaCch",
   "EhaMyecBekpJwFawCkeBfcJxBwucfDASqaBFsabcGiaqcCjabaFbagdFEfbCYEzazaBfazaBfazaBfazaBfazaIUeb"]

def currencySymbol : CodePoints := table
  ["BkaEvdBWjaEtaTebTebhaJlaKdaWjaDQpaDIiBgBZHvaBGMlaEeaFyaIlbdbMCsdCVXeaDRka"]

def modifierSymbol : CodePoints := table
  ["DqabaCtagaeadaUbdmnfgbabqEnaobBXiaIUmabclcncncnbGHobBSVrwjbDzbBLoaobBEKkqBIhabaGgaDOLje"]

def otherSymbol : CodePoints := table
  ["GkacaeabaBLpaKgbExbHyakatbJnaTvaOjaFafbaFcaHzaBpaPbcpabccfuababaFdhbfbbfdHpbBCyjBBvaBBuaGbBh",
   "NpjjiCChbbdbbkabbgfbababaealboabbbaCgbjecdbbbbbgbBecbbabBeKihetcgcDcbBdzBngCtwkDdCzwHabibCb",
   "iEgbJnBsBrCmJvTsBvvbgBmcBfbEaIvfNtbBuzbDkmIfBapeanbmavbgbMybejBgBljaqBelBdiapBfkBmpMhJToCl",
   "BGUiCcBHhdkbbaWbcBFJapExaBtcSqadaebnbMbiCfqccbmdaBvBsCLubWtaESsaDGnheqBCNidfaBEUwaFVnJfqQt",
   "GaElCiJlkBmcChfcwbhBdeCivCndaHeDiBTxTrCddByhbnbbCOuaEHwaEzaBBtBreDvmocobobBkxGeCeBcnBreihbof",
   "FyJqfBBzeqdmdEoeDqgleapleCdijgBniBdclebCkNbmncmdjfCdhockgihFqbDn"]

def symbol : CodePoints := .unions [mathSymbol, currencySymbol, modifierSymbol, otherSymbol]

/-! ## Separators -/

def spaceSeparator : CodePoints :=
  [(0x20, 0x20), (0xA0, 0xA0), (0x1680, 0x1680), (0x2000, 0x200A), (0x202F, 0x202F),
   (0x205F, 0x205F), (0x3000, 0x3000)]

def lineSeparator : CodePoints := [(0x2028, 0x2028)]

def paragraphSeparator : CodePoints := [(0x2029, 0x2029)]

def separator : CodePoints := .unions [spaceSeparator, lineSeparator, paragraphSeparator]

/-! ## Other characters -/

def control : CodePoints := [(0x0, 0x1F), (0x7F, 0x9F)]

/-- Characters that have an effect on the text around them only. -/
def format : CodePoints := table
  ["GraCAkfwaHkaBxaOubDcaFTjaDAqeBaeBxebjDGHjaJpcGIzapaNKkpBZQudHWxhBTKZmaBeDr"]

/-- Characters whose meaning is a matter of agreement. -/
def privateUse : CodePoints := [(0xE000, 0xF8FF), (0xF0000, 0xFFFFD), (0x100000, 0x10FFFD)]

def surrogates : CodePoints := [(0xD800, 0xDFFF)]

/-- Code points that no character has been given. -/
def unassigned : CodePoints :=
  CodePoints.everything.difference
    (.unions [letter, mark, number, punctuation, symbol, separator, control, format, privateUse])

/-- Whatever is no letter, mark, number, punctuation mark, symbol or separator. The surrogates,
which are no characters, lie between two of its members. -/
def other : CodePoints := .unions [control, format, surrogates, privateUse, unassigned]

def assigned : CodePoints := unassigned.complement

/-- The categories and their groups under their names. -/
def categories : List NamedSet :=
  [⟨["uppercaseletter", "lu"], uppercaseLetter⟩,
   ⟨["lowercaseletter", "ll"], lowercaseLetter⟩,
   ⟨["titlecaseletter", "lt"], titlecaseLetter⟩,
   ⟨["modifierletter", "lm"], modifierLetter⟩,
   ⟨["otherletter", "lo"], otherLetter⟩,
   ⟨["nonspacingmark", "mn"], nonspacingMark⟩,
   ⟨["spacingmark", "mc"], spacingMark⟩,
   ⟨["enclosingmark", "me"], enclosingMark⟩,
   ⟨["decimalnumber", "digit", "nd"], decimalNumber⟩,
   ⟨["letternumber", "nl"], letterNumber⟩,
   ⟨["othernumber", "no"], otherNumber⟩,
   ⟨["connectorpunctuation", "pc"], connectorPunctuation⟩,
   ⟨["dashpunctuation", "pd"], dashPunctuation⟩,
   ⟨["openpunctuation", "ps"], openPunctuation⟩,
   ⟨["closepunctuation", "pe"], closePunctuation⟩,
   ⟨["initialpunctuation", "pi"], initialPunctuation⟩,
   ⟨["finalpunctuation", "pf"], finalPunctuation⟩,
   ⟨["otherpunctuation", "po"], otherPunctuation⟩,
   ⟨["mathsymbol", "sm"], mathSymbol⟩,
   ⟨["currencysymbol", "sc"], currencySymbol⟩,
   ⟨["modifiersymbol", "sk"], modifierSymbol⟩,
   ⟨["othersymbol", "so"], otherSymbol⟩,
   ⟨["spaceseparator", "zs"], spaceSeparator⟩,
   ⟨["lineseparator", "zl"], lineSeparator⟩,
   ⟨["paragraphseparator", "zp"], paragraphSeparator⟩,
   ⟨["control", "cntrl", "cc"], control⟩,
   ⟨["format", "cf"], format⟩,
   ⟨["privateuse", "co"], privateUse⟩,
   ⟨["casedletter", "lc"], casedLetter⟩,
   ⟨["letter", "l"], letter⟩,
   ⟨["combiningmark", "mark", "m"], mark⟩,
   ⟨["number", "n"], number⟩,
   ⟨["punctuation", "punct", "p"], punctuation⟩,
   ⟨["symbol", "s"], symbol⟩,
   ⟨["separator", "z"], separator⟩,
   ⟨["other", "c"], other⟩,
   ⟨["unassigned", "cn"], unassigned⟩,
   ⟨["any"], CodePoints.everything⟩,
   ⟨["assigned"], assigned⟩,
   ⟨["ascii"], [(0x0, 0x7F)]⟩]

end Descent.Unicode
