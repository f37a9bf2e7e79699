import Descent.Unicode.Table

/-!
# Scripts

The script that each character belongs to. Characters that are used in several scripts are
common to all or are inherited from the text around them; of some of these, and of some that
belong to one script, it is known in which scripts they are used. The tables are those of
Unicode 16.0.
-/
namespace Descent.Unicode

/-- A script under its names, with the characters that belong to it, and with those among the
characters of known use that are used in it. -/
structure Script where
  names : List String
  own : CodePoints
  shared : CodePoints := []

/-- The scripts. -/
def scripts : List Script :=
  [⟨["adlam", "adlm"], table ["HDEuCxejeb"], table ["CIhaBgaJWoaFHha"]⟩,
   ⟨["ahom"], table ["EBRcBacoew"], []⟩,
   ⟨["anatolianhieroglyphs", "hluw"], table ["ESSeWk"], []⟩,
   ⟨["arabic", "arab"],
     table ["CHcebfbnbcbBfbjlzbEdbBhDcBvJgBebbfCwbBcDNTwEkqNycDbcCbhaBgpEiebFeFVnBeCpcCdd",
            "DGLsdbBabbbacabjbdbabagaeabababcbbbacabababababbbacdbgbdbdbabjbqfcbebqCab"],
     table ["CHoaobcaBgakkkjgaDvaJQwaFHhaDAKabGwakaBWcBb"]⟩,
   ⟨["armenian", "armn"], table ["BZdBlcBxccDOZje"], table ["BDwaYqa"]⟩,
   ⟨["avestan", "avst"], table ["DXCyCbdg"], table ["HbaRFsb"]⟩,
   ⟨["balinese", "bali"], table ["KFwCybBx"], []⟩,
   ⟨["bamum", "bamu"], table ["CLCqDjCVCqVw"], []⟩,
   ⟨["bassavah", "bass"], table ["FHKiBdcf"], []⟩,
   ⟨["batak", "batk"], table ["KNgBzid"], []⟩,
   ⟨["bengali", "beng"],
     table ["DPodbhcbcvbgbaddcicbcdiaebbecy"],
     table ["BAyaCMubrbEyjHDwabacbbaiaiacaeaccCBAfa"]⟩,
   ⟨["bhaiksuki", "bhks"], table ["EDOiibBsbnkBc"], []⟩,
   ⟨["bopomofo", "bopo"], table ["BCsbRLxBqEiBf"], table ["BBjabcnaRCpcejbmkdcagaHnaCZThbKwe"]⟩,
   ⟨["brahmi", "brah"], table ["DZAeCzeBjja"], []⟩,
   ⟨["braille", "brai"], table ["PDwJv"], []⟩,
   ⟨["buginese", "bugi"], table ["JWaBbcb"], table ["CMHza"]⟩,
   ⟨["buhid", "buhd"], table ["IUyt"], table ["IUnb"]⟩,
   ⟨["canadianaboriginal", "cans"], table ["HOyYpVoCrDTPqp"], []⟩,
   ⟨["carian", "cari"], table ["DTYmBw"], table ["HbaLZmacaFGda"]⟩,
   ⟨["caucasianalbanian", "aghb"], table ["DUXsBzla"], table ["BDsaBsaBsa"]⟩,
   ⟨["chakma", "cakm"], table ["DZKaCabr"], table ["DTmjCKej"]⟩,
   ⟨["cham"], table ["CMJwCcjncjcd"], []⟩,
   ⟨["cherokee", "cher"], table ["HLgDhcfCFJeDb"], table ["BDocbagbwblb"]⟩,
   ⟨["chorasmian", "chrs"], table ["DYXcBb"], []⟩,
   ⟨["common", "zyyy"],
     table ["aCmBafBaBubobexaBfaRhBmfectEmajagabaYnagaoadaBgaGaaTwaEzbBVtaPpdLeaCGlcCtbHvbba",
            "BVhanahdbfbccaBDtlcDibkdkborBgClBlbccfbBabqBpceZpwkvBJrJwYdcBfbEaTsDpPmubabyphed",
            "DnbdaDmbFrpBgBljaBwClBfDcBvaDkGlJToClBHSiBhDycGjjJkaGeaPfaobBEZqbIajwBibsbdFra",
            "bBfBafBakkaBtbCmgbgkeJyceBsdiDcmBzBsIuBaCSHwdFVgJpgQtGaElCiJlkBmcCjdqibhBdeCiIft",
            "mtmDijyFfDgbCsbbcacbcdblbabgbCmbdchbgbBbbdbebadgbNbcLfcBxHThCpCyCiBBeBreDvmocobo",
            "bBkkGrCezbbnBreihbofFyBLveqdmdEoeDqgleapleCdijgBniBdclebCkNbmncmdjfCdhockgihFq",
            "bDxBSUXbaBeDr"],
     []⟩,
   ⟨["coptic", "copt", "qaac"], table ["BMgnPJkElfg"], table ["HbaWmadbbaEebQDtaDCPcBb"]⟩,
   ⟨["cuneiform", "xsux"], table ["EFBsBJlDyEgbelHn"], []⟩,
   ⟨["cypriot", "cprt"], table ["DVZkfcabBrbbdaca"], table ["DTImceBsdi"]⟩,
   ⟨["cyprominoan", "cpmn"], table ["EKYyDu"], table ["DTImb"]⟩,
   ⟨["cyrillic", "cyrl"],
     table ["BNkFccGmIVokGeaCyaGFnBfBTOaDrBHEcbDHPgCjBha"],
     table ["BAyaCpcbababacafaOfeJQmaGEkaBTNfa"]⟩,
   ⟨["deseret", "dsrt"], table ["DUMaDb"], []⟩,
   ⟨["devanagari", "deva"],
     table ["DKqDceoczCIJgBfBREmj"], table ["BAyaCMubrlHIuBmbbBNaaBZFrjHbaba"]⟩,
   ⟨["divesakuru", "diak"], table ["ECKugcachbbbBdbbcljj"], []⟩,
   ⟨["dogra", "dogr"], table ["ECAyCh"], table ["DOmlCIDcj"]⟩,
   ⟨["duployan", "dupl"], table ["GMDsEcfmdihjcd"], table ["HbaWtbbaybQIhaFUWpd"]⟩,
   ⟨["egyptianhieroglyphs", "egyp"], table ["ELDgBQrkFXq"], []⟩,
   ⟨["elbasan", "elba"], table ["DUVwBn"], table ["HbaWra"]⟩,
   ⟨["elymaic", "elym"], table ["DYYyw"], []⟩,
   ⟨["ethiopic", "ethi"],
     table ["GVgCubdcgbabdcBobdcBgbdcgbabdcobCebdcCocBfdzJVawjgbgbgbgbgbgbgbgBVKcfcfcfjgbg",
            "EPYfgbdbbbo"],
     table ["BEca"]⟩,
   ⟨["garay", "gara"], table ["DXZcBldBcib"], table ["CHoaoada"]⟩,
   ⟨["georgian", "geor"],
     table ["GHsBlbafacBqbdEJwBqccGEaBlbafa"], table ["HbaBVlaEIraFViaFGga"]⟩,
   ⟨["glagolitic", "glag"],
     table ["QRgDrGIZggbqcgbbbe"], table ["HbaWpabaOsacaJxaEIraFViaFGyaBTNfa"]⟩,
   ⟨["gothic", "goth"], table ["DUEaBa"], table ["HbaWqbcaBoa"]⟩,
   ⟨["grantha", "gran"],
     table ["EADsdbhcbcvbgbbbecicbcccagafgcgde"],
     table ["DNtbrbYqnGKaabbBecdbBNaaDNRkabaCdbETvbba"]⟩,
   ⟨["greek", "grek"],
     table ["BHwdbccdbaeababcbabtbCkopJNqeByeeeDgaMivcfcBlcfchbabababBecCabobncfbsccbiLja",
            "CAJeaBGNiDaraDAXrCr"],
     table ["HbaWmbcababakaBuacaBubJYwbZra"]⟩,
   ⟨["gujarati", "gujr"], table ["DZlcbibcbvbgbbbecjbcbccapdclhg"], table ["DNtbrbOujCHOij"]⟩,
   ⟨["gunjalagondi", "gong"], table ["EEBwfbbbBkbbbfhj"], table ["HbaDHkb"]⟩,
   ⟨["gurmukhi", "guru"],
     table ["DUncbfebcvbgbbbbbbcabeebccdahdbahq"], table ["DNtbrbJwjCHTgj"]⟩,
   ⟨["gurungkhema", "gukh"], table ["FDRsCf"], table ["DOna"]⟩,
   ⟨["hani", "han"],
     table ["RPwzbDkmIfBvabaziodBLcJTnCmBFBjBHSiObcEbBSIibmbCCOkCLFbBgGDtgIncINpoLBkpXxDQwUv",
            "CFyHHyfGFf"],
     table ["HbaRWypbccabjbmkdcagaedHfaFspBgBljaBwBnCeBwplBzaDkykeDsBeBROjhBHAzbKweDCHerLRyb"]⟩,
   ⟨["hangul", "hang"],
     table ["GLkJvLLebJxDpEjBeCnBeBTAnBcYtQNrmweBwPAiBedfcfcfcc"],
     table ["SErcejbmqagaHnaCZThbKwe"]⟩,
   ⟨["hanifirohingya", "rohg"], table ["DXWqBnij"], table ["CHoaoadaBgaFra"]⟩,
   ⟨["hanunoo", "hano"], table ["ITsu"], table ["IUnb"]⟩,
   ⟨["hatran", "hatr"], table ["DWIasbbfe"], []⟩,
   ⟨["hebrew", "hebr"], table ["CCvCciBaefDOVwzbebabbbbbj"], table ["BDvb"]⟩,
   ⟨["hiragana", "hira"],
     table ["SHdDhgcFPEvLasaBdcYMva"], table ["SErcejbmqfbaebDnddaDmbCZTgbKwekaBtb"]⟩,
   ⟨["imperialaramaic", "armi"], table ["DWBwvbi"], []⟩,
   ⟨["inherited", "qaai", "zinh"],
     table ["BDoEhKrbRkkBaaBCidGOxBeTtcbmbgeagadbHqClUebHmBgFTxdEdbCZUjpqnBLnaIsaGFaaCTCuBtcw",
            "UycrhcgBedBTLHiJf"],
     []⟩,
   ⟨["inscriptionalpahlavi", "phli"], table ["DXGqsfh"], []⟩,
   ⟨["inscriptionalparthian", "prti"], table ["DXFkvch"], []⟩,
   ⟨["javanese", "java"], table ["CMEyCzcjeb"], table ["CMHza"]⟩,
   ⟨["kaithi", "kthi"], table ["DZFcCoka"], table ["DOojNXxaBUFej"]⟩,
   ⟨["kannada", "knda"],
     table ["ETcmbcbwbjbecibcbdhbgbbdcjbc"], table ["DNtbrbBImjGAiabbgaxabaCASxf"]⟩,
   ⟨["katakana", "kana"],
     table ["SKvDlccJgpIaBubDjCZHejbBsCOUcdbgbbbaLbcByaod"],
     table ["BDtaBdaQZtcejbmqfbaebDnddaDmbCZTgbKwekaBtb"]⟩,
   ⟨["kawi"], table ["EERwqbBodBc"], []⟩,
   ⟨["kayahli", "kali"], table ["CMAaBtba"], table ["CMBua"]⟩,
   ⟨["kharoshthi", "khar"], table ["DWTcdbbfhbcbBcccejhi"], []⟩,
   ⟨["khitansmallscript", "kits"], table ["FJIiaKGxSbBpa"], []⟩,
   ⟨["khmer", "khmr"], table ["IXkDpcjgjSsBf"], []⟩,
   ⟨["khojki", "khoj"], table ["DZTwrbBu"], table ["EDijCHOij"]⟩,
   ⟨["khudawadi", "sind"], table ["EAAqCgfj"], table ["DOmbCIDmj"]⟩,
   ⟨["kiratrai", "krai"], table ["FIIiCf"], []⟩,
   ⟨["laoo", "lao"], table ["FMvbbabebxbabwcebabgbjcd"], []⟩,
   ⟨["latin", "latn"],
     table ["CnzgzBvapafwbBebRgBneJXbBlgBwfdfmbCrCnJvOfanaqmFlbgaBbarBoECtBfBULmDxdCocbbabhvn",
            "BFkBqbibdBEDqgBOkzgzDCffbBpbiDDNpBegf"],
     table ["HbaTwakabcbajabaBmobbbamacchbbbBmafaemKrbBVebCXkaEXwaVuaHkaEZmaBTUmhVea"]⟩,
   ⟨["lepcha", "lepc"], table ["KPsCddodc"], []⟩,
   ⟨["limbu", "limb"], table ["JMeBebleleadl"], table ["DOna"]⟩,
   ⟨["lineara", "lina"], table ["DVFsLyjvkh"], table ["DTItBs"]⟩,
   ⟨["linearb", "linb"], table ["DSYqlbzbsbbbocnBiEs"], table ["DTImceBsdi"]⟩,
   ⟨["lisu"], table ["CKKuBvBUMaa"], table ["BAyaqaRDkb"]⟩,
   ⟨["lycian", "lyci"], table ["DTXgBc"], table ["MGoa"]⟩,
   ⟨["lydian", "lydi"], table ["DWKmzfa"], table ["HbaRFta"]⟩,
   ⟨["mahajani", "mahj"], table ["DZNcBm"], table ["HbaDHklCIDcj"]⟩,
   ⟨["makasar", "maka"], table ["EEQqy"], []⟩,
   ⟨["malayalam", "mlym"], table ["EYambcbBybcbfepcz"], table ["DNtbrbHJoaxaCASzc"]⟩,
   ⟨["mandaic", "mand"], table ["DDgBbca"], table ["CJoa"]⟩,
   ⟨["manichaean", "mani"], table ["DXAmBmel"], table ["CJoaDUSva"]⟩,
   ⟨["marchen", "marc"], table ["EDSqBfcvbn"], []⟩,
   ⟨["masaramgondi", "gonm"], table ["EDYegbbbBrdabbbiij"], table ["DOmb"]⟩,
   ⟨["medefaidrin", "medf"], table ["FISeDm"], []⟩,
   ⟨["meeteimayek", "mtei"], table ["CMSmwHtBtcj"], []⟩,
   ⟨["mendekikakui", "mend"], table ["HCUyHocp"], []⟩,
   ⟨["meroiticcursive", "merc"], table ["DWPkxetcBt"], []⟩,
   ⟨["meroitichieroglyphs", "mero"], table ["DWOeBf"], table ["MGra"]⟩,
   ⟨["miao", "plrd"], table ["FIZoCweCehq"], []⟩,
   ⟨["modi"], table ["EBHgCqlj"], table ["CLSaj"]⟩,
   ⟨["mongolian", "mong"], table ["JCibcabtgDkhBqDSCbm"], table ["JCkbbaDCjaFZtbfd"]⟩,
   ⟨["mroo", "mro"], table ["FHEuBebjeb"], []⟩,
   ⟨["multani", "mult"], table ["DZYugbabdbobk"], table ["DYkj"]⟩,
   ⟨["myanmar", "mymr"], table ["GBoGdCGAyBeDtBfBPAmt"], table ["GEajCFXka"]⟩,
   ⟨["nabataean", "nbat"], table ["DWEiBeii"], []⟩,
   ⟨["nagmundari", "nagm"], table ["HBPoBp"], []⟩,
   ⟨["nandinagari", "nand"], table ["ECQyhcBtck"], table ["DOmbBImjGBhaiahaCASrf"]⟩,
   ⟨["newtailue", "talu"], table ["JRcBrezgkdb"], []⟩,
   ⟨["newa"], table ["EANoDnbe"], []⟩,
   ⟨["nkoo", "nko"], table ["CYiCgcc"], table ["CHoaoadaDPPeb"]⟩,
   ⟨["nushu", "nshu"], table ["FJIfaYVmPf"], []⟩,
   ⟨["nyiakengpuachuehmong", "hmnp"], table ["HAEaBsdncjeb"], []⟩,
   ⟨["ogham", "ogam"], table ["INoBc"], []⟩,
   ⟨["olchiki", "olck"], table ["KSuBv"], []⟩,
   ⟨["olonal", "onao"], table ["HBZkBqea"], table ["DOmb"]⟩,
   ⟨["oldhungarian", "hung"], table ["DXRsBynByhf"], table ["MGoacaFGdapa"]⟩,
   ⟨["olditalic", "ital"], table ["DUCeBjjc"], []⟩,
   ⟨["oldnortharabian", "narb"], table ["DWYaBf"], []⟩,
   ⟨["oldpermic", "perm"], table ["DUFgBq"], table ["HbaWmafckaOda"]⟩,
   ⟨["oldpersian", "xpeo"], table ["DUIiBjen"], []⟩,
   ⟨["oldsogdian", "sogo"], table ["DYQiBn"], []⟩,
   ⟨["oldsoutharabian", "sarb"], table ["DWWuBf"], []⟩,
   ⟨["oldturkic", "orkh"], table ["DXMuCu"], table ["MGoaFGfa"]⟩,
   ⟨["olduyghur", "ougr"], table ["DYUqz"], table ["CJoaDUSva"]⟩,
   ⟨["oriya", "orya"], table ["EEjcbhcbcvbgbbbecicbcchcebbecr"], table ["DNtbrbHJoaxa"]⟩,
   ⟨["osage", "osge"], table ["DUSuBjeBj"], table ["BDpacagaCya"]⟩,
   ⟨["osmanya", "osma"], table ["DUQyBdcj"], []⟩,
   ⟨["pahawhhmong", "hmng"], table ["FHMeCrkjbgbufs"], []⟩,
   ⟨["palmyrene", "palm"], table ["DWDcBf"], []⟩,
   ⟨["paucinhau", "pauc"], table ["EDCaCe"], []⟩,
   ⟨["phagspa", "phag"], table ["CLSqCd"], table ["JCkbbaDCjaFZua"]⟩,
   ⟨["phoenician", "phnx"], table ["DWJgBbda"], []⟩,
   ⟨["psalterpahlavi", "phlp"], table ["DXHwrhdmg"], table ["CJoa"]⟩,
   ⟨["rejang", "rjng"], table ["CMBwBjla"], []⟩,
   ⟨["runic", "runr"], table ["IOuCwdk"], table ["IRrc"]⟩,
   ⟨["samaritan", "samr"], table ["DAuBtco"], table ["RMva"]⟩,
   ⟨["saurashtra", "saur"], table ["CLVcCril"], []⟩,
   ⟨["sharada", "shrd"], table ["DZOyDr"], table ["DNtaHKfabacbcaCATrfca"]⟩,
   ⟨["shavian", "shaw"], table ["DUPcBv"], table ["Hba"]⟩,
   ⟨["siddham", "sidd"], table ["EBCiCbcBl"], []⟩,
   ⟨["signwriting", "sgnw"], table ["GWTkZbpebo"], []⟩,
   ⟨["sinhala", "sinh"], table ["FCzcbrdxbibacgdaefbabhgjccDULgt"], table ["DOmbHKma"]⟩,
   ⟨["sogdian", "sogd"], table ["DYSeBp"], table ["CJoa"]⟩,
   ⟨["sorasompeng", "sora"], table ["DZIeyhj"], []⟩,
   ⟨["soyombo", "soyo"], table ["ECXsDe"], []⟩,
   ⟨["sundanese", "sund"], table ["KKuClJwh"], []⟩,
   ⟨["sunuwar", "sunu"], table ["EDLwBhoj"], table ["BDobbajacaBcada"]⟩,
   ⟨["sylotinagri", "sylo"], table ["CLQeBs"], table ["DOmbEyj"]⟩,
   ⟨["syriac", "syrc"],
     table ["CQynbChccKmk"], table ["BDrbcbbavacchbbaBCdaobcaBgakkBaaIXraba"]⟩,
   ⟨["tagalog", "tglg"], table ["ISmvja"], table ["IUnb"]⟩,
   ⟨["tagbanwa", "tagb"], table ["IWembcbb"], table ["IUnb"]⟩,
   ⟨["taile", "tale"], table ["JPgBdce"], table ["BDobfbdaEZzj"]⟩,
   ⟨["taitham", "lana"], table ["JXgCkbBcckgjgn"], []⟩,
   ⟨["taiviet", "tavt"], table ["CMOuCoye"], []⟩,
   ⟨["takri", "takr"], table ["EBMeCfgj"], table ["DOmbCIDmj"]⟩,
   ⟨["tamil", "taml"],
     table ["EJibbfdcbddbbabbdbdcdleedcbdcagaouEALhBxna"],
     table ["DNtbrbYqnGKkaCBBkaBOEfabaCdbETvbba"]⟩,
   ⟨["tangsa", "tnsa"], table ["FHGqDabj"], []⟩,
   ⟨["tangut", "tang"], table ["FJIeaBfJBziBDnTsi"], table ["SEapTba"]⟩,
   ⟨["telugu", "telu"], table ["EOembcbwbpcibcbdhbbccacdcjhi"], table ["DNtbrbHJoaxa"]⟩,
   ⟨["thaana", "thaa"], table ["CVwBx"], table ["CHoaobcaCmjDPTgaka"]⟩,
   ⟨["thai"], table ["FHxCffBb"], table ["BAyaBaaBraBta"]⟩,
   ⟨["tibetan", "tibt"], table ["FRsCtbBjeBmbBjbobgeb"], table ["SEyd"]⟩,
   ⟨["tifinagh", "tfng"], table ["RCyCdhboa"], table ["BDqabacaba"]⟩,
   ⟨["tirhuta", "tirh"], table ["EASmCtij"], table ["DNtbrbHKmaCASzj"]⟩,
   ⟨["todhri", "todr"], table ["DVDgBz"], table ["BDpacacajabaCwa"]⟩,
   ⟨["toto"], table ["HATkBe"], table ["BAya"]⟩,
   ⟨["tulutigalari", "tutg"],
     table ["EAIqjbacabBlbjbacabdbjbbib"], table ["EXajGBqabaCASxfHfa"]⟩,
   ⟨["ugaritic", "ugar"], table ["DUHcBdba"], []⟩,
   ⟨["vaii", "vai"], table ["CKMqLn"], []⟩,
   ⟨["vithkuqi", "vith"], table ["DVAekbobgbbbkbobgbb"], []⟩,
   ⟨["wancho", "wcho"], table ["HAVgCffa"], []⟩,
   ⟨["warangciti", "wara"], table ["ECHcDema"], []⟩,
   ⟨["yezidi", "yezi"], table ["DYLkBpbccb"], table ["CHoaoadaCmj"]⟩,
   ⟨["yiii", "yi"], table ["CIPkBSudCc"], table ["SErbfjchIpaDAEfe"]⟩,
   ⟨["zanabazarsquare", "zanb"], table ["ECUqCt"], []⟩]

/-- The characters of each script. -/
def scriptSets : List NamedSet := scripts.map fun s => ⟨s.names, s.own⟩

/-- The characters that are used in each script, wherever that is known, and otherwise those that
belong to it. -/
def extendedScriptSets : List NamedSet :=
  let known : CodePoints := .unions (scripts.map Script.shared)
  scripts.map fun s => ⟨s.names, (s.own.difference known).union s.shared⟩

end Descent.Unicode
