import Descent.Unicode.Table

/-!
# Ages

The version of the standard in which each character was first assigned, up to Unicode 16.0.
-/
namespace Descent.Unicode

/-- A version of the standard with the characters that are new in it. -/
structure Version where
  major : Nat
  minor : Nat
  added : CodePoints

/-- A version is called by its numbers with a full stop between them, or by the numbers alone
after a letter. -/
def Version.names (v : Version) : List String :=
  [toString v.major ++ "." ++ toString v.minor, "v" ++ toString v.major ++ toString v.minor]

/-- The versions, from the first one on. -/
def versions : List Version :=
  [⟨1, 1, table
    ["aTheBdCeDkhBubjwCrBabsbeadafgbabtbBrbgdababababrnlbCnblbBojCacbcbdBbchcbCdBlcgbBmbaBmjbi",
     "mBafexaoadabzfsnncCtcebobBdcjTzcbCacrcedyqcbhcbcvbgbaddcabgcbccjaebbecuhacfebcvbgbbbbbb",
     "cabeebccldbahomcbgbabcbvbgbbbecjbcbccapafjrcbhcbcvbgbbcdchdbccibebbcekrbbfdcbddbbabbdbdc",
     "dhbceedcbdjaplocbhbcbwbjbeegbcbdhbjbejsbbhbcbwbjbeegbcbdhbhabbejsbbhbcbwbpefccbdjaibej",
     "FpCfeBcBlbbacbbacagdbgbcbabacbbmbccebabfcjcbRiBlkBmeaeDlfCpfDdEOkFyfDlgvcfcBlcfchbababa",
     "bBecCabobncfbsccbibBubwBjgdBarkBlrBeCeBaBvnDmvJhoabEqFdBkBbkvFivFtkDbqtgDhFpdbdcBbbBiba",
     "bddabgcgoBedxbnDDhCdhabDfefcDpgBneDpbpDsBcdBjBcBbdBxpleBubEoeDucBeJWbBEXxYJqJXtIcgmegybe",
     "babbbbbEdBhOaqClcCbBolBkdmuejbsbdecbabFecabDpcDpdfcfcfccdgbgoc"]⟩,
   ⟨2, 0, table
    ["CCvqbmuaDMxCtbBghBaefbabudgbaFQnaUhaCATwQNrEIFybDSYobDSYobDSYobDSYobDSYobDSYobDSYobDSYob",
     "DSYobDSYobDSYobDSYobDSYoHLXh"]⟩,
   ⟨2, 1, table
    ["MJsaDGOta"]⟩,
   ⟨3, 0, table
    ["TidBehcrEneBxakeDjitaEmadabababaBeamaCoamaBqbcdDobGaaHscDubfapaBqebnbBddBaCbBwCFhbbrdxbi",
     "bacgdaefbabhscOjaBraxchabcbocaBwBhbebbbgddgzQggbCkbabdcgbabdcBmbabdcBebabdcgbabdcgbgbw",
     "bBebabdcgbBmbsgBbBjDgmYfjBcdDcFnDodjwobjgDjiBpCWbayfDrcBybDhbCuaDziKjaErabBdFibRphBhaDib",
     "PiJvCCezbDkmIfBalCicdaNpxWmJTdBFEgBSudrcpblbcbaBGScaBVvc"]⟩,
   ⟨3, 1, table
    ["BMybDQQcBfBXwBebdmBaGzBlcBlCZDqJlkBmdGxVaDgbCsbbcacbcdblbabdbbbCmbdchbgbBbbdbebadgbMzeLd",
     "eBxPDwCLEsBETdUvBPCQtaBeDr"]⟩,
   ⟨3, 2, table
    ["UyaLqatmEabBcaFrbCfbcbcbBxpNmbMjaDNhbCHjmbglwjtmmbcbbDIxageeahenaCkbBygDeoGmlJinEuaBeBz",
     "KytFvjDkhwbDmlcjIonDmBbepJwTrBZncDjbibDqaJgpDdoDdoBRDibqamadaBGJaCgBJdadpCbbBsaJbb"]⟩,
   ⟨4, 0, table
    ["UzascEpbClqDchfcFveTwdjiCmcFtbpaBtcBdcQuaHcaCpabaFgaDgcnaCpaChaEzhHlbEFnasjKcBcdleleadBp",
     "ceEdBfBDoEdBCpbIwaZjbLqaKqbEmhobBRanCRnbBxaBrbDadGldDvbBfaJToClCOQvaCvbQxlbzbsbbbocnBiEs",
     "fceBsdiWeBdbaFebBmDbcjBGwfcabBrbbdacaCYUiDiNyaBTKDaJf"]⟩,
   ⟨4, 1, table
    ["VvkKseGddJmbGoaBicCpasaCgfJhBdUhaDcaStaBvaBMnbLjbbaKgaClaClaBnaBfaBfaBfapaBnaxbBfzCGcBp",
     "gzgjebBgBbcbBGmDjZhbbgBxeBddCbaDcapaYukWaaDxbskfpKkgBGhfJcBubBuBhEcoBskCbjaqwjgbgbgbgbg",
     "bgbgbgBhxebBJupGsaBPItvCTowIzBrBFEaEbBFqjBFaCwUnBjenCIsdbbfhbcbBaeceiiiCXPvCrBRab"]⟩,
   ⟨5, 0, table
    ["WgnLncMzaBqfqdGkaTxCgOubbbBHibnbFIjCxeBsWlgBzbBCudDpbCbaXblBBmaKqdBGjgfdMemhdBULjdfbLaCd",
     "BKOmzfaIRgBHuFpDundCOGirBQub"]⟩,
   ⟨5, 1, table
    ["BHwdcbDjaHbaFkpIseleBgeLqrTdbIoaBjaHyaBdbEeaEeaBabibuhHhagaBdbmfdgSxbDtadcCzafacahcef",
     "BaClebDBeaBBxBqdlCsCddodByMtBbGzdDmfNsaFjaDqaCbdBYaavjddKeaBfdBFfeeBodeKucbcefNqBfydcs",
     "BDkaGgtBPPohBZoLnuBfcriBbFbecEcEgeEyCqjlBmDflaGeCcjncjcdBFSucBHplCaBtFaBcdBwCKdzfaCXSja",
     "LRqBreDv"]⟩,
   ⟨5, 2, table
    ["BYqbBCcBtcoHlaCzagaBjbEyaCFpdHldHgeCqeDefTsaYgiVoCrGybBuaCrCkbBcckgjgnVaBiKgaBAucFvcCca",
     "XiaBArbBdcejbsbaexDjaBNheKsanbEdgMhaBOclBPLshBXkBvQaDjMajGkBbDwBcdCzbkebEyBbeCoyeIqBtcj",
     "QOkweBwNBbcFGcvbiHebMmBfEyCbdBccBafhEyCuUpBeTtCnLVqBPeCTNdkfBecalabacadadeiahazabbcakdca",
     "EhapBhoiCQLjGDo"]⟩,
   ⟨6, 0, table
    ["BYsbJoaCkaSmBbcaIlbtagbBbeTmfQraqataWbdCvbBIobDEnBzidToaZohBcaBFjkBCcatabdBdaebBcaBjaba",
     "ecjbCacyaoaobCDkaoaBPocBSEnbLnbbbojDcaBDufcfcfjgbgBEMtpHRiCzeBdBHEeVwBALbbYMgocncoboDca",
     "bkbabbbcbcfhbgbjgibacbbjebbjCxzbbBvivbGsBgpfbCrdtmBkbevqpCkbabGzbddCjsxFrebpbcbabababcbf",
     "cdbacdblekBwCrCgElCUQmIn"]⟩,
   ⟨6, 1, table
    ["CCtaEmaZrabkCdBaTdaBMrbStafaBvcEBbcmfJwhBrdECqabaBYqbBzafaCebHujBRAeaCNnhBjaJibwaCzbBCow",
     "BDZzbFUuCdgbCRoyhjgCabnCiCuhjBTuCdijBHKoCqlBuqqBVWidbBabbbacabjbdbabagaeabababcbbbacaba",
     "babababbbacdbgbdbdbabjbqfcbebqCabYibBLsdHgaqadabababadagbeabbea"]⟩,
   ⟨6, 2, table
    ["MKga"]⟩,
   ⟨6, 3, table
    ["CIeaJYvd"]⟩,
   ⟨7, 0, table
    ["BIlaQihDpbEoaZralfCyaEqahaYpaBzaCyaExaIujDKrhVcbPloVxbJdoBBhcBFqgBDtaBQickzcBfcBhdlbhXug",
     "BTOvfJmllccbCraSuBeEvdGuBvebBFIvgBHdbtaMhBbBjaBwBqOzBniBzlaFoLyjvkhJoCkiiRwBfBgBmelFhrhd",
     "mgBVjaIaBmDiamagtlrbBqEkCgfjhcbhcbcvbgbbbecicbccjafgcgdeKhCtijGkCbcrCcCqljWkDemaRgCe",
     "DFiBpHulfaBALfBebjebDsBdcfkCrkjbgbufsBEMaEcfmdihjchQKyHocpCZwaBgvvbUmljaCsawlBlafdflrg",
     "CtabaHaaebClbegBdrbBobDhCsbnBvCsjqmddFkDgBrleCdijgBniBd"]⟩,
   ⟨8, 0, table
    ["DHrbBuaUnaNoaKaaCMvacfEVoaHvbDYedBRWviCOuaJgaBifMmbXmdmDbBFFqbEBgsbbfeHgbcpcBtYqBynByhf",
     "BVddoeGegbabdbobkDiaDbaYjtLezdoepERpaIwHnLQqWkCAWlkCHzZbpeboJHdcDabDbeBkhJvaCxeJjbFjaWdi",
     "DzeChaCUClINp"]⟩,
   ⟨9, 0, table
    ["DHuhwoBJpaHyaecbgxcFRziOgaCHbdDXcbBTZlaKsaBHQdbBEvBjeBjFAoaRhDlbabaTumCCxibBsbnkBcdBfcv",
     "bnBFMvaBfJBotBDaBGFlgbqcgbbbeDIzCwfjebDDbrFmaBFyaBpaLobBhcVafbhiaclbleoBmm"]⟩,
   ⟨10, 0, table
    ["DEmkPlbJsfTsaCgbFYwaJudBBhaBFzaCZaaYceBCmaBPXnuBLPicIQqCtiBzcwbeXhgbbbBrdabbbiijBFGpa",
     "YHkKyDdPfYAefBRpbBibTzltaihbbzasmBmfCewDCPdLBk"]⟩,
   ⟨11, 0, table
    ["CAyaBnaDyaUfcIdaLmaEpaPhaExaENraBOhBqccFRmcwyeoWpeBCiaBPYheCYhaibMmbBKVcbsaBAtBnijRmBn",
     "iBpOhaEocTgaLeaBAxaIvChXlaBBefbbbBkbbbfhjLyyBEApDmJPieBCJutEwgJLwCpBScaCEzaIldOicBcecdda",
     "bdyknjhbBkyDsn"]⟩,
   ⟨12, 0, table
    ["EStaUgacacabfeahahbcanaFKhaFPuaCbaWtaBTZmfceBJrbBMBgwBRkaXcaBCphcBtckGdbBZmBxnaHQuiWJkf",
     "eaBviDmbJCwfPRccrdSAqBsdncjebOeCffaCJzaBKnCiBPeaCBgaBkaIvlLdcBvaBxajaBpfdbkfdhccBwDfBcd",
     "ecfcnf"]⟩,
   ⟨12, 1, table
    ["TIda"]⟩,
   ⟨13, 0, table
    ["DIcjZdaQoaEuaFAjbGJuaBAucBHoeKPijBFDgmCYsdBqbCbaBFvdBGQqaEWxBpbccbJuBbOpaFebZaafbBTmgca",
     "chbbbBdbbcljjCKkaBEJralbKFxSoBqiBLWucDpcCjaBYubBjbQtbDmaDxaebBqbgcBdaGmaodpshgjcngBpFq",
     "bCcBljCMSjgBHTqHHy"]⟩,
   ⟨14, 0, table
    ["CIfaWwBebbghvaskBHpaBgaExaDWhahajaJfaBAnnEvaBwbYlaBBhaEIoaBvaTfkBRAtcCYibobbabeycBFTda",
     "OrpExaBubCVgkbobgbbbkbobgbbRjfbBpbiCXxzIwfCyaCGsaFegBHppHWyDuWDxDabjBAEwdbgbbLcdLIbBtcw",
     "jElVdbEYvBeBHxBeBZdgbdbbboFQkcKmaPcaDeaGsbBsdkdicrcghigCNCpbGEvd"]⟩,
   ⟨15, 0, table
    ["EXnaSgaDTAkcBFzcDIcjBNaqbBodBbHXdajBcBVHkaBiaMRatERhfKbCjBhaBPwBpGUcaFvceeDlaZrcpbBkclc",
     "baobkbmaobCTHoaBIWsGFf"]⟩,
   ⟨15, 1, table
    ["SEmdTbaKEIqXx"]⟩,
   ⟨16, 0, table
    ["DGpaHCgbBvaKfbCWycFFebBSQvcmcBJOlBzCTwBldBcibLucCdaBSljbacabBlbjbacabdbjbbibBCvtBVwBhoj",
     "BHgaHYzFXqKZtCfEOkCfLYjaXWiJpgQtIToBqeaHCcjebRnafaBuahavacajaIrBk"]⟩]

/-- The characters that a version has, under its names, given those of the versions before. -/
def agesFrom (assigned : CodePoints) : List Version → List NamedSet
  | [] => []
  | v :: more =>
    let assigned := assigned.union v.added
    ⟨v.names, assigned⟩ :: agesFrom assigned more

/-- The characters that each version has. -/
def ages : List NamedSet := agesFrom [] versions

end Descent.Unicode
