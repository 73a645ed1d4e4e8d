/-! The versions of the character database. Each row holds a version and the packed set
of the code points that it added, oldest version first. -/

namespace QueryFunctions.Unicode

/-- The packed sets of the code points added by each version, in order. -/
def ageTable : List (String × List String) := [
  ("1.1",
    ["aTieBeCeDlhBvbkwCsBacscebdbfhbbbubBsbhdbbbbbbbbsnmbCobmbBpjCbccccdBcciccCdBmchbBnbbBmkbjmB",
     "bffxbobdbbBaftnocCucfbpbBeckTzdbCbcscfdzqdbicccwbhbbdecbbhcccdjbecbfcvhbcgeccwbhbcbcbccbbf",
     "eccdlebbhpmdbhbbbdbwbhbcbfckbdbdcbpbfkrdbicccwbhbccecidccdicecbdelrcbgddbedcbbbcdcdddibdef",
     "ddbejbpmodbibdbxbkbfehbdbehcjcekscbibdbxbkbfehbdbehchbbcekscbibdbxbqegcdbejbicekFpCgeBdBlc",
     "bbccbbcbgebhbdbbbbccbnbdcfbbbgckccRiBmkBnebeDmfCqfDeEOkFzfDmgwcgcBmcgcibbbbbbbBfcCbbpbocgb",
     "tcdbjbBvbxBjhdBbrlBlsBeCfBaBwnDnvJiobbErFdBlBblvFjvFukDcqugDiFpebecBcbBjbbbedbbhchoBfdyboD",
     "DhCehbbDgegcDqgBoeDqbqDsBddBkBcBcdBypmeBvbEpeDvcBfJWbBEXyYJqJXuIchmfgzbfbbbcbcbEeBhObqCmcC",
     "cBomBkemvekbtbeedbbbFfcbbDqcDqdgcgcgcddhbhod"]),
  ("2.0",
    ["CCvrbnubDMxCubBhhBbegbbbvdhbbFQnbUhbCATwQNsEIFycDSYocDSYocDSYocDSYocDSYocDSYocDSYocDSYocDS",
     "YocDSYocDSYocDSYocDSYoHLXi"]),
  ("2.1",
    ["MJsbDGOtb"]),
  ("3.0",
    ["TieBeicsEnfBxbkfDjjtbEmbdbbbbbbbBebmbCobmbBqcceDocGabHsdDucfbpbBqfbobBedBbCbBxCFhcbsdybjbb",
     "chdbegbbbisdOjbBrbxdhbbdbpcbBwBibfbcbhdegBaQghbClbbbechbbbecBnbbbecBfbbbechbbbechbhbxbBfbb",
     "bechbBnbtgBcBjDhmYgjBddDdFnDpdkwpbkgDkiBqCWbbygDrdBycDhcCubDzjKjbErbbBeFicRpiBhbDicPiJwCCe",
     "BabDlmIgBamCiddbNpyWmJTeBFEgBSvdscqbmbdbbBGScbBVvd"]),
  ("3.1",
    ["BMycDQQcBgBXwBfbemBbGzBmcBmCZDqJmkBndGyVaDhbCtbccbcccebmbbbebcbCnbecibhbBcbebfbbdhbNaeLeeB",
     "yPDwCLEtBETdUwBPCQtbBeDs"]),
  ("3.2",
    ["UybLqbtnEacBcbFrcCfcccccBxqNmcMjbDNhcCHjnbhlxjumnbdbcDIxbgfebhfnbCkcByhDepGmmJioEubBeCaKyu",
     "FvkDkiwcDmmckIooDmBceqJwTsBZndDjcicDqbJgqDdpDdpBRDicqbmbdbBGJaChBJdbdqCbcBsbJbc"]),
  ("4.0",
    ["UzbsdEpcClrDcifdFvfTwejjCmdFtcpbBtdBddQubHcbCpbbbFgbDgdnbCpbChbEziHlcEFnbskKcBddmemebdBqcf",
     "EdBgBDoEeBCpcIwbZjcLqbKqcEmiocBRaoCRncBxbBrcDaeGleDvcBfbJToCmCOQvbCvcQxmbBabtbcbpcoBiEtfde",
     "BtdjWeBebbFecBmDcckBGwgcbbBsbcdbcbCYUiDjNybBTKDaJg"]),
  ("4.1",
    ["VvlKsfGdeJmcGobBidCpbsbCggJhBeUhbDcbStbBvbBMncLjcbbKgbClbClbBnbBfbBfbBfbpbBnbxcBfBaCGcBqgB",
     "agkecBgBcccBGmDkZhcbhBxfBdeCbbDcbpbYulWabDxcslfqKkhBGhgJcBvbBvBhEdoBtkCcjbqxjhbhbhbhbhbhbh",
     "bhBhyecBJuqGsbBPItwCToxIzBsBFEaEcBFqkBFaCxUnBkeoCIsebcfibdbBbedejijCXPvCsBRac"]),
  ("5.0",
    ["WgoLndMzbBqgqeGkbTxChOucbcBHicncFIjCyeBtWlhBzcBCueDpcCbbXbmBBmbKqeBGjhfeMenheBULjefcLaCeBK",
     "OmBafbIRgBHvFpDvneCOGisBQuc"]),
  ("5.1",
    ["BHweccDjbHbbFkqIsflfBgfLqsTdcIobBjbHybBdcEebEebBacicuiHhbgbBdcmgdhSxcDtbddCzbfbcbhdegBaCme",
     "cDBebBBxBrdmCsCedpdBzMtBcGzeDmgNsbFjbDqbCbeBYabvkdeKebBfeBFffeBpdfKudbdegNqBgyectBDkbGguBP",
     "PoiBZoLouBgcsiBcFbfcEdEgfEyCrjmBmDglbGeCdjockceBFSudBHpmCaBuFaBddBxCKdBafbCXSjbLRqBseDw"]),
  ("5.2",
    ["BYqcBCcBucpHlbCzbgbBjcEybCFpeHleHgfCqfDegTsbYgjVoCsGycBubCrClbBdclgkgoVaBjKgbBAudFvdCcbXib",
     "BArcBddekbtbbeyDjbBNhfKsbncEdhMhbBOcmBPLsiBXkBwQaDkMakGkBcDwBddDablecEyBceCpyfIqBuckQOkxeB",
     "xNBbdFGcwbjHecMmBgEyCcdBdcBbfiEyCvUpBfTtCoLVqBPfCTNdlfBfcblbbbcbdbdfibhbzbbccbkecbEhbpBioj",
     "CQLjGDp"]),
  ("6.0",
    ["BYscJobCkbSmBccbIlctbgcBbfTmgQrbqbtbWbeCvcBIocDEnCaieTobZoiBcbBFjlBCcbtbbeBdbecBcbBjbbbedj",
     "cCadybobocCDkbobBPodBSEncLncbcokDcbBDugcgcgjhbhBEMtqHRiDaeBeBHEeVxBALbcYMgpcocpbpDcbblbbbc",
     "bdbdfibhbkgjbbccbkecbkCxBabcBvjvcGsBhpgbCsdumBlbfvrpClbbbHabedCksyFrfbqbdbbbbbbbdbgcebbceb",
     "melBwCsCgEmCUQmIo"]),
  ("6.1",
    ["CCtbEmbZrbblCdBbTdbBMrcStbfbBvdEBbdmgJwiBreECqbbbBYqcBzbfbCecHukBRAebCNniBjbJicwbCzcBCoxBD",
     "ZzcFUuCegcCRozhkgCbboCiCvhkBTuCeikBHKoCrlBvqrBVWiebBbbcbbcbbkbebbbbgbebbbbbbdbcbbcbbbbbbbb",
     "bbcbbcebhbebebbbkbrfdbfbrCacYicBLseHgbqbdbbbbbbbdbgcebbceb"]),
  ("6.2",
    ["MKgb"]),
  ("6.3",
    ["CIebJYve"]),
  ("7.0",
    ["BIlbQiiDpcEobZrblgCybEqbhbYpbBzbCybExbIukDKriVccPlpVxcJdpBBhdBFqhBDtbBQidkBacBgcBidmbiXuhB",
     "TOvgJmmldccCrbSuBfEveGuBwecBFIvhBHdctbMhBcBjbBwBrOzBoiCalbFoLzjwkiJoClijRwBgBgBnemFhshemhB",
     "VjbIaBnDibmbgulsbBrEkChfkhdbicccwbhbcbfcjcccdjbfhchdfKhCuikGkCccsCcCrlkWkDfmbRgCfDFiBqHumf",
     "bBALfBfbkecDsBecgkCskkbhbvftBEMaEdfndjhkciQKyHpcqCZwbBgwvcUmmjbCsbwmBlbfefmrhCtbbbHabecClc",
     "ehBdsbBpbDiCscnBwCskqndeFkDhBrmeCeikgBoiBe"]),
  ("8.0",
    ["DHrcBubUnbNobKabCMvbcgEVobHvcDYeeBRWvjCOubJgbBigMmcXmemDcBFFqcEBgtbcffHgccqcBuYqBznBzhgBVd",
     "eofGehbbbebpblDibDbbYjuLeBadpeqERpbIwHoLQqWlCAWllCHzZcpfbpJHddDacDbfBkiJvbCxfJjcFjbWdjDzfC",
     "hbCUClINq"]),
  ("9.0",
    ["DHuiwpBJpbHybedbhxdFRzjOgbCHbeDXccBTZlbKsbBHQdcBEvBkeBkFAobRhDmbbbbTunCCxjbBtbokBddBgcwboB",
     "FMvbBfJBptBDbBGFlhbrchbcbfDIzCxfkecDDbsFmbBFybBpbLocBhdVagbiibcmbmepBmn"]),
  ("10.0",
    ["DEmlPlcJsgTsbCgcFYwbJueBBhbBFzbCZabYcfBCmbBPXnvBLPidIQqCuiCacxbfXhhbcbBsdbbcbjikBFGpbYHkKz",
     "DdPgYAegBRpcBicTzmtbiibczbsnBmgCexDCPdLBl"]),
  ("11.0",
    ["CAybBnbDybUfdIdbLmbEpbPhbExbENrbBOhBrcdFRmdwzepWpfBCibBPYhfCYhbicMmcBKVccsbBAtBoikRmBoiBqO",
     "hbEodTgbLebBAxbIvCiXlbBBegbcbBlbcbghkLyzBEApDnJPifBCJuuEwhJLwCqBScbCEzbIleOidBcfcedbbeylnk",
     "hcBkzDso"]),
  ("12.0",
    ["EStbUgbcbcbbgebhbhccbnbFKhbFPubCbbWtbBTZmgcfBJrcBMBgxBRkbXcbBCpicBuclGdcBZmBynbHQujWJkgebB",
     "vjDmcJCwgPRcdreSAqBtdockecOeCgfbCJzbBKnCjBPebCBgbBkbIvmLddBvbBxbjbBpgdckgdicdBwDgBceedfdng"]),
  ("12.1",
    ["TIdb"]),
  ("13.0",
    ["DIckZdbQobEubFAjcGJubBAudBHofKPikBFDgnCYseBqcCbbBFveBGQqbEWxBqbdccJuBcOpbFecZabfcBTmhcbcib",
     "cbBebccmjkCKkbBEJrblcKFxSpBqjBLWudDpdCjbBYucBjcQtcDmbDxbecBqcgdBdbGmboepthhjdnhBpFrbCdBlkC",
     "MSjhBHTqHHz"]),
  ("14.0",
    ["CIfbWwBfbcgivbslBHpbBgbExbDWhbhbjbJfbBAnoEvbBwcYlbBBhbEIobBvbTflBRAtdCYicocbbbfydBFTdbOrqE",
     "xbBucCVglbpbhbcblbpbhbcRjgbBqbjCXxBaIwgCybCGsbFehBHpqHWyDvWDxDbbkBAEwebhbcLceLIbBucxjEmVdc",
     "EYvBfBHxBfBZdhbebcbpFQkdKmbPcbDebGscBsekeidrdgiihCNCpcGEve"]),
  ("15.0",
    ["EXnbSgbDTAkdBFzdDIckBNarbBpdBcHXdbjBdBVHkbBibMRauERhgKbCkBhbBPwBqGUcbFvdefDlbZrdpcBkdldbbo",
     "ckcmbocCTHobBIWsGFg"]),
  ("15.1",
    ["SEmeTbbKEIqXy"]),
  ("16.0",
    ["DGpbHCgcBvbKfcCWydFFecBSQvdmdBJOlCaCTwBmdBdicLudCdbBSlkbbcbbBmbkbbcbbebkbcicBCvuBVwBiokBHg",
     "bHYzFXrKZtCgEOkCgLYjbXWiJqgQuIToBrebHCckecRnbfbBubhbvbcbjbIrBl"])]

end QueryFunctions.Unicode
