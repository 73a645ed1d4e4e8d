/-! The general categories of the character database. Each row holds the two letter
name of a category, in lower case, and the packed set of its code points. -/

namespace QueryFunctions.Unicode

def categoryTable : List (String × List String) := [
  ("cc",
    ["aBgDrBh"]),
  ("cf",
    ["GrbCAkgwbHkbBxbOucDcbFTjbDAqfBafBxfbkDGHjbJpdGIzbpbNKkqBZQueHWxiBTKZmbBeDs"]),
  ("cn",
    ["BIecgehbbbubPhbBmcBycdbCdiBbeglKkbCicDxoChcBxcpbBccbblfBfbcfJdbicccwbhbbdecjccceibecbfczcd",
     "bgeccwbhbcbcbccbbfeccddbhebbhrkdbjbdbwbhbcbfckbdbdcbpecmhhbdbicccwbhbcbfcjcccdhdecbfcskcbg",
     "ddbedcbbbcdcdddmefddbecbgbovfnbdbxbqcjbdbehcbdcbceckhwbdbxbkbfcjbdbehcgcbeckbdmnbdbBzbdbge",
     "qcBabdbsdybjbbchdbegbbbigkcdmCgeBdBlcbbbfbybbbxcfbbbhbkceBgCubBkeBnbBkbpbnBlHqbbfbcOnbechb",
     "bbecBpbecBhbechbbbecpbCfbecCpcBgdBagDicgcZtdDlhwjyjumnbdbcmDqckgkgBagDlhBrfCskBfbmemebdBqc",
     "flBseBagldCkcCnbBdclgkgocBfBxCzbGkiCidpdCkfBrcliBrfUocgcBmcgcibbbbbbbBfcCbbpbocgbtcdbjbDxb",
     "mcBbbndBhpBhpFkeZqwlvCRscBgbNlfBtbbfbcCehcoyjhbhbhbhbhbhbhbhbEwBiBabDlmIgBaDcbDicDzfBrbDqb",
     "DijBwbBRIrdCdjNkuHciHyccbbbivChdkgCeiCsimgEmlBedDableBhbCdjockcDzyBckgcgcgjhbhbCieEwckgQNs",
     "mxeBxeNBacEcBmhmffBabfbbbcbcbEvqRdcCchbBgBqgBzbtbeefbFfcbbHidgcgcgcddhbhkfcmbBabtbcbpcoBiE",
     "tfdeBtdDkbndbBvBuFaBddBxpBceBkjBefBrfBebBleoBqGcckgBkeBkeBoiCalmbpbhbcblbpbhbcdCamLzjwkiyg",
     "bBqbjCrgcbbBsbcdbcxbCuijBwtbcfBhdBbfbCmCeeucBybcfibdbBdcdekhjhCmBgBnemjCcdBdcBbfBahemhDcCv",
     "CdBznBzhBuikgBmdBdicIaBfbBqbdccqdCdBsiBqwBaBmBcuxjDaeBkjCqkbczhkgCbbsiBnjDsbulsbBvCkhbbbeb",
     "pblgChfkgebicccwbhbcbfbkcccdcbgbfhchdflkbbcbbBmbkbbcbbebkbcicBdDobfBeCuikGkCccBmBiCrlkgntC",
     "ggkguBcBbcpexHdCiDwDfmicbcibcbBebccmjkCsicBuclBbCuiDfnCvhkHaBiokgjbBtbokBddBgcwboCvhbcbBsd",
     "bbcbjikggbcbBlbcbghkLyzhrbBpdBdDhbpBynBJnDyEhbflHoDXkDvnBQskFXrfWlKDdCgCOsVxhBfbkeDdbkgBec",
     "gkCskkbhbvftQqCgHqDnDxCxeCfhrCmflcoJCaiBVqBpkNFrebhbcbLfpbBddcboeiPgDKuEdfndjhkciFVgJqgQuC",
     "yBucxjEmCiJmkBncHmvCsEsumumDjjzFfDhbCtbccbcccebmbbbhbCnbecibhbBcbebfbbdhbNccLgcBBapfbpBQmB",
     "fggIfhbrchbcbffCkBhbEiBtdockecMiBfrCgfbRwBqIgBrebSmhbebcbpbHpcqBpCyekecBEfCqCyCjHmebBbbcbb",
     "cbbkbebbbbgbebbbbbbdbcbbcbbbbbbbbbbcbbcebhbebebbbkbrfdbfbrCacKkBseDwmpcpbpbBlkGsCeBdnBsejh",
     "cogFyBLwerdndEpeDrgmebpmeCeikgBoiBecmecCkNcmocndkfCehpclgjhFrbDyBNqCLFcBgGDugIocINqoLBlpXy",
     "DQwUwCFyHHzfGFgBOMXlbBeDsEyJgDSFoDSYocDSYoc"]),
  ("co",
    ["DGVoJMeCAHXoDSYocDSYo"]),
  ("cs",
    ["DDUuDAu"]),
  ("ll",
    ["DtBaCgbBpybibbbbbbbbbbbbbbbbbbbbbbbbbbbbbbbbbbbbbbbbbbbbbbbbbbbbbbbcbbbbbbbbbbbbbbbcbbbbbb",
     "bbbbbbbbbbbbbbbbbbbbbbbbbbbbbbbbbbbbbbbbcbbbbdcbbbcbdcebcbddcbcbbbbbcbbcbbcbdbbbcccdgbcbcb",
     "bbbbbbbbbbbbbbbcbbbbbbbbbbbbbbbbbccbbbdbbbbbbbbbbbbbbbbbbbbbbbbbbbbbbbbbbbbbbbbbbbbbbbbbbb",
     "bbbbbbbhcbccbbebbbbbbbbCrbBbHlbbbdbddsbBbBjbcddbbbbbbbbbbbbbbbbbbbbbbbfbbcbccBzBwbbbbbbbbb",
     "bbbbbbbbbbbbbbbbbbbbbbbbbjbbbbbbbbbbbbbbbbbbbbbbbbbbbbbbbbbbbbbbbbbbbbbbbbbbbbbcbbbbbbbbbb",
     "bbcbbbbbbbbbbbbbbbbbbbbbbbbbbbbbbbbbbbbbbbbbbbbbbbbbbbbbbbbbbbbbbbbbbbbbbbbbbbbbbbbbbbbbbb",
     "bbbbbbbbbBwBpEHbBrcdBDggDFujbbEnBsClnbBiDybbbbbbbbbbbbbbbbbbbbbbbbbbbbbbbbbbbbbbbbbbbbbbbb",
     "bbbbbbbbbbbbbbbbbbbbbbbbbbbbbbbbbbbbbbbbbbbbbbbbbbbbbbbbbbbbbbbbbbbbbbbbbbbbbbbbbbbbbbbbbb",
     "bbbbbbbbbbjbbbbbbbbbbbbbbbbbbbbbbbbbbbbbbbbbbbbbbbbbbbbbbbbbbbbbbbbbbbbbbbbbbbbbbbbbbbbbbb",
     "bbbbbbbbbbbbbbbbbbjigkiiiigkiiiiociiiiiifbcgbddbciecciikdbcKobdcdbBbbebebccieebCbbEBbBwbbd",
     "cbbbbbbebbcbgfbbbbbbbbbbbbbbbbbbbbbbbbbbbbbbbbbbbbbbbbbbbbbbbbbbbbbbbbbbbbbbbbbbbbbbbbbbbb",
     "bbbbbbbbbbbbbbbbbbbbbbchbbbebmBmbbfbBTWdbbbbbbbbbbbbbbbbbbbbbbbbbbbbbbbbbbbbbbbbbbbbbtbbbb",
     "bbbbbbbbbbbbbbbbbbbbbbbFfbbbbbbbbbbbbdbbbbbbbbbbbbbbbbbbbbbbbbbbbbbbbbbbbbbbbbbbbbbbbbbbbb",
     "bbbbbbbbbbbibbbbcbbbbbbbbbebbbcbbdbbbbbbbbbbbbbbbbbbbbfbfbbbbbbbbbbbbbbbebbbcbdbbbbbbbbbbb",
     "BabdbBFpBrfjhDcBEAihmfBOzBaBVhBoFgBkFzlbpbhbcCRbBzEvwEGoBgBGJwBgBMMkBaBahbsBaBaBaebbbhblBa",
     "BaBaBaBaBaBaBaBaBaBaBaBaBaBaBaBaBcBczbgBazbgBazbgBazbgBazbgbbCSykbuggDUdBi"]),
  ("lm",
    ["BAmsemofhbbbFdbfbSkbIwbGicKjcebBfbjbdbGebGlbBVobExbVtbCPmbEdbXnbRwgGsClnbBiBlBAnbnbqnEMxcJ",
     "hbHjbSbbBrffbDtcDpdBQBubBWcgKkbEkbBccErjDcbxbEbddcSbbwbFhbEebvcDzejbBFVibBtcCZogbBqbjCCxbB",
     "gbBJNseTodBocVenCmcbbYGqebhbcSGnCkHthBKfbBRbb"]),
  ("lo",
    ["GobpbJwbeeIabBFvBbeeBtBgbkBjcbDvbbyckdcbqbbBeBdDllbyBhvwBqzhlfybgrBpChCcdbsbhkqpeicccwbhbb",
     "dedbqbncbdockbigeccwbhbcbcbcBfebbtdqjbdbwbhbcbfdbsbpcxblicccwbhbcbfdbBecbdpbrbbgddbedcbbbc",
     "dcdddmwbCaibdbxbqdbBadcbccBebeibdbxbkbfdbBfcbcpcrjbdbBpcbqbfdidygfsdybjbbchCgBwbcmgChcbbbf",
     "bybbbkbcjbcfxeBgbClibBkBbfElBrubqgeedbdchdenmbEjMrbechbbbecBpbecBhbechbbbecpbCfbecCpBlqEjX",
     "wcrbBafCxgihsntosonbdpCaBobCpBjbCbhfcBibbfCskBfBxBecflBseBaCcxjCbGuBvriCcBenckBsBaBkBpdkBe",
     "EjebgbcdbBPqeENvCeyxjhbhbhbhbhbhbhbhVfbCbbeDiibbDmebfBrbDqrBgBwqTsJToCmBFCfbBRzCpBoiKieqkc",
     "CobBxCsGnbDzbdhbdbebxBdCaoByCkgdbbclBckxzBdhBvBtfcjkfbBpxdbiuqbgdbdBybbdccfcbbbycdlhbogcgc",
     "gjhbhFpBjBdQNsmxeBxMNcOccEcCpbbkbnbfbbbcbcbEeBhNzsCmcCcBomEmfbFfEbkbBtcBfdgcgcgcdBjmbBabtb",
     "cbpcoBiEtOzBddBxBvBgnubigBmkBecBkeiEyDaDuBoiCaDoCamLzjwkiFwgcbbBsbcdbcxkxjBfCntbckwkBaCsCe",
     "gcCmbpebdbBdBqBddBdBjibBcBbCckwktnsEgCvHbBkBmebbLsBqgcqdChBdkbiwBqsBuvBbxmCbCfccbnBtBgzBaB",
     "kBdbcbiBjdbmBwoevbbbBjsbztcClhbbbebpbkhBvBmicccwbhbcbfdbsbmfBekbbcbbBmbbzbbbBsCbseudBeBwuc",
     "bbHcBvBpeBkBwubChBrnbCtBbBlhHdBsIdicbcibcbypbbbDqicBnqbbbBcbkBohbvblButbsCvHrBhBfjbBlrbBxB",
     "eEihbcbBmvbzgbcbBgobMptpbbnbBiEubDbBJmIwHoDXkDtpBPgrgzFXrfWlKDdBeCPuVxhBfrDbrBesBwBzvftQtB",
     "oPpCxfbGtJCaiBVqBpkNGhLfpbBddcboeiPgDKuEdfndjhkNBcbThBtBhbMjBesBsSqBbIvBecbTbhbebcbpbHpBZn",
     "ebBbbcbbcbbkbebbbbgbebbbbbbdbcbbcbbbbbbbbbbcbbcebhbebebbbkbrfdbfbrGOaCLFcBgGDugIocINqoLBlp",
     "XyDQwUwCFyHHzfGFg"]),
  ("lt",
    ["RlbcbcbBmbLFhiiiiimbpbBvb"]),
  ("lu",
    ["CnBaDxxbhBhbbbbbbbbbbbbbbbbbbbbbbbbbbbbbbbbbbbbbbbbbbbbbbbbbbbbbbbcbbbbbbbbbbbbbbbcbbbbbbb",
     "bbbbbbbbbbbbbbbbbbbbbbbbbbbbbbbbbbbbbbbcbbbbdcbbbcbdcebcbddcbcbbbbbcbbcbbcbdbbbcdbhbcbcbcb",
     "bbbbbbbbbbbbbbcbbbbbbbbbbbbbbbbbcbcbbdbbbbbbbbbbbbbbbbbbbbbbbbbbbbbbbbbbbbbbbbbbbbbbbbbbbb",
     "bbbbbbhcbccbbebbbbbbbbLdbbbdbibgbbdbbbcbrbjBjbcddbbbbbbbbbbbbbbbbbbbbbbbfbcbbccBzBwbbbbbbb",
     "bbbbbbbbbbbbbbbbbbbbbbbbbbjbbbbbbbbbbbbbbbbbbbbbbbbbbbbbbbbbbbbbbbbbbbbbbbbbbbbbbcbbbbbbbb",
     "bbbbcbbbbbbbbbbbbbbbbbbbbbbbbbbbbbbbbbbbbbbbbbbbbbbbbbbbbbbbbbbbbbbbbbbbbbbbbbbbbbbbbbbbbb",
     "bbbbbbbbbbcBmEHdBmbbfbBBuDiDGlbgBrcdMibbbbbbbbbbbbbbbbbbbbbbbbbbbbbbbbbbbbbbbbbbbbbbbbbbbb",
     "bbbbbbbbbbbbbbbbbbbbbbbbbbbbbbbbbbbbbbbbbbbbbbbbbbbbbbbbbbbbbbbbbbbbbbbbbbbbbbbbbbbbbbbbbb",
     "bbbbbbbjbbbbbbbbbbbbbbbbbbbbbbbbbbbbbbbbbbbbbbbbbbbbbbbbbbbbbbbbbbbbbbbbbbbbbbbbbbbbbbbbbb",
     "bbbbbbbbbbbbbbbjiigkiiiiglbbbbbbbiiCuemememfleKcbebddcdcbdfgbbbbbbecekcfbCjbDZgBwBwbbdcbbb",
     "bbbebbcbidbbbbbbbbbbbbbbbbbbbbbbbbbbbbbbbbbbbbbbbbbbbbbbbbbbbbbbbbbbbbbbbbbbbbbbbbbbbbbbbb",
     "bbbbbbbbbbbbbbbbbbibbbebBTYjbbbbbbbbbbbbbbbbbbbbbbbbbbbbbbbbbbbbbbbbbbbbbtbbbbbbbbbbbbbbbb",
     "bbbbbbbbbbbFfbbbbbbbbbbbbbdbbbbbbbbbbbbbbbbbbbbbbbbbbbbbbbbbbbbbbbbbbbbbbbbbbbbbbbbbbbbbkb",
     "bbbcbbbbbbbbebbbcbbbdbbbbbbbbbbbbbbbbbbbbfbfbbbbbbbbbbbbbbbebbbcdbfbbbbbbbybBHAhBaBUzBoFgB",
     "kGalbpbhbcCQcBzGbwEGoBgBGJwBgBMMqBaBaBaBaBaBabbccbcccebiBaBaBacbecibhBbcbebfbbdhBbBaBaBaBa",
     "BaBaBaBaBaBaBaBezBhzBhzBhzBhzBhbGNlBi"]),
  ("mc",
    ["DKtbCdbcdiebcBycCgdgccckbBrbCgdCobCgdibbcCbcCgbbbgccckbDycbcddbdkbBpdCjeCjcCgbbfccbcjcBcbo",
     "cCgdfdbdkbBqcCxdgiscMscClbGpcebgbcczckdchvccgcbkdCLsbBebEzbhibcNiecdecbgIqcCgbbbjbbcigFpbB",
     "wbfbbfbcCjbBebeccbCibcdbbdcBwiicGpbvbHHecBTLbccbDkcByqFmcBvbBwceccdEgcccybBtbbbEfbccfbJdcb",
     "cbcbbBLXjbbbExbBtdecElbycChbBwdjcnbDpddcbbGodBfcCgcbecccdjbkcDgdhbcbbebcbbDxdicdbEcdgbbecb",
     "JddgecbEjdicbbEfbbcgbDzbbcebKbdjbJngbcebcbbbFmdieebDgbBdcCkbPrbobEcbhbcbIffecbbNmcmbBwcicb",
     "bYYydFJgCdEacBKXncgg"]),
  ("me",
    ["BSqcIKqbCIgebdBYOxd"]),
  ("mn",
    ["BDoEiKpfKfBtbbbcbcbbCulBwvqbDxhcgccbeBjbBeBbDnlCgjjbyebjbdbfBrdChjBqybBgCdbbbeiebdhkcBdbCg",
     "beeibucBabccCfbececcddbBecdblcCfbefbcebucwgbbCgbcbbeibhclcBebCjbmbBybdbCdbbdfdbehclcBdbCgb",
     "cbgbfcucBccCfceeibucBdbCubhdbbDmbchmiDubcjlhCvcBbbbbbbCdobfbcflbBkjbDyebgbccczcedqenbccgbp",
     "bBBbdBKkdBdcBecBecCmcbhibcljbBtdbbEncBibEodecjbgdIlccbCgbbhbbbbcigkcbBwobqBxeBwbbfbbfbBojm",
     "cBgeccbdCebbcdbbdCgiccFwdbnbhebgbdcHqCmBBsnebdmEOcdFlbDsBgVieEdcBSQebekBgcDccKmbdbebzcfbFv",
     "cBasnbBmizlBudBwbceccBnbCpgccccmbibBvbBzbbdccfcbbBqcibJebcbebBDZsbBCjqqqBLlbIsbFtfCMgdbcfe",
     "BodebGjcWbeCnfMfcDbeCslBxeEtbCcpBpbcckdBxecchbCjdBkfbiCkbmcCajkecbDrdcbbcgbcbGbbdivcCfcdbB",
     "lhdfCsgnbbbbbocDhicdbbxbDggbbecbcJeegcbcBbcDhicbbcEcbbbcgbbDxbbbcebfJzjbcJwcbbebFoeccebBgk",
     "BogceibjgcdBunbcPqhbgbbDewchbcbcEsgdbbcbhbbCucdbbbNjclcCaffbbbxbHXtbgpQYymddDSafChhBOibCle",
     "DdbBDBkcGYzBucxUydrichBeeFsdCYdCdeByibobwfbpCAihbrchbcbfDwbGehOlbCjeToeJucBCihEfhBTCIvJg"]),
  ("nd",
    ["BwkCIokFekHqkPwkEokEokEokEokEokEokEokEokEokDskEokCskKskCskCTqkBmkLokEykGkkgkHakDikFekgkCAE",
     "okBAckBmkHqkwkDikPqkBFMckCCkkDFykgkBEqkEykCikFokKskNekEokOkkDykguCykQgkDykZmkDikJmkCskQgkY",
     "YgkDMckDikFekUokBKDykECqByDNckQgkTikJnkBGvkHBak"]),
  ("nl",
    ["IRudDYtBjceFMsbzjodBSYlkBIFgCbRsbibFefMEsEh"]),
  ("no",
    ["GwcfbcdDMrgOmgEqdFdhIjhrjQrkBPluBRvkSmbCMvbdggkHqqBpbBByCiDawYgBeCBhbBTceFikBeibpBgkBnpBSM",
     "igBHQnBtCnercNdBbBkeBZgizhBnjCxfwgGeccqcBuCmjCacBedCxfEaiyiBphMsgNoBfGckBqeEihFeuOpuBZxcQo",
     "jBHntBGtvBCPqhBEsxBLYfumuEezIBujBJtChbdbeCyBtbpBLan"]),
  ("pc",
    ["DrbMBvctbDGAocydJfb"]),
  ("pd",
    ["BtbCAubBzbFKjbBNpbDBdgFHxbcbBfcebBcbRebtbEhbCZWacBlbkbGnbFLobMgb"]),
  ("pe",
    ["BpbBzbBfbFPdbbbCUobDRdbCdbpbYkbbbBebBPubbbbbbbbbbbbbDcbBgbbbbbbbbbPobbbbbbbbbbbbbbbbbbbbbC",
     "mbbbBhbBOvbbbbbbbBsbbbbbbbQmbbbbbbbbbdbbbbbbbccCZRqbIjbBdbbbbbbbbbbbbbbbdbrbbbbbGobBzbBfbc",
     "bcb"]),
  ("pf",
    ["HfbLWvbdbBcbFFsbbbebcbpbdb"]),
  ("pi",
    ["GpbLXkbcccbzbFFsbbbebcbpbdb"]),
  ("po",
    ["BhdbdcbbbbckcdcBbbCqbfbochbBBabibRygBpbCcbcbcbBscucbcnbbdCweDybBroIzdCcpBfbKbckbFkbEqbErbP",
     "abmbOdbDmbkcGmpbbEibCwfecEhgGpbXojBDtbEudCtcGbdbdBlgbeMbcIicEyhbgGeckhBcdEueChfCkcCmilbBGc",
     "ciiijcecddlbbbkEUcebcEibFncedcbcjbcbbcckfbkcebbbncdQmdCfbHhbBRYgcKjdDvbkbElgOqeDicBodbbBxc",
     "BvbDtnqcEueEwcqcJpbBFCuhcbwbucceddbehdgbbcFtdbdcbbbbckcdcBbbBkbccPudZsbBwbPybBCpbHrbBfbKmj",
     "BmbEihCohDleBKqfBseHhhEfcbeEweBwcDbeebnbbdDkgEdbLmcbcEkfkcbbEabJqxEbdBcnCybFadJsbKedFzbDoi",
     "DfdbfDpkIhbDrfBqcYvcCwnGtbBRsfEJccWDvcFdbCnfibVgdLjeMpbBDBobLIlfEItbBHec"]),
  ("ps",
    ["BobBybBfbFPebbbCUobDPmbdbBmbCdbpbYkbbbBebBPubbbbbbbbbbbbbDcbBgbbbbbbbbbPobbbbbbbbbbbbbbbbb",
     "bbbbCmbbbBhbBOvbbbbbbbzbsbbbbbbbQmbbbbbbbbbdbbbbbbbcbCZRtbIhbBdbbbbbbbbbbbbbbbdbrbbbbbGobB",
     "ybBfbdbcb"]),
  ("sc",
    ["BkbEveBWjbEtbTecTechbJlbKdbWjbDQpbDIiBhBZHvbBGMlbEebFybIlcdcMCseCVXebDRkb"]),
  ("sk",
    ["DqbbbCtbgbebdbUbemofhbbbrEnbocBXibIUmbbdldndndncGHocBSVrxjcDzcBLobocBEKkrBIhbbbGgbDOLjf"]),
  ("sm",
    ["BrbqdCjbbbBtbebBlbBfbBDmbUhdJYhbnbBndndFjbBnfgbCqffcebcbcbhbBfccbbbBfKiBgcDmbBezBogSbbjbCc",
     "iEhbMyfcBfkqJwFbwCleBgcJyBwvcgDASqbBFsbbdGibqdCjbbbFbbgeFEfcCYEzbzbBfbzbBfbzbBfbzbBfbzbIUe",
     "c"]),
  ("so",
    ["GkbcbebbbBLpbKgcExcHybkbtcJnbTvbOjbFagbbFcbHzbBpbPbdpbbdcgubbbbbFdibgbcfeHpcBCykBBvbBBubGb",
     "BiNpkjjCChcbebckbbcggbbbbbbeblcobbcbbCgcjfcebcbcbhbBfccbbbBfKiieuchcDdbBezBogCuwlDdDawHbbj",
     "bCciEhbJoBsBsCmJwTsBwvcgBncBgbEbIvgNtcBuBabDlmIgBaqebncmbvcgcMycekBgBmjbqBflBeibpBgkBnpMiJ",
     "ToCmBGUiCdBHhekcbbWbdBFJaqExbBtdSqbdbecncMbjCfrcdbndbBvBtCLucWtbESsbDGnierBCNiefbBEUwbFVnJ",
     "gqQuGaEmCiJmkBncCifdwchBeeCjvCodbHeDjBTxTsCdeByibobcCOubEHwbEzbBBtBseDwmpcpbpbBlxGfCeBdnBs",
     "ejhcogFyJrfBCaerdndEpeDrgmebpmeCeikgBoiBecmecCkNcmocndkfCehpclgjhFrbDo"]),
  ("zl",
    ["MEqb"]),
  ("zp",
    ["MErb"]),
  ("zs",
    ["BgbExbIHjbDPnlBkbBvbFXwb"])]

end QueryFunctions.Unicode
