/-! The characters of names and of readable text. These sets follow version 17 of the
character database, one version after the sets that patterns can name. -/

namespace QueryFunctions.Unicode

/-- The packed sets of alphabetic, numeric, combining and unprintable characters. -/
def textTable : List (String × List String) := [
  ("alphabetic",
    ["CnBagBaBvbkbebfxbBfbRqemofhbbbDibBdsbccebbgbbdbbbubDfbFjiGkbBmcbgBpBnobbbcbcbbiBbeeBdlfCeb",
     "hoDybieiedkdcbqBwnDxyBhjcebfycttzhlfybhhbiBqkmdhgCybqbdepntbicccwbhbbdediccccbbibecbfmckbe",
     "dbgeccwbhbcbcbcefecccebhebbrgldbjbdbwbhbcbfdjbdbcdbpeveedbicccwbhbcbfdiccccjcecbfnbqcbgddb",
     "edcbbbcdcdddmefddbddbgbBonbdbxbqdibdbdicbdbcceBcebibdbxbkbfdibdbdicfdbendmnbdbBpcibdbdbbfe",
     "hfwgbdbsdybjbbchigbbbiscnCgfhgbBzcbbbfbybbbtbdcfbbgboeBgbClibBketeqbBkCpCdbbcfqCmkecBmbbfb",
     "cBrbMvbechbbbecBpbecBhbechbbbecpbCfbecCpBlqqDicgdXwcrbBafCxdlhulvmumnbdbcmCactobebCpDlhBrf",
     "CskBfbmejxBecflBseBaCcBceClcuBybxcldBxCabpbiBzBqcekBsbloCdwdkBkclfBrcdBpebgbcdbfHktBilKscg",
     "cBmcgcibbbbbbbBfcCbbhbbddbhdecgenfdbhEmbnbqnDxbebckbbdfgbbbbbbeblceffebrBpBFhCaCRuIvgedcmB",
     "mbbfbcCehbqxjhbhbhbhbhbhbhbhbBgBvbSbdzjhfcfeDigdbDmbefBrbDqrBgBwqTsJToCmBGUfCpBucKjdqkcuBv",
     "fidEjBnjcDzcDeuvbBhyCamCqbbBsgdbbdkBhfBjnBddBzbmpbqqkfbCdjosxdCrbbbbydcqcelgcgcgjhbhbBrbog",
     "EtvQNsmxeBxMNcOccEcBmhmffmbnbfbbbcbcbEeBhNzsCmcCcBomEmfbFfBkBagBalDldgcgcgcdBjmbBabtbcbpco",
     "BiEtCrCbKhBddBxBvBgnBefBrfBecBkeibfBqGcsBkeBkeBoiCamlbpbhbcblbpbhbcdCamLzjwkiygbBqbjCrgcbb",
     "BsbcdbcxkxjBfCntbckwkBagBaBmCegcCmebcfibdbBdBqBddBdBjibBcBbCckwktnsEgCvCdBznBznBoBiBcdbfxJ",
     "qBqbcdcqgByddBdkbiwBqsBuvBbxjCsBrfkCfjbnzxBzreiBjdbjCmbejckbbbBjsbBicbgeCkhbbbebpbkhCfxebi",
     "cccwbhbcbfdiccccdbgbfhBckbbcbbBmbkbbcbbebcdbbbBsCobdbeudBeCoccbbHcCcchzgBiClbbdbChCccbCtBb",
     "covhHdCfDzCmBficbcibcbBebcccceDpicBucgbbbcBbBzckrCufbsCvDziDkBhBfjbBtbhbbBxBecwboCvhbcbBsd",
     "bbcbdbbccygbcbBlbcbebbxBsKaxjrbBpddEhbDbBJmDyEhrHoDXkDtpBPgrgzFXrfWlKDdBvCPdVxhBfrDbrBesBw",
     "qeBfvftQqBtIdCmBgzczBsCxeCfhrCmcbbmhjKXyBpBgDtElMWrebhbcbLfpbBddcboeiPgDKuEdfndjhkebIWfDhb",
     "CtbccbcccebmbbbhbCnbecibhbBcbebfbbdhbNcczbzbBfbzbBfbzbBfbzbBfbzbiCSyBfggIfhbrchbcbffCkBhbE",
     "iBtkhqbMjBesBsSqBcIuBecbHzBfbwicIqhbebcbpbHpChCqdbdbBUiebBbbcbbcbbkbebbbbgbebbbbbbdbcbbcbb",
     "bbbbbbbbcbbcebhbebebbbkbrfdbfbrYeBagBagBaFMkCLFcBgGMocIOccLBlpXyDQwUwCFyHHzfMOo"]),
  ("numeric",
    ["BwkEqcfbcdCDlkFekHqkPwkEokegEekEokEokcgEgnElkihDzkEahhtEfkDskEokCsuKikCskBBruBHxdJfkgkwkLo",
     "kEylGjkgkHakDikFekgkBOgbdggkHqBzcfBByCiDawYgBeCBhbBDxbzjodNfeFikBeibpBgkBnpBRSakHgkMigFykB",
     "mkHqkwkDikPqkBFMckSzBtmCfrcNdBbBkeBdbibFefHukBKgizhBnjCxfwgGeccqcBuCmjCacBedCxfEaiyiBphMsg",
     "BwkgkKsBfGckBqeEihFeBeEykCikFokhuJrkNekEokOkkDykguCymQetDpkZmkDiBdItkCskCckNukDyvBPbEhXAfk",
     "DMckDikFekbhUgkKcxNldBJFlkCEwumuEezBQrByDNckQgkTikJnkBBojEykBElChbdbeCyBtbpBLanEDfk"]),
  ("combining",
    ["BDoEiKphKdBtbbbcbcbbCulBwvqbDxhcgccbeBjbBeBbDnlCgjjbyebjbdbfBrdChjBqybBgCdbbbeiebdhkcBdbCg",
     "bbbceibjbkcBabccCfbececcddbBecdblcCfbefbcebucwgbbCgbbcbeibhdkcBebChbbbmbjbBobdbCdbbdfdbehc",
     "lcBdbCgbccbbddbehclcBccCfcbbceibjbkcBdbCubebcdbbibDdbchmiDubcjlhCvcBbbbbbbCdobfbcflbBkjbDy",
     "ebgbccczcedqenbccgbpbBBbdBKkeBcdBdcBecCmcbhibcljbBtdbbEncBibEodecjbgdIlccbCgbbhbbbbcigkcbB",
     "wBucmueBwkedBmjmcBgecgCebbcdbbfCeiccFwdbnbhebgbdcHqCmUebHnBhEOcdFlbDsBgVigEbcBSQeebkBgcDcc",
     "KmbdbebzcfbFvcBasnbBmizlbbBsdBwbcecccbBkbCpgccccmbibBvbBzbbdccfcbbBqcibJebcbebBDZsbBCjqqqO",
     "ccXhbIsbFtfCMgdbcfeBodebGjcWbeCnfMfcCzgCslBxeEtbCcpBpbcckdBxecchbCjdBkfbiCkbmcCajbbiecbDrd",
     "cegbcbGbbdivcCfcbbbbmbjbohdfCpbcgbbcbbdedbbocDhicdbbxbDdbcgbbcbbcbcJbbcegcbcBbcDhicbbcEcbb",
     "bciDxbbbcebfJzjbcJlbkeebFoeccebBgkBogceibjgcdBunbcHqbbdbbHthbgbbDewchbcbcEsgdbbcbhbbCucdbb",
     "bNjclcCaffdxbHXtbgpQYymddDSafChhBOibCleDdblcBDAxcGYzBucxUwfdgiichBeeFsdCYdCdeByibobwfbpCAi",
     "hbrchbcbfDwbGehOlbCjeToeJucJjbcbhcfbSghEfhBTCAfDsEyJg"]),
  ("unprintable",
    ["aBgDrBimbBBmcgehbbbubPhbBmcBycdbCdiBbegrwbHkbBwcChcDxoChcBxcpbBccbblfBghCxbGfbicccwbhbbdec",
     "jccceibecbfczcdbgeccwbhbcbcbccbbfeccddbhebbhrkdbjbdbwbhbcbfckbdbdcbpecmhhbdbicccwbhbcbfcjc",
     "ccdhdecbfcskcbgddbedcbbbcdcdddmefddbecbgbovfnbdbxbqcjbdbehcbdbcceckhwbdbxbkbfcjbdbehcfdbec",
     "kbdmnbdbBzbdbgeqcBabdbsdybjbbchdbegbbbigkcdmCgeBdBlcbbbfbybbbxcfbbbhbkceBgCubBkeBnbBkbpbnB",
     "lHqbbfbcOnbechbbbecBpbecBhbechbbbecpbCfbecCpcBgdBagDicgcYqbBcdDlhwjyjumnbdbcmDqckgkgoblgDl",
     "hBrfCskBfbmemebdBqcflBseBagldCkcCnbBdclgkgocBucmuCzbGkiCidpdCkfBrcliBrfUocgcBmcgcibbbbbbbB",
     "fcCbbpbocgbtcdbjryiBvrccBbbndBioBhpFkeZqwlvCRscOsfBtbbfbcCehcoyjhbhbhbhbhbhbhbhbEwBiBabDlm",
     "IgBaqbClbDicDzfBrbDqbDijBwbBRIrdCdjNkuHciInuCidkgCeiCsimgEmlBedDableBhbCdjockcDzyBckgcgcgj",
     "hbhbCieEwckgQNsmxeBxMNcOccEcBmhmffBabfbbbcbcbZaBgBqgBzbtbeefbFfeHidgcgcgcddhbhnccmbBabtbcb",
     "pcoBiEtfdeBtdDkbndbBvBuFaBddBxpBceBkjBefBrfBebBleoBqGcckgBkeBkeBoiCalmbpbhbcblbpbhbcdCamLz",
     "jwkiygbBqbjCrgcbbBsbcdbcxbCuijBwtbcfBhdBbfBbBmCeeucBybcfibdbBdcdekhjhCmBgBnemjCcdBdcBbfBah",
     "emhDcCvCdBznBzhBuikgBmdBdicIaBfbBqbdccqgijBhBuiBqwBaBmBcuxjDaeBkjCkbfnzhkgCbbsiBnjDsbulsbB",
     "vCkhbbbebpblgChfkgebicccwbhbcbfbkcccdcbgbfhchdflkbbcbbBmbkbbcbbebkbcicBdDobfBeCuikGkCccBmB",
     "iCrlkgntCggkguBcBbcpexHdCiDwDfmicbcibcbBebccmjkCsicBuclBbCuiDfnCvhkDiiDkBiokgjbBtbokBddBgc",
     "wboCvhbcbBsdbbcbjikggbcbBlbcbghkgBsekJmzhrbBpdBdDhbpBynBJnDyEhbflHoDXkDvnBPgqwkFXrfWlKDdCg",
     "COsVxhBfbkeDdbkgBecgkCskkbhbvftQqCgHqDnfzczBsCxeCfhrCmflhjKXyBpBgDtElMWrebhbcbLfpbBddcboei",
     "PgDKuEdfndjhkceFVkJtdQugxprpBucxjEmCiJmkBncCwiEivCsEsumumDjjzFfDhbCtbccbcccebmbbbhbCnbecib",
     "hbBcbebfbbdhbNccLgcBBapfbpBQmBfggIfhbrchbcbffCkBhbEiBtdockecMiBfrCgfbRwBqIgBrebHkBfbwicIqh",
     "bebcbpbHpcqBpCyekecBEfCqCyCjHmebBbbcbbcbbkbebbbbgbebbbbbbdbcbbcbbbbbbbbbbcbbcebhbebebbbkbr",
     "fdbfbrCacKkBseDwmpcpbpbBlkGsCeBdnBsejhcogFyBLxdrdndIkgmebpmeCeikgBoiBecmecojBnNgiocndldCfb",
     "beqcmekhFrbDzBNpCLFcBgGMocIOccLBlpXyDQwUwCFyHHzfMOoBOGXyJgLECu"])]

end QueryFunctions.Unicode
