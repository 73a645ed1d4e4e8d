/-! The grapheme cluster, word and sentence break classes of the character database.
Each row holds the name of a class, in lower case without separators, and the packed
set of its code points. Code points of no class are in no row. -/

namespace QueryFunctions.Unicode

def graphemeBreakTable : List (String × List String) := [
  ("cr",
    ["nb"]),
  ("control",
    ["akbcbsDrBhnbCBmbGUrbDAqbccyhBxqDGHjbJgmTUaqBZQueHWxiBTKZlBgDsEyJgFIm"]),
  ("extend",
    ["BDoEiKphKdBtbbbcbcbbCulBwvqbDxhcgccbeBjbBeBbDnlCgjjbyebjbdbfBrdChjBqybBgCdbbbeiebdhkcBdbCg",
     "bbbceibjbkcBabccCfbececcddbBecdblcCfbefbcebucwgbbCgbbcbeibhdkcBebChbbbmbjbBobdbCdbbdfdbehc",
     "lcBdbCgbccbbddbehclcBccCfcbbceibjbkcBdbCubebcdbbibDdbchmiDubcjlhCvcBbbbbbbCdobfbcflbBkjbDy",
     "ebgbccczcedqenbccgbpbBBbdBKkeBcdBdcBecCmcbhibcljbBtdbbEncBibEodecjbgdIlccbCgbbhbbbbcigkcbB",
     "wBfBxeBwkedBmjmcBgecgCebbcdbbfCeiccFwdbnbhebgbdcHqCmUebHnBhEOcdFlbDsBgVigEbcBSQeebkBgcDccK",
     "mbdbebzcfbFvcBasnbBmizlbbBsdBwbcecccbBkbCpgccccmbibBvbBzbbdccfcbbBqcibJebcbebBDZsbBCjqqqOc",
     "cXhbIsbFtfCMgdbcfeBodebGjcWbeCnfMfcDbeCslBxeEtbCcpBpbcckdBxecchbCjdBkfbiCkbmcCajbbiecbDrdc",
     "egbcbGbbdivcCfcbbbbmbjbohdfCpbcgbbcbbdedbbocDhicdbbxbDdbcgbbcbbcbcJbbcegcbcBbcDhicbbcEcbbb",
     "ciDxbbbcebfJzjbcJlbkeebFoeccebBgkBogceibjgcdBunbcPqhbgbbDewchbcbcEsgdbbcbhbbCucdbbbNjclcCa",
     "ffdxbHXtbgpQYymddDSafChhBOibCleDdblcBDAxcGYzBucxUwfdgiichBeeFsdCYdCdeByibobwfbpCAihbrchbcb",
     "fDwbGehOlbCjeToeJucBCihEfhEBgfBSXYuDsEyJg"]),
  ("l",
    ["GLkDsCFOqBd"]),
  ("lf",
    ["kb"]),
  ("lv",
    ["CNDobBbbBbbBbbBbbBbbBbbBbbBbbBbbBbbBbbBbbBbbBbbBbbBbbBbbBbbBbbBbbBbbBbbBbbBbbBbbBbbBbbBbbB",
     "bbBbbBbbBbbBbbBbbBbbBbbBbbBbbBbbBbbBbbBbbBbbBbbBbbBbbBbbBbbBbbBbbBbbBbbBbbBbbBbbBbbBbbBbbB",
     "bbBbbBbbBbbBbbBbbBbbBbbBbbBbbBbbBbbBbbBbbBbbBbbBbbBbbBbbBbbBbbBbbBbbBbbBbbBbbBbbBbbBbbBbbB",
     "bbBbbBbbBbbBbbBbbBbbBbbBbbBbbBbbBbbBbbBbbBbbBbbBbbBbbBbbBbbBbbBbbBbbBbbBbbBbbBbbBbbBbbBbbB",
     "bbBbbBbbBbbBbbBbbBbbBbbBbbBbbBbbBbbBbbBbbBbbBbbBbbBbbBbbBbbBbbBbbBbbBbbBbbBbbBbbBbbBbbBbbB",
     "bbBbbBbbBbbBbbBbbBbbBbbBbbBbbBbbBbbBbbBbbBbbBbbBbbBbbBbbBbbBbbBbbBbbBbbBbbBbbBbbBbbBbbBbbB",
     "bbBbbBbbBbbBbbBbbBbbBbbBbbBbbBbbBbbBbbBbbBbbBbbBbbBbbBbbBbbBbbBbbBbbBbbBbbBbbBbbBbbBbbBbbB",
     "bbBbbBbbBbbBbbBbbBbbBbbBbbBbbBbbBbbBbbBbbBbbBbbBbbBbbBbbBbbBbbBbbBbbBbbBbbBbbBbbBbbBbbBbbB",
     "bbBbbBbbBbbBbbBbbBbbBbbBbbBbbBbbBbbBbbBbbBbbBbbBbbBbbBbbBbbBbbBbbBbbBbbBbbBbbBbbBbbBbbBbbB",
     "bbBbbBbbBbbBbbBbbBbbBbbBbbBbbBbbBbbBbbBbbBbbBbbBbbBbbBbbBbbBbbBbbBbbBbbBbbBbbBbbBbbBbbBbbB",
     "bbBbbBbbBbbBbbBbbBbbBbbBbbBbbBbbBbbBbbBbbBbbBbbBbbBbbBbbBbbBbbBbbBbbBbbBbbBbbBbbBbbBbbBbbB",
     "bbBbbBbbBbbBbbBbbBbbBbbBbbBbbBbbBbbBbbBbbBbbBbbBbbBbbBbbBbbBbbBbbBbbBbbBbbBbbBbbBbbBbbBbbB",
     "bbBbbBbbBbbBbbBbbBbbBbbBbbBbbBbbBbbBbbBbbBbbBbbBbbBbbBbbBbbBbbBbbBbbBbbBbbBbbBbbBbbBbbBbbB",
     "bbBbbBbbBbbBbbBbbBbbBbbBbbBbb"]),
  ("lvt",
    ["CNDpBbbBbbBbbBbbBbbBbbBbbBbbBbbBbbBbbBbbBbbBbbBbbBbbBbbBbbBbbBbbBbbBbbBbbBbbBbbBbbBbbBbbBb",
     "bBbbBbbBbbBbbBbbBbbBbbBbbBbbBbbBbbBbbBbbBbbBbbBbbBbbBbbBbbBbbBbbBbbBbbBbbBbbBbbBbbBbbBbbBb",
     "bBbbBbbBbbBbbBbbBbbBbbBbbBbbBbbBbbBbbBbbBbbBbbBbbBbbBbbBbbBbbBbbBbbBbbBbbBbbBbbBbbBbbBbbBb",
     "bBbbBbbBbbBbbBbbBbbBbbBbbBbbBbbBbbBbbBbbBbbBbbBbbBbbBbbBbbBbbBbbBbbBbbBbbBbbBbbBbbBbbBbbBb",
     "bBbbBbbBbbBbbBbbBbbBbbBbbBbbBbbBbbBbbBbbBbbBbbBbbBbbBbbBbbBbbBbbBbbBbbBbbBbbBbbBbbBbbBbbBb",
     "bBbbBbbBbbBbbBbbBbbBbbBbbBbbBbbBbbBbbBbbBbbBbbBbbBbbBbbBbbBbbBbbBbbBbbBbbBbbBbbBbbBbbBbbBb",
     "bBbbBbbBbbBbbBbbBbbBbbBbbBbbBbbBbbBbbBbbBbbBbbBbbBbbBbbBbbBbbBbbBbbBbbBbbBbbBbbBbbBbbBbbBb",
     "bBbbBbbBbbBbbBbbBbbBbbBbbBbbBbbBbbBbbBbbBbbBbbBbbBbbBbbBbbBbbBbbBbbBbbBbbBbbBbbBbbBbbBbbBb",
     "bBbbBbbBbbBbbBbbBbbBbbBbbBbbBbbBbbBbbBbbBbbBbbBbbBbbBbbBbbBbbBbbBbbBbbBbbBbbBbbBbbBbbBbbBb",
     "bBbbBbbBbbBbbBbbBbbBbbBbbBbbBbbBbbBbbBbbBbbBbbBbbBbbBbbBbbBbbBbbBbbBbbBbbBbbBbbBbbBbbBbbBb",
     "bBbbBbbBbbBbbBbbBbbBbbBbbBbbBbbBbbBbbBbbBbbBbbBbbBbbBbbBbbBbbBbbBbbBbbBbbBbbBbbBbbBbbBbbBb",
     "bBbbBbbBbbBbbBbbBbbBbbBbbBbbBbbBbbBbbBbbBbbBbbBbbBbbBbbBbbBbbBbbBbbBbbBbbBbbBbbBbbBbbBbbBb",
     "bBbbBbbBbbBbbBbbBbbBbbBbbBbbBbbBbbBbbBbbBbbBbbBbbBbbBbbBbbBbbBbbBbbBbbBbbBbbBbbBbbBbbBbbBb",
     "bBbbBbbBbbBbbBbbBbbBbbBbbBbbBb"]),
  ("prepend",
    ["CHcgIhbBxbOucDcbBRnbDUGkbpbJkcUfbCBlbbbJobCvgBAybRbb"]),
  ("regionalindicator",
    ["HGOkBa"]),
  ("spacingmark",
    ["DKtbCdbcdiebcBycChcgcccCcbCgdCobCgdibbcCbcCibgcccEkbbcddbdCadCjeCjcCgbcbbcBubocChcfdbdCbcC",
     "ycghtcClbExbFicClbGvbjczcBsbCSvbhibcNiecdecbgIqcCgbbbvgFpbCfeCmbBebecClbcdbbCbiicGpbvbCASh",
     "ccbDkcByqFmbBwbBwcecccEhcccybGbbccfbJdcbcbcbbBLXjbbbExbBtdecElbycChbBwdjbobDpddcGqdBfcChbb",
     "eccccvcDhcpbbcDzdicdbEdcgbbcbbcbJecgecbEjdicbbEfbbcEgbhbKbdjbJofbchbbbFmdieebDgbBdcCkbPrbo",
     "bEcbhbcbIffecbbNmcmbBwcicYZadFJgCd"]),
  ("t",
    ["GRwDkCWXnBx"]),
  ("v",
    ["GPcCuCWZwxCERcbde"]),
  ("zwj",
    ["MDpb"])]

def wordBreakTable : List (String × List String) := [
  ("aletter",
    ["CnBagBaBvbkbebfxbBfbSmgBiEifbccebbgbbdbbbubDfbFjiGkbBmcebbbBpbbEabBsBrBjcbDvbbpchckdcbpcbB",
     "eBdDllbyBhjcebfwebjbdbxzhlfybgrBqCgCcdbsbhkpqeicccwbhbbdedbqbncbdockbigeccwbhbcbcbcBfebbtd",
     "qjbdbwbhbcbfdbsbpcxblicccwbhbcbfdbBecbdpbrbbgddbedcbbbcdcdddmwbCaibdbxbqdbBadcbccBebeibdbx",
     "bkbfdbBfcbcpcrjbdbBpcbqbfdidygfsdybjbbchMbbClibBkBbfKpBmbbfbcBrbMvbechbbbecBpbecBhbechbbbe",
     "cpbCfbecCpBlqqDicgdXwcrbBafCxdlhsntosonbdGtDlhfcBibbfCskBfIrxJeBvriCcBenckBsBaBkBpdkBkclfB",
     "rcdBpebgbcdbfHkCmKscgcBmcgcibbbbbbbBfcCbbhbbddbhdecgenfdbhEmbnbqnDxbebckbbdfgbbbbbbeblceff",
     "ebrBpBFhCaCRuIvgedcmBmbbfbcCehbqxjhbhbhbhbhbhbhbhDcbSbbCbcHsBrbDqrBgBPToBSvCpBucKjdqkcuBvq",
     "BfcDcyHqccbbbivqbdbebxBdCaoByCkgdbbclBckxzBdhBvBcbBwBpxdbiFslhdmgcgcgjhbhbCggElBdQNsmxeBxN",
     "GuhmfCeDuBhNzsCmcCcBomEmfbFfBkBagBaCrBfdgcgcgcdBjmbBabtbcbpcoBiEtCrCbKhBddBxBvBgnBefBmkBec",
     "BkeibfBqGcsBkeBkeBoiCamlbpbhbcblbpbhbcdCamLzjwkiygbBqbjCrgcbbBsbcdbcxkxjBfCntbckwkBaCsCegc",
     "CmbpebdbBdBqBddBdBjibBcBbCckwktnsEgCvCdBznBznBkBmBcjxJqBqgcqdChBdkbiwBqsBuvBbxmCbCfccbnBtB",
     "gzBaBkBdbcbiBjdbmBwoevbbbBjsbztcClhbbbebpbkhBvBmicccwbhbcbfdbsbmfBekbbcbbBmbbzbbbBsCbseudB",
     "eBwucbbHcBvBpeBkBwubChBrnbMpBsEmCmBficbcibcbypbbbDqicBnqbbbBcbkBohbvblButbsCvHrBhBfjbBlrbB",
     "xBeEihbcbBmvbzgbcbBgobMptpbbnbBiEubDbBJmDyEhrHoDXkDtpBPgrgzFXrfWlKDdBeCPuVxhBfrDbrBesBwqeB",
     "fvftQqBtIdCmEyCxfbConCmcbbBCVkEdfndjhkIWkDhbCtbccbcccebmbbbhbCnbecibhbBcbebfbbdhbNcczbzbBf",
     "bzbBfbzbBfbzbBfbzbiCSyBfggKbCkFqBtkhqbMjBesBsSqBcIuBecbTbhbebcbpbHpChCqhbBUiebBbbcbbcbbkbe",
     "bbbbgbebbbbbbdbcbbcbbbbbbbbbbcbbcebhbebebbbkbrfdbfbrYeBagBagBa"]),
  ("cr",
    ["nb"]),
  ("doublequote",
    ["Bib"]),
  ("extend",
    ["BDoEiKphKdBtbbbcbcbbCulBwvqbDxhcgccbeBjbBeBbDnlCgjjbyebjbdbfBrdChjBqybBhCcdbsbhkcBddCebbhc",
     "ccdjbkcBabcdCebbfeccddbBecdbldCebbibdbducwgbdCebbhcccdhdkcBebChfddbejbBofCdbbhbdbehclcBddC",
     "ebbhbdbehclcpbmeCdcbhbdbejbkcBddCsbegbbbiscCjbchmiDubcjlhCvcBbbbbbbecBxubcflbBkjbDwuxeedbd",
     "chdenmbbkeBBbdBKkeBcdBdcBecCmBgjbBtdbbEncBibEomemIlfCfkbBdcbBwBfBxfBvrBmjmdBenCeoBwuFwdbve",
     "bgbcdHqCmUebHnBhEOcdFlbDsBgVigEbcBSQeebkBgcDccKmbdbebxfebDfcBysBasnbBmiznBseBvoBkbCpombicB",
     "tdBybbdccfcbbBpffcJcibcBDZsbBCjqqqOccXhbIsbFtfCMgdbcfeBodebGjcWbeCnfMfcDbeCslBxeEsdCbpBpbc",
     "ckeBtlhbCjdBkoqcBsbmdBwoiebcDomgbcbGbmveCdcbhcccdjbkcchdfCpjbbcbbebfbbocDesxbDduJbhcjBbcDe",
     "rEcnDxpJwpJlgbccebbbcFlhchdbBckBohbeibjlBuqPpibiDewboEsgdbbcbhbbCofbcbfNjejcbbBwhdfxbHXtbg",
     "pQYysDSafChhBOibbCdheDdblcBDAxcGYzBucxUwfdgiichBeeFsdCYdCdeByibobwfbpCAihbrchbcbfDwbGehOlb",
     "CjeToeJucBCihEfhEBgfBSXYuDsEyJg"]),
  ("extendnumlet",
    ["DrbMBfbpctbDGAocydJfb"]),
  ("format",
    ["GrbCBmbGUrbDAtcBafBxfbkDGHjbJpdTUaqBZQueHWxiBTKZmb"]),
  ("hebrewletter",
    ["CFgBbeeDOVybbkbnbfbbbcbcbk"]),
  ("katakana",
    ["SGnfDxcdDnbeJgqIaBvbDkCZHeCeCOUcebhbcbbLbdByboe"]),
  ("lf",
    ["kb"]),
  ("midletter",
    ["CgbEubBBrbSdbFsbJXybDGBbbCnbHob"]),
  ("midnum",
    ["BsbobBGcbUcbFacDqbPfbJFfbDGChbdbHbbob"]),
  ("midnumlet",
    ["BubMCfckbDGDpbGybgb"]),
  ("newline",
    ["lcEqbLZmc"]),
  ("numeric",
    ["BwkCEwgDmkbbEjbskHqkHqcDcbFbkEokEokEokEokEokEokEokEokEokDskEokCskKskCskCTqkBmkLokEylGjkgkH",
     "akDikFekgkCAEokBAckBmkHqkwkDikPqkBFMckCCkkDFykgkBEqkCzbpbBikCikFokKskNekEokOkkDykguCykQgkD",
     "ykZmkDikJmkCskQgkYYgkDMckDikFekUokBKDykECqByDNckQgkTikJnkBGvkHBak"]),
  ("regionalindicator",
    ["HGOkBa"]),
  ("singlequote",
    ["Bnb"]),
  ("wsegspace",
    ["BgbIMhbDPnhbdDgbFXwb"]),
  ("zwj",
    ["MDpb"])]

def sentenceBreakTable : List (String × List String) := [
  ("aterm",
    ["BubMCrbDGDpbHfb"]),
  ("cr",
    ["nb"]),
  ("close",
    ["BibedBxbbbBdbbbBtbpbFMseCUncDPjizckcCccocYjeBdcBPgghoDbcBfkPnwCleBgcBNmoocckybsiQlkcibdCZR",
     "qcIhcBcqccqgGncBxbbbBdbbbbcbcDPOsd"]),
  ("extend",
    ["BDoEiKphKdBtbbbcbcbbCulBwvqbDxhcgccbeBjbBeBbDnlCgjjbyebjbdbfBrdChjBqybBhCcdbsbhkcBddCebbhc",
     "ccdjbkcBabcdCebbfeccddbBecdbldCebbibdbducwgbdCebbhcccdhdkcBebChfddbejbBofCdbbhbdbehclcBddC",
     "ebbhbdbehclcpbmeCdcbhbdbejbkcBddCsbegbbbiscCjbchmiDubcjlhCvcBbbbbbbecBxubcflbBkjbDwuxeedbd",
     "chdenmbbkeBBbdBKkeBcdBdcBecCmBgjbBtdbbEncBibEomemIlfCfkbBdcbBwBfBxfBvrBmjmdBenCeoBwuFwdbve",
     "bgbcdHqCmUecHmBhEOcdFlbDsBgVigEbcBSQeebkBgcDccKmbdbebxfebDfcBysBasnbBmiznBseBvoBkbCpombicB",
     "tdBybbdccfcbbBpffcJcibcBDZsbBCjqqqOccXhbIsbFtfCMgdbcfeBodebGjcWbeCnfMfcDbeCslBxeEsdCbpBpbc",
     "ckeBtlhbCjdBkoqcBsbmdBwoiebcDomgbcbGbmveCdcbhcccdjbkcchdfCpjbbcbbebfbbocDesxbDduJbhcjBbcDe",
     "rEcnDxpJwpJlgbccebbbcFlhchdbBckBohbeibjlBuqPpibiDewboEsgdbbcbhbbCofbcbfNjejcbbBwhdfxbHXtbg",
     "pQYysDSafChhBOibbCdheDdblcBDAxcGYzBucxUwfdgiichBeeFsdCYdCdeByibobwfbpCAihbrchbcbfDwbGehOlb",
     "CjeToeJucBCihEfhBTCAfDsEyJg"]),
  ("format",
    ["GrbCBmbJibGLibDAqbccBafBxfbkDGHjbJpdTUaqBZQueHWxiBTKZmb"]),
  ("lf",
    ["kb"]),
  ("lower",
    ["DtBaBvbkbebBkybibbbbbbbbbbbbbbbbbbbbbbbbbbbbbbbbbbbbbbbbbbbbbbbbbbbbbbbcbbbbbbbbbbbbbbbcbb",
     "bbbbbbbbbbbbbbbbbbbbbbbbbbbbbbbbbbbbbbbbbbbbcbbbbdcbbbcbdcebcbddcbcbbbbbcbbcbbcbdbbbcccdgb",
     "cbcbbbbbbbbbbbbbbbbcbbbbbbbbbbbbbbbbbccbbbdbbbbbbbbbbbbbbbbbbbbbbbbbbbbbbbbbbbbbbbbbbbbbbb",
     "bbbbbbbbbbbhcbccbbebbbbbbbbCrbBkhcBefFkbbbdbcesbBbBjbcddbbbbbbbbbbbbbbbbbbbbbbbfbbcbccBzBw",
     "bbbbbbbbbbbbbbbbbbbbbbbbbbbbbbbbbbjbbbbbbbbbbbbbbbbbbbbbbbbbbbbbbbbbbbbbbbbbbbbbbbbbbbbbcb",
     "bbbbbbbbbbbcbbbbbbbbbbbbbbbbbbbbbbbbbbbbbbbbbbbbbbbbbbbbbbbbbbbbbbbbbbbbbbbbbbbbbbbbbbbbbb",
     "bbbbbbbbbbbbbbbbbbBwBpEItbBDjgDFujbbEnHkCnbbbbbbbbbbbbbbbbbbbbbbbbbbbbbbbbbbbbbbbbbbbbbbbb",
     "bbbbbbbbbbbbbbbbbbbbbbbbbbbbbbbbbbbbbbbbbbbbbbbbbbbbbbbbbbbbbbbbbbbbbbbbbbbbbbbbbbbbbbbbbb",
     "bbbbbbbbbbjbbbbbbbbbbbbbbbbbbbbbbbbbbbbbbbbbbbbbbbbbbbbbbbbbbbbbbbbbbbbbbbbbbbbbbbbbbbbbbb",
     "bbbbbbbbbbbbbbbbbbjigkiiiigkiiiiociiiiiifbcgbddbciecciikdbcErbnbqnEfbdcdbBbbebebccieebBhqe",
     "bBGlBaCTqBwbbdcbbbbbbebbcbidbbbbbbbbbbbbbbbbbbbbbbbbbbbbbbbbbbbbbbbbbbbbbbbbbbbbbbbbbbbbbb",
     "bbbbbbbbbbbbbbbbbbbbbbbbbbbbbbbbbbbbchbbbebmBmbbfbBTWdbbbbbbbbbbbbbbbbbbbbbbbbbbbbbbbbbbbb",
     "bbbbbbbbbtbbbbbbbbbbbbbbbbbbbbbbbbbbdFdbbbbbbbbbbbbdbbbbbbbbbbbbbbbbbbbbbbbbbbbbbbbbbbbbbb",
     "bbbbbbbbbbbbbbbbbbbbbbbkbbbbcbbbbbbbbbebbbcbbdbbbbbbbbbbbbbbbbbbbbfbfbbbbbbbbbbbbbbbebbbcb",
     "dbbbbbbbbbbbwdbbbdBFpBrbogDcBEAihmfBOzBaBVhBoFgBkFzlbpbhbcRjbcdbBqbjBXlBzEvwEGoBgBGJwBgBMM",
     "kBaBahbsBaBaBaebbbhblBaBaBaBaBaBaBaBaBaBaBaBaBaBaBaBaBaBcBczbgBazbgBazbgBazbgBazbgbbCSykbu",
     "ggKbCkDHsBi"]),
  ("numeric",
    ["BwkCEwgDmkbcEibskHqkHqcDcbFbkEokEokEokEokEokEokEokEokEokDskEokCskKskCskCTqkBmkLokEylGjkgkH",
     "akDikFekgkCAEokBAckBmkHqkwkDikPqkBFMckCCkkDFykgkBEqkCzbpbBikCikFokKskNekEokOkkDykguCykQgkD",
     "ykZmkDikJmkCskQgkYYgkDMckDikFekUokBKDykECqByDNckQgkTikJnkBGvkHBak"]),
  ("oletter",
    ["RbbeeIabBkhgmBabbbFdbSqbEoBbefBsBrBjcbDvbbpchckdcbqbbBeBdDllbyBhjcebfwebjbdbxzhlfybgrBqCgC",
     "cdbsbhkpqeicccwbhbbdedbqbncbdockbigeccwbhbcbcbcBfebbtdqjbdbwbhbcbfdbsbpcxblicccwbhbcbfdbBe",
     "cbdpbrbbgddbedcbbbcdcdddmwbCaibdbxbqdbBadcbccBebeibdbxbkbfdbBfcbcpcrjbdbBpcbqbfdidygfsdybj",
     "bbchCgBwbcmhCgcbbbfbybbbkbcjbcfbbveBgbClibBkBbfElBrubqgeedbdchdenmbCnBrcMubechbbbecBpbecBh",
     "bechbbbecpbCfbecCpBlqEjXwcrbBafCxdlhsntosonbdpCaBjbebCpDlhfcBibbfCskBfBxBecflBseBaCcxjCbDe",
     "bDpBvriCcBenckBsBaBkBpdkBksBrcdBpebgbcdbBPqeCtdceEKtCehbqxjhbhbhbhbhbhbhbhDcbSbdzjhfcfeDig",
     "dbDmbefBrbDqrBgBwqTsJToCmBGUfCpBucKjdqkcCobqbBgDcBnjEabgbDzbdhbdbebxBdCaoByCkgdbbclBckxzBd",
     "hBvBcbqfbkkfbBpxdbiuxdbdBybbdccfcbbbydclhdmgcgcgjhbhFpBjBdQNsmxeBxMNcOccEcCpbbkbnbfbbbcbcb",
     "EeBhNzsCmcCcBomEmfbFfEbCecBfdgcgcgcdBjmbBabtbcbpcoBiEtCrCbKhBddBxBvBgnBefBmkBecBkeibfEsDaD",
     "uBoiCaDoCamLzjwkizcEvgcbbBsbcdbcxkxjBfCntbckwkBaCsCegcCmbpebdbBdBqBddBdBjibBcBbCckwktnsEgC",
     "vHbBkBmgBfbKmBqgcqdChBdkbiwBqsBuvBbxmCbCfccbnBtBgzBaBkBdbcbiBjdbmBwoevbbbBjsbztcClhbbbebpb",
     "khBvBmicccwbhbcbfdbsbmfBekbbcbbBmbbzbbbBsCbseudBeBwucbbHcBvBpeBkBwubChBrnbCtBbBlhHdBsIdicb",
     "cibcbypbbbDqicBnqbbbBcbkBohbvblButbsCvHrBhBfjbBlrbBxBeEihbcbBmvbzgbcbBgobMptpbbnbBiEubDbBJ",
     "mDyEhrHoDXkDtpBPgrgzFXrfWlKDdBeCPuVxhBfrDbrBesBwqeBfvftQqBtPnCxfbConCmcbbBcJCaiBVqBpkNFreb",
     "hbcbLfpbBddcboeiPgDKuEdfndjhkNBcbThBtkhqbMjBesBsSqBcIuBecbTbhbebcbpbHpFebBUiebBbbcbbcbbkbe",
     "bbbbgbebbbbbbdbcbbcbbbbbbbbbbcbbcebhbebebbbkbrfdbfbrGOaCLFcBgGDugIocINqoLBlpXyDQwUwCFyHHzf",
     "GFg"]),
  ("scontinue",
    ["BscmcBGcbSkbGscSwbGBxbfbDBecGAubDAAwcbcBccBdccccbkbGmcmcCub"]),
  ("sterm",
    ["BhbBdbCAbbFrdGybBrdJmbCjbbbdcLhcCPwcBEkbecBDtbHqcGbcBtbfbMccNqeGgckcccBddHfcCncBKucjdEUxdL",
     "ubnbwcQnbBSHwbKkcItbdbOscDicDrbFwcFrdFocJpbBFCwbccClcGnbBdbCnbEDwcBXdfBseHhcEneExdEzcgbqcD",
     "kcbcEebLmcEncOjcfpEbcJpdTxbbbJrcDjcQecBAqcCwcBCMbcFdbCnclbVhcLkbBDOgbLImb"]),
  ("sep",
    ["FdbLZmc"]),
  ("sp",
    ["jbbctbExbIHjbDPnlBkbBvbFXwb"]),
  ("upper",
    ["CnBaDxxbhBhbbbbbbbbbbbbbbbbbbbbbbbbbbbbbbbbbbbbbbbbbbbbbbbbbbbbbbbcbbbbbbbbbbbbbbbcbbbbbbb",
     "bbbbbbbbbbbbbbbbbbbbbbbbbbbbbbbbbbbbbbbcbbbbdcbbbcbdcebcbddcbcbbbbbcbbcbbcbdbbbcdbhcbcbcbb",
     "bbbbbbbbbbbbbbcbbbbbbbbbbbbbbbbbccbbbdbbbbbbbbbbbbbbbbbbbbbbbbbbbbbbbbbbbbbbbbbbbbbbbbbbbb",
     "bbbbbbhcbccbbebbbbbbbbLdbbbdbibgbbdbbbcbrbjBjbcddbbbbbbbbbbbbbbbbbbbbbbbfbcbbccBzBwbbbbbbb",
     "bbbbbbbbbbbbbbbbbbbbbbbbbbjbbbbbbbbbbbbbbbbbbbbbbbbbbbbbbbbbbbbbbbbbbbbbbbbbbbbbbcbbbbbbbb",
     "bbbbcbbbbbbbbbbbbbbbbbbbbbbbbbbbbbbbbbbbbbbbbbbbbbbbbbbbbbbbbbbbbbbbbbbbbbbbbbbbbbbbbbbbbb",
     "bbbbbbbbbbcBmEHdBmbbfbBBuDiDGlbOkbbbbbbbbbbbbbbbbbbbbbbbbbbbbbbbbbbbbbbbbbbbbbbbbbbbbbbbbb",
     "bbbbbbbbbbbbbbbbbbbbbbbbbbbbbbbbbbbbbbbbbbbbbbbbbbbbbbbbbbbbbbbbbbbbbbbbbbbbbbbbbbbbbbbbbb",
     "bbjbbbbbbbbbbbbbbbbbbbbbbbbbbbbbbbbbbbbbbbbbbbbbbbbbbbbbbbbbbbbbbbbbbbbbbbbbbbbbbbbbbbbbbb",
     "bbbbbbbbbbjiigkiiiiglbbbbbbbiiyiiiiiiflflemflfKbbebddcdcbdfgbbbbbbecekcfbBaqtbBFmBaCSuBwBw",
     "bbdcbbbbbbebbcbidbbbbbbbbbbbbbbbbbbbbbbbbbbbbbbbbbbbbbbbbbbbbbbbbbbbbbbbbbbbbbbbbbbbbbbbbb",
     "bbbbbbbbbbbbbbbbbbbbbbbbbibbbebBTYjbbbbbbbbbbbbbbbbbbbbbbbbbbbbbbbbbbbbbbbbbbbbbtbbbbbbbbb",
     "bbbbbbbbbbbbbbbbbbFfbbbbbbbbbbbbbdbbbbbbbbbbbbbbbbbbbbbbbbbbbbbbbbbbbbbbbbbbbbbbbbbbbbbbbb",
     "bbbbbkbbbbcbbbbbbbbebbbcbbbdbbbbbbbbbbbbbbbbbbbbfbfbbbbbbbbbbbbbbbebbbcdbfbbbbbbbybBHAhBaB",
     "UzBoFgBkGalbpbhbcCQcBzGbwEGoBgBGJwBgBMMqBaBaBaBaBaBabbccbcccebiBaBaBacbecibhBbcbebfbbdhBbB",
     "aBaBaBaBaBaBaBaBaBaBaBezBhzBhzBhzBhzBhbGNlBiDBiBagBagBa"])]

end QueryFunctions.Unicode
