/-! The scripts of the character database. Each row holds the name of a script, in
lower case without separators, and the packed set of its code points. -/

namespace QueryFunctions.Unicode

def scriptTable : List (String × List String) := [
  ("adlam",
    ["HDEuCyekec"]),
  ("caucasianalbanian",
    ["DUXsCalb"]),
  ("ahom",
    ["EBRcBbcpex"]),
  ("arabic",
    ["CHcfbgbobdbBgbklBabEebBiDcBwJgBfbcfCxbBdDNTwElqNzcDccCchbBgqEifbFfFVnBfCpdCdeDGLsebBbbcbbc",
     "bbkbebbbbgbebbbbbbdbcbbcbbbbbbbbbbcbbcebhbebebbbkbrfdbfbrCac"]),
  ("imperialaramaic",
    ["DWBwwbj"]),
  ("armenian",
    ["BZdBmcBycdDOZjf"]),
  ("avestan",
    ["DXCyCcdh"]),
  ("balinese",
    ["KFwCzbBy"]),
  ("bamum",
    ["CLCqDkCVCqVx"]),
  ("bassavah",
    ["FHKiBecg"]),
  ("batak",
    ["KNgCaie"]),
  ("bengali",
    ["DPoebicccwbhbbdecjccceibecbfcz"]),
  ("bhaiksuki",
    ["EDOijbBtbokBd"]),
  ("bopomofo",
    ["BCscRLxBrEiBg"]),
  ("brahmi",
    ["DZAeDaeBkjb"]),
  ("braille",
    ["PDwJw"]),
  ("buginese",
    ["JWaBccc"]),
  ("buhid",
    ["IUyu"]),
  ("chakma",
    ["DZKaCbbs"]),
  ("canadianaboriginal",
    ["HOyYqVoCsDTPqq"]),
  ("carian",
    ["DTYmBx"]),
  ("cham",
    ["CMJwCdjockce"]),
  ("cherokee",
    ["HLgDicgCFJeDc"]),
  ("chorasmian",
    ["DYXcBc"]),
  ("coptic",
    ["BMgoPJkEmfh"]),
  ("cyprominoan",
    ["EKYyDv"]),
  ("cypriot",
    ["DVZkgcbbBsbcdbcb"]),
  ("cyrillic",
    ["BNkFdcGnIVolGebCybGFnBgBTOaDsBHEccDHPgCkBhb"]),
  ("devanagari",
    ["DKqDdepcBaCIJgBgBREmk"]),
  ("divesakuru",
    ["ECKuhcbcibcbBebccmjk"]),
  ("dogra",
    ["ECAyCi"]),
  ("deseret",
    ["DUMaDc"]),
  ("duployan",
    ["GMDsEdfndjhkce"]),
  ("egyptianhieroglyphs",
    ["ELDgBQskFXr"]),
  ("elbasan",
    ["DUVwBo"]),
  ("elymaic",
    ["DYYyx"]),
  ("ethiopic",
    ["GVgCvbechbbbecBpbecBhbechbbbecpbCfbecCpcBgdBaJVaxjhbhbhbhbhbhbhbhBVKcgcgcgjhbhEPYfhbebcbp"]),
  ("georgian",
    ["GHsBmbbfbcBrbeEJwBrcdGEaBmbbfb"]),
  ("glagolitic",
    ["QRgDsGIZghbrchbcbf"]),
  ("gunjalagondi",
    ["EEBwgbcbBlbcbghk"]),
  ("masaramgondi",
    ["EDYehbcbBsdbbcbjik"]),
  ("gothic",
    ["DUEaBb"]),
  ("grantha",
    ["EADsebicccwbhbcbfcjcccdcbgbfhchdf"]),
  ("greek",
    ["BHwebdcebbebbbbdbbbubCloqJNqfByfefDgbMiwcgcBmcgcibbbbbbbBfcCbbpbocgbtcdbjLjbCAJebBGNiDbrbD",
     "AXrCs"]),
  ("gujarati",
    ["DZldbjbdbwbhbcbfckbdbdcbpecmhh"]),
  ("gurmukhi",
    ["DUndbgeccwbhbcbcbccbbfeccddbhebbhr"]),
  ("hangul",
    ["GLkJwLLecJxDqEjBfCnBfBTAnBdYtQNsmxeBxPAiBfdgcgcgcd"]),
  ("han",
    ["RPwBabDlmIgBvbbbzjoeBLcJToCmBFBkBHSiOccEcBSIicmcCCOkCLFcBgGDugIocINqoLBlpXyDQwUwCFyHHzfGFg"]),
  ("hanunoo",
    ["ITsv"]),
  ("hatran",
    ["DWIatbcff"]),
  ("hebrew",
    ["CCvCdiBbegDOVwBabfbbbcbcbk"]),
  ("hiragana",
    ["SHdDigdFPEvLbsbBddYMvb"]),
  ("anatolianhieroglyphs",
    ["ESSeWl"]),
  ("pahawhhmong",
    ["FHMeCskkbhbvft"]),
  ("nyiakengpuachuehmong",
    ["HAEaBtdockec"]),
  ("oldhungarian",
    ["DXRsBznBzhg"]),
  ("olditalic",
    ["DUCeBkjd"]),
  ("javanese",
    ["CMEyDackec"]),
  ("kayahli",
    ["CMAaBubb"]),
  ("katakana",
    ["SKvDmcdJgqIaBvbDkCZHekbBtCOUcebhbcbbLbdByboe"]),
  ("kawi",
    ["EERwrbBpdBd"]),
  ("kharoshthi",
    ["DWTcebcfibdbBdcdekhj"]),
  ("khmer",
    ["IXkDqckgkSsBg"]),
  ("khojki",
    ["DZTwsbBv"]),
  ("khitansmallscript",
    ["FJIibKGxScBpb"]),
  ("kannada",
    ["ETcnbdbxbkbfcjbdbehcgcbeckbd"]),
  ("kaithi",
    ["DZFcCpkb"]),
  ("taitham",
    ["JXgClbBdclgkgo"]),
  ("lao",
    ["FMvcbbbfbybbbxcfbbbhbkce"]),
  ("latin",
    ["CnBagBaBvbpbfxbBfbRhBnfJXbBmgBxfefnbCsCnJwOfbnbqnFlcgbBbbrBpECtBgBULmDydCpccbbbivoBFkBrbjb",
     "eBEDqhBOkBagBaDCfgbBqbjDDNpBfgg"]),
  ("lepcha",
    ["KPsCedpdd"]),
  ("limbu",
    ["JMeBfbmemebdm"]),
  ("lineara",
    ["DVFsLzjwki"]),
  ("linearb",
    ["DSYqmbBabtbcbpcoBiEt"]),
  ("lisu",
    ["CKKuBwBUMab"]),
  ("lycian",
    ["DTXgBd"]),
  ("lydian",
    ["DWKmBafb"]),
  ("mahajani",
    ["DZNcBn"]),
  ("makasar",
    ["EEQqz"]),
  ("mandaic",
    ["DDgBccb"]),
  ("manichaean",
    ["DXAmBnem"]),
  ("marchen",
    ["EDSqBgcwbo"]),
  ("medefaidrin",
    ["FISeDn"]),
  ("mendekikakui",
    ["HCUyHpcq"]),
  ("meroiticcursive",
    ["DWPkyeucBu"]),
  ("meroitichieroglyphs",
    ["DWOeBg"]),
  ("malayalam",
    ["EYanbdbBzbdbgeqcBa"]),
  ("modi",
    ["EBHgCrlk"]),
  ("mongolian",
    ["JCiccbbugDlhBrDSCbn"]),
  ("mro",
    ["FHEuBfbkec"]),
  ("meeteimayek",
    ["CMSmxHtBuck"]),
  ("multani",
    ["DZYuhbbbebpbl"]),
  ("myanmar",
    ["GBoGeCGAyBfDtBgBPAmu"]),
  ("nagmundari",
    ["HBPoBq"]),
  ("nandinagari",
    ["ECQyicBucl"]),
  ("oldnortharabian",
    ["DWYaBg"]),
  ("nabataean",
    ["DWEiBfij"]),
  ("newa",
    ["EANoDobf"]),
  ("nko",
    ["CYiChcd"]),
  ("nushu",
    ["FJIfbYVmPg"]),
  ("ogham",
    ["INoBd"]),
  ("olchiki",
    ["KSuBw"]),
  ("oldturkic",
    ["DXMuCv"]),
  ("oriya",
    ["EEjdbicccwbhbcbfcjcccdhdecbfcs"]),
  ("osage",
    ["DUSuBkeBk"]),
  ("osmanya",
    ["DUQyBeck"]),
  ("olduyghur",
    ["DYUqBa"]),
  ("palmyrene",
    ["DWDcBg"]),
  ("paucinhau",
    ["EDCaCf"]),
  ("oldpermic",
    ["DUFgBr"]),
  ("phagspa",
    ["CLSqCe"]),
  ("inscriptionalpahlavi",
    ["DXGqtfi"]),
  ("psalterpahlavi",
    ["DXHwshemh"]),
  ("phoenician",
    ["DWJgBcdb"]),
  ("miao",
    ["FIZoCxeCfhr"]),
  ("inscriptionalparthian",
    ["DXFkwci"]),
  ("rejang",
    ["CMBwBklb"]),
  ("hanifirohingya",
    ["DXWqBoik"]),
  ("runic",
    ["IOuCxdl"]),
  ("samaritan",
    ["DAuBucp"]),
  ("oldsoutharabian",
    ["DWWuBg"]),
  ("saurashtra",
    ["CLVcCsim"]),
  ("signwriting",
    ["GWTkZcpfbp"]),
  ("shavian",
    ["DUPcBw"]),
  ("sharada",
    ["DZOyDs"]),
  ("siddham",
    ["EBCiCccBm"]),
  ("khudawadi",
    ["EAAqChfk"]),
  ("sinhala",
    ["FCzdbsdybjbbchdbegbbbigkcdDULgu"]),
  ("sogdian",
    ["DYSeBq"]),
  ("oldsogdian",
    ["DYQiBo"]),
  ("sorasompeng",
    ["DZIezhk"]),
  ("soyombo",
    ["ECXsDf"]),
  ("sundanese",
    ["KKuCmJwi"]),
  ("sylotinagri",
    ["CLQeBt"]),
  ("syriac",
    ["CQyobCicdKml"]),
  ("tagbanwa",
    ["IWenbdbc"]),
  ("takri",
    ["EBMeCggk"]),
  ("taile",
    ["JPgBecf"]),
  ("newtailue",
    ["JRcBseBagldc"]),
  ("tamil",
    ["EJicbgddbedcbbbcdcdddmefddbecbgbovEALhBynb"]),
  ("tangut",
    ["FJIebBfJCaiBDoTsj"]),
  ("taiviet",
    ["CMOuCpyf"]),
  ("telugu",
    ["EOenbdbxbqcjbdbehcbdcbceckhj"]),
  ("tifinagh",
    ["RCyCehcob"]),
  ("tagalog",
    ["ISmwjb"]),
  ("thaana",
    ["CVwBy"]),
  ("thai",
    ["FHxCgfBc"]),
  ("tibetan",
    ["FRsCubBkeBnbBkbpbhec"]),
  ("tirhuta",
    ["EASmCuik"]),
  ("tangsa",
    ["FHGqDbbk"]),
  ("toto",
    ["HATkBf"]),
  ("ugaritic",
    ["DUHcBebb"]),
  ("vai",
    ["CKMqLo"]),
  ("vithkuqi",
    ["DVAelbpbhbcblbpbhbc"]),
  ("warangciti",
    ["ECHcDfmb"]),
  ("wancho",
    ["HAVgCgfb"]),
  ("oldpersian",
    ["DUIiBkeo"]),
  ("cuneiform",
    ["EFBsBJmDyEhbflHo"]),
  ("yezidi",
    ["DYLkBqbdcc"]),
  ("yi",
    ["CIPkBSvdCd"]),
  ("zanabazarsquare",
    ["ECUqCu"]),
  ("inherited",
    ["BDoEiKrcRklBabBCieGOxBfTtdbnbhebgbdcHqCmUecHmBhFTxeEdcCZUjqqoBLnbIsbGFabCTCuBucxUydrichBee",
     "BTLHiJg"]),
  ("common",
    ["aCnBagBaBvbpbfxbBfbRhBnffcuEmbjbgbbbYnbgbobdbBgbGabTwbEzcBVtbPpeLebCGldCtcHvcbbBVhbnbhebgb",
     "dcbBDtmcDjbldlbprBhClBmbdcgbBbbrBpdeZqwlvBJsJwYecBgbEbTsDqPmvbbbzpieeDncdbDmcFrqBgBmjbBwCm",
     "BfDdBvbDkGmJToCmBHSiBiDydGjkJkbGebPfbocBEZqcIakwBjbtbeFrbbBgBagBalkbBtcCmhbhkfJydeBtdjDcnB",
     "zBtIuBbCSHweFVgJqgQuGaEmCiJmkBncCkdrichBeeCjIfumumDjjzFfDhbCtbccbcccebmbbbhbCnbecibhbBcbeb",
     "fbbdhbNccLgcByHThCqCyCjBBeBseDwmpcpbpbBlkGsCeBabcnBsejhcogFyBLwerdndEpeDrgmebpmeCeikgBoiBe",
     "cmecCkNcmocndkfCehpclgjhFrbDyBSUXbbBeDs"]),
  ("garay",
    ["DXZcBmdBdic"]),
  ("gurungkhema",
    ["FDRsCg"]),
  ("kiratrai",
    ["FIIiCg"]),
  ("olonal",
    ["HBZkBreb"]),
  ("sunuwar",
    ["EDLwBiok"]),
  ("todhri",
    ["DVDgCa"]),
  ("tulutigalari",
    ["EAIqkbbcbbBmbkbbcbbebkbcic"])]

end QueryFunctions.Unicode
