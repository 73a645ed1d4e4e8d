/-! The script extensions of the character database: for each script, the code points
that are used with it. A row is left out where the set is that of the script itself. -/

namespace QueryFunctions.Unicode

/-- The packed sets of the script extensions that differ from the script. -/
def scriptExtensionTable : List (String × List String) := [
  ("adlam",
    ["CIhbBgbJWobFHhbGLRiCyekec"]),
  ("caucasianalbanian",
    ["BDsbBsbBsbDTQnCalb"]),
  ("arabic",
    ["CHcfbIhbBiDcBwJgBfbcfCxbBdIVnbFHhbCZRaElqRdcCchbBgqEifbFfBMhBcEIeBfCpdCdeDGLsebBbbcbbcbbkb",
     "ebbbbgbebbbbbbdbcbbcbbbbbbbbbbcbbcebhbebebbbkbrfdbfbrCac"]),
  ("armenian",
    ["BDwbVgBmcBycdDOZjf"]),
  ("avestan",
    ["HbbRFscDFQcCcdh"]),
  ("bengali",
    ["BAybCMucrcBaebicccwbhbbdecjccceibecbfczHDhbbbccbbibibcbebcdCBAfb"]),
  ("bopomofo",
    ["BBjbbdnbqcRBxdekbnkecbgbHnbjBrEiBgCZLtcKwf"]),
  ("buginese",
    ["JWaBcccCCKtb"]),
  ("buhid",
    ["IUncju"]),
  ("chakma",
    ["DTmkCKekDTFqCbbs"]),
  ("carian",
    ["HbbLZmbcbFGdbDCLqBx"]),
  ("cherokee",
    ["BDodbbgcwclcGFuDicgCFJeDc"]),
  ("coptic",
    ["HbbWmbdcbbEecEeoPJkEmfhKtbDCPcBc"]),
  ("cyprominoan",
    ["DTImcRQkDv"]),
  ("cypriot",
    ["DTImdeBtdjCOmgcbbBsbcdbcb"]),
  ("cyrillic",
    ["BAybCpdbbbbbbcbfbJeLsIVolGebCybExbGApBgCpbBTLkDsBHEccDHPgCkBhb"]),
  ("devanagari",
    ["BAybCJrDfcBrHIeBnbcBNabBZFrkGkBgBREmk"]),
  ("dogra",
    ["DOmmCIDckBQIoCi"]),
  ("duployan",
    ["HbbWtcbbycQIhbFUQlEdfndjhkci"]),
  ("elbasan",
    ["HbbWrbDTScBo"]),
  ("ethiopic",
    ["BEcbFRdCvbechbbbecBpbecBhbechbbbecpbCfbecCpcBgdBaJVaxjhbhbhbhbhbhbhbhBVKcgcgcgjhbhEPYfhbeb",
     "cbp"]),
  ("georgian",
    ["HbbBVlbEFeBmbbfbcBwEJwBrcdBJmbEUnBmbbfbJzb"]),
  ("glagolitic",
    ["HbbWpbbbOsbcbJxbEIrbFVibEKrDsSpbBTNfbEOTkhbrchbcbf"]),
  ("gunjalagondi",
    ["HbbDHkcEANigbcbBlbcbghk"]),
  ("masaramgondi",
    ["DOmcEAJqhbcbBsdbbcbjik"]),
  ("gothic",
    ["HbbWqccbBobDSYoBb"]),
  ("grantha",
    ["DNtcrcYqoGKabbcBeddcBNabDNRjebicccwbhbcbfbkcccdcbgbfhchdfERrcbb"]),
  ("greek",
    ["HbbWmccbbbbbkbBubcbBqicebbebbbbdbbbubCloqJNqfByfefDgdMgwcgcBmcgcibbbbbbbBfcCbbpbocgbtcdbjD",
     "qbHsbCAJebBGNiDbrbDAXrCs"]),
  ("gujarati",
    ["DNtcrcKxdbjbdbwbhbcbfckbdbdcbpecmhhCHNsk"]),
  ("gurmukhi",
    ["DNtcrcFzdbgeccwbhbcbcbccbbfeccddbhebbhrCHSzk"]),
  ("hangul",
    ["GLkJwLJldekbnodgbHnbCbDqEjBfCnBfBTAnBdYtQNsmxeBxOMzcKwfCgBfdgcgcgcd"]),
  ("han",
    ["HbbRIuBabDlmIgBaqbdbnbnbncbgjHfbFsqBgBmjbBwBoCeBxpmBzbDkzkfDsBfbJToCmBFBkCQyiBFBcOccEcBHrc",
     "KwfBQPocmcBLRasLRycFEsCLFcBgGDugIocINqoLBlpXyDQwUwCFyHHzfGFg"]),
  ("hanunoo",
    ["ITsx"]),
  ("hebrew",
    ["BDvcYyCdiBbegDOVwBabfbbbcbcbk"]),
  ("hiragana",
    ["SErdekbnqgbbecdDiciDmcCZTgcKwfkbBtcCOUrLbsbBddYMvb"]),
  ("oldhungarian",
    ["MGobcbFGdbpbDGEgBznBzhg"]),
  ("javanese",
    ["CMEyDablec"]),
  ("kayahli",
    ["CMAaBw"]),
  ("katakana",
    ["BDtbBdbQZtdekbnqgbbecDnedDsJgqIaBvbDkCYWbcKwClCOUaebhbcbbLbdByboe"]),
  ("khojki",
    ["EDikCHOikBOBmsbBv"]),
  ("kannada",
    ["DNtcrcBEonbdbxbkbfcjbdbehcgcbeckbdGAebbcgbxbbbCASxg"]),
  ("kaithi",
    ["DOokNXxbBUFekBNMsCpkb"]),
  ("latin",
    ["CnBagBaBvbmbcbfxbBfbRhdbkbbdbbjbbbgfBbpbcbbmbcdhcbcBmbfbenKrcBVecCXkbEOiBmgBxfefnbCsCfbhJw",
     "LrbCnbnbqnDfbCfcgbBbbrBpECtBgPrbBTUmiBaDydCpccbbbivoLqbTtBrbjbeBEDqhBOkBagBaDCfgbBqbjDDNpB",
     "fgg"]),
  ("limbu",
    ["DOnbFXqBfbmemebdm"]),
  ("lineara",
    ["DTItBtBVgLzjwki"]),
  ("linearb",
    ["DSYqmbBabtbcbpcoBiEtfdeBtdj"]),
  ("lisu",
    ["BAybqbRDkcBSFsBwBUMab"]),
  ("lycian",
    ["MGobDHQrBd"]),
  ("lydian",
    ["HbbRFtbDEXqBafb"]),
  ("mahajani",
    ["HbbDHkmCIDckBNUsBn"]),
  ("mandaic",
    ["CJobTrBccb"]),
  ("manichaean",
    ["CJobDUQxBnem"]),
  ("meroitichieroglyphs",
    ["MGrbDKHmBg"]),
  ("malayalam",
    ["DNtcrcBJmnbdbBzbdbgeqcBaFVebxbCASzd"]),
  ("modi",
    ["CLSakBPOwCrlk"]),
  ("mongolian",
    ["JCiBagDlhBrCWabFZtcfeDJFwn"]),
  ("multani",
    ["DYkkDWAahbbbebpbl"]),
  ("myanmar",
    ["GBoGeCFUcbGvBfDtBgBPAmu"]),
  ("nandinagari",
    ["DOmcBImkGBhbibhbCASrgBQYsicBucl"]),
  ("nko",
    ["CHobobdbQaChcdDOWsc"]),
  ("oldturkic",
    ["MGobFGfbDFZzCv"]),
  ("oriya",
    ["DNtcrcPvdbicccwbhbcbfcjcccdhdecbfcsGPebxb"]),
  ("osage",
    ["BDpbcbgbCybDTLvBkeBk"]),
  ("olduyghur",
    ["CJobDUSvbBSfBa"]),
  ("oldpermic",
    ["HbbWmbfdkbOdbDSMuBr"]),
  ("phagspa",
    ["JCkcbbDCjbFZubBTNxCe"]),
  ("psalterpahlavi",
    ["CJobDUYhshemh"]),
  ("hanifirohingya",
    ["CHobobdbBgbFrbDVHjBoik"]),
  ("runic",
    ["IOuDl"]),
  ("samaritan",
    ["DAuBucpOJqb"]),
  ("shavian",
    ["HbbDUIaBw"]),
  ("sharada",
    ["DNtbHKfbbbcccbCATrgcbBNWpDs"]),
  ("khudawadi",
    ["DOmcCIDmkBOIgChfk"]),
  ("sinhala",
    ["DOmcBOldbsdybjbbchdbegbbbigkcdFRpbDOTqu"]),
  ("sogdian",
    ["CJobDWIpBq"]),
  ("sylotinagri",
    ["DOmcEykCHWiBt"]),
  ("syriac",
    ["BDrcccbbvbcdhcbcBCcboccbBgbklBabFnobCicdKmlIEfbbb"]),
  ("tagbanwa",
    ["IUncBpnbdbc"]),
  ("takri",
    ["DOmcCIDmkBPTuCggk"]),
  ("taile",
    ["BDocfcdbEZzkDKwBecf"]),
  ("tamil",
    ["DNtcrcUucbgddbedcbbbcdcdddmefddbecbgbovGKdbCBBkbBOEfbbbCdcETfBynb"]),
  ("tangut",
    ["SEaqTbbEQKmbBfJCaiBDoTsj"]),
  ("telugu",
    ["DNtcrcZqnbdbxbqcjbdbehcbdcbceckhjGFabxb"]),
  ("tifinagh",
    ["BDqbbbbezbPYaCehcob"]),
  ("tagalog",
    ["ISmwjbvc"]),
  ("thaana",
    ["CHoboccbCmkKsByDPGqbkb"]),
  ("thai",
    ["BAybBabBrbBtbEClCgfBc"]),
  ("tibetan",
    ["FRsCubBkeBnbBkbpbhecMEve"]),
  ("tirhuta",
    ["DNtcrcHKmbCASzkBPAcCuik"]),
  ("toto",
    ["BAybGZSlBf"]),
  ("yezidi",
    ["CHobobdbCmkDWAgBqbdcc"]),
  ("yi",
    ["SErcfkciIpbBQBcBSvdCdBIIcf"]),
  ("inherited",
    ["BEdbcbbmbcdhcbcqbcbsbfbeCGmcGOxBfBDbCcbbbfUecHmBgDFSqqqoBLnbCZQoBucxUydrichBeeBTLHiJg"]),
  ("common",
    ["aCnBagBaBvbmbcbfxbBfbRhdbkbbdbbjbbbgffcuEwbgbbbYnbIhbTwbCAubPpeGDbmcBhbBfbkbcbhbldlbprBhCl",
     "BmbdcgbBbbrBpdeZqwlvBJsJwYecBgbEbTsxbyckbebbbBaQcbdbnbnbvbUjyBfbBxpmeGfkfDsBfbJToCmBHSqBaD",
     "ydBLobocBFHskwvcmbtbeFrbbBgBagBagExhbhkfPmnBzBtCYNbJqgQuGaEmCiJmkBncCkdrichBeeCjIfumumDjBb",
     "hFfDhbCtbccbcccebmbbbhbCnbecibhbBcbebfbbdhbNccLgcByHThCqCyCjBBeBseDwmpcpbpbBlkGsCeBabcnBse",
     "jxgFyBLwerdndEpeDrgmebpmeCeikgBoiBecmecCkNcmocndkfCehpclgjhFrbDyBSUXbbBeDs"]),
  ("garay",
    ["CHobobdbDVQuBmdBdic"]),
  ("gurungkhema",
    ["DOnbFADeCg"]),
  ("olonal",
    ["DOmcGYKwBreb"]),
  ("sunuwar",
    ["BDocbbjbcbBcbdbECGkBiok"]),
  ("todhri",
    ["BDpbcbcbjbbbCwbDTWbCa"]),
  ("tulutigalari",
    ["EXakGBqbbbCASxgHfbBOJekbbcbbBmbkbbcbbebkbcic"])]

end QueryFunctions.Unicode
