/-! The full upper and lower case mappings of single characters, in the layout of the
folding table: the distance from the entry before, the number of characters that the
mapping yields, and the zigzag coded distance to each of them. -/

namespace QueryFunctions.Unicode

def upperTable : List String :=
  ["DtbClbbClbbClbbClbbClbbClbbClbbClbbClbbClbbClbbClbbClbbClbbClbbClbbClbbClbbClbbClbbClbbClbbC",
   "lbbClbbClbbClChbCFeBqcKtKtbbClbbClbbClbbClbbClbbClbbClbbClbbClbbClbbClbbClbbClbbClbbClbbClbb",
   "ClbbClbbClbbClbbClbbClbbClcbClbbClbbClbbClbbClbbClbbClbbJicbbcbbcbbcbbcbbcbbcbbcbbcbbcbbcbbc",
   "bbcbbcbbcbbcbbcbbcbbcbbcbbcbbcbbcbbcbbcbRvcbbcbbcbbdbbcbbcbbcbbcbbcbbcbbcbbbcBCoThcbbcbbcbbc",
   "bbcbbcbbcbbcbbcbbcbbcbbcbbcbbcbbcbbcbbcbbcbbcbbcbbcbbcbbcbbdbbcbbcbbbbXbbbPadbbcbbdbbebbgbbd",
   "bHmebbbbMobbEVXydbKadbbcbbcbbdbbfbbdbbebbcbbdbbebbcbEigbbbbdcbbbbdcbbbbdcbbcbbcbbcbbcbbcbbcb",
   "bcbbbbGbcbbcbbcbbcbbcbbcbbcbbcbbcbbbcBGlVwcbbbbdcbbebbcbbcbbcbbcbbcbbcbbcbbcbbcbbcbbcbbcbbcb",
   "bcbbcbbcbbcbbcbbcbbebbcbbcbbcbbcbbcbbcbbcbbcbbjbbdbBFZybbBFZycbbfbbcbbcbbcbbcbbbbBFXmbbBFXgb",
   "bBFXkbbQdbbPvcbPtbbPtcbPncbPpbbEVFiebPtbbEVFacbPxbbEVHebbEVCibbEVEmcbQbbbQfbbEVEmbbBFUkbbEVE",
   "gdbQfcbBFUwbbQjdbQlibBFTedbQtcbEVEkbbQtebEVCmbbQtbbFhbbQrbbQrbbFlgbQvlbEVAwbbEVAqGlbGmBsbbcb",
   "bebbebKabbKabbKatdsKlKzBcbCxbbCvbbCvbbCvbdvMxNlbbClbbClbbClbbClbbClbbClbbClbbClbbClbbClbbClb",
   "bClbbClbbClbbClbbClbbClbbCjbbClbbClbbClbbClbbClbbClbbClbbClbbClbbExbbEvbbEvcbEtbbEjebDpbbEdb",
   "bpcbbcbbcbbcbbcbbcbbcbbcbbcbbcbbcbbcbbbbGpbbGdbbobbIxcbHjdbbdbbCbbClbbClbbClbbClbbClbbClbbCl",
   "bbClbbClbbClbbClbbClbbClbbClbbClbbClbbClbbClbbClbbClbbClbbClbbClbbClbbClbbClbbClbbClbbClbbCl",
   "bbClbbClbbGdbbGdbbGdbbGdbbGdbbGdbbGdbbGdbbGdbbGdbbGdbbGdbbGdbbGdbbGdbbGdcbbcbbcbbcbbcbbcbbcb",
   "bcbbcbbcbbcbbcbbcbbcbbcbbcbbcbbkbbcbbcbbcbbcbbcbbcbbcbbcbbcbbcbbcbbcbbcbbcbbcbbcbbcbbcbbcbbc",
   "bbcbbcbbcbbcbbcbbcbbdbbcbbcbbcbbcbbcbbcbbbbBdcbbcbbcbbcbbcbbcbbcbbcbbcbbcbbcbbcbbcbbcbbcbbcb",
   "bcbbcbbcbbcbbcbbcbbcbbcbbcbbcbbcbbcbbcbbcbbcbbcbbcbbcbbcbbcbbcbbcbbcbbcbbcbbcbbcbbcbbcbbcbbc",
   "bbcbbBybDrbbDrbbDrbbDrbbDrbbDrbbDrbbDrbbDrbbDrbbDrbbDrbbDrbbDrbbDrbbDrbbDrbbDrbbDrbbDrbbDrbb",
   "DrbbDrbbDrbbDrbbDrbbDrbbDrbbDrbbDrbbDrbbDrbbDrbbDrbbDrbbDrbbDrbbDrbcGhEbEHdbIXkbbIXkbbIXkbbI",
   "XkbbIXkbbIXkbbIXkbbIXkbbIXkbbIXkbbIXkbbIXkbbIXkbbIXkbbIXkbbIXkbbIXkbbIXkbbIXkbbIXkbbIXkbbIXk",
   "bbIXkbbIXkbbIXkbbIXkbbIXkbbIXkbbIXkbbIXkbbIXkbbIXkbbIXkbbIXkbbIXkbbIXkbbIXkbbIXkbbIXkbbIXkbb",
   "IXkbbIXkbbIXkdbIXkbbIXkbbIXkBDhbpbbpbbpbbpbbpbbpDFvbSNbbbSMzbbSMhbbSMdbbSMdbbSMfbbSLrbbSHlbb",
   "EAIucbbJfbEANwebLHkrbEARwElbbcbbcbbcbbcbbcbbcbbcbbcbbcbbcbbcbbcbbcbbcbbcbbcbbcbbcbbcbbcbbcbb",
   "cbbcbbcbbcbbcbbcbbcbbcbbcbbcbbcbbcbbcbbcbbcbbcbbcbbcbbcbbcbbcbbcbbcbbcbbcbbcbbcbbcbbcbbcbbcb",
   "bcbbcbbcbbcbbcbbcbbcbbcbbcbbcbbcbbcbbcbbcbbcbbcbbcbbcbbcbbcbbcbbcbbbcWYtUTlbcWXxUWrbcWXtUWpb",
   "cWXrUWrbcWZpVCpbbEngbbcbbcbbcbbcbbcbbcbbcbbcbbcbbcbbcbbcbbcbbcbbcbbcbbcbbcbbcbbcbbcbbcbbcbbc",
   "bbcbbcbbcbbcbbcbbcbbcbbcbbcbbcbbcbbcbbcbbcbbcbbcbbcbbcbbcbbcbbcbbcbbcbbbbqbbqbbqbbqbbqbbqbbq",
   "bbqjbqbbqbbqbbqbbqbbqlbqbbqbbqbbqbbqbbqbbqbbqjbqbbqbbqbbqbbqbbqbbqbbqjbqbbqbbqbbqbbqbbqlcUYv",
   "VKbbbqbdUYzVKfVLrbbqbdUZdVKjVLtbbqbdUZhVKnVGxbbqjbqbbqbbqbbqbbqbbqbbqbbqjbFsbbFsbbGqbbGqbbGq",
   "bbGqbbHsbbHsbbJwbbJwbbIqbbIqbbJsbbJsdcJfVDlbcJfVDnbcJfVDpbcJfVDrbcJfVDtbcJfVDvbcJfVDxbcJfVDz",
   "bcJvVEbbcJvVEdbcJvVEfbcJvVEhbcJvVEjbcJvVElbcJvVEnbcJvVEpbcHzVErbcHzVEtbcHzVEvbcHzVExbcHzVEzb",
   "cHzVFbbcHzVFdbcHzVFfbcIpVFhbcIpVFjbcIpVFlbcIpVFnbcIpVFpbcIpVFrbcIpVFtbcIpVFvbcEhVFxbcEhVFzbc",
   "EhVGbbcEhVGdbcEhVGfbcEhVGhbcEhVGjbcEhVGlbcExVGnbcExVGpbcExVGrbcExVGtbcExVGvbcExVGxbcExVGzbcE",
   "xVHbbbqbbqbcqVHhbcVHzVHjbcVIxVHlccVIfVOhbdVIhVOjVHrfcVIrVIbcbVIfecqVInbcVItVIpbcVJxVIrccVIzV",
   "PnbdVJbVPpVIxfcVJlVJhebqbbqbdVJtVUxVVnbdVJvVUzVVndcVKbVQtbdVKdVVhVQvjbqbbqbdVKbVWdVWtbdVKdVW",
   "fVWtbcVKnVVlbbobcVKjVRzbdVKlVWnVSblcqVMfbcVLbVMhbcVNdVMjccVLhVTfbdVLjVThVMpfcVLtVMzNabCdBibB",
   "fbbBfbbBfbbBfbbBfbbBfbbBfbbBfbbBfbbBfbbBfbbBfbbBfbbBfbbBfbbBffbbBGmbBzbbBzbbBzbbBzbbBzbbBzbb",
   "BzbbBzbbBzbbBzbbBzbbBzbbBzbbBzbbBzbbBzbbBzbbBzbbBzbbBzbbBzbbBzbbBzbbBzbbBzbbBzCTrbDrbbDrbbDr",
   "bbDrbbDrbbDrbbDrbbDrbbDrbbDrbbDrbbDrbbDrbbDrbbDrbbDrbbDrbbDrbbDrbbDrbbDrbbDrbbDrbbDrbbDrbbDr",
   "bbDrbbDrbbDrbbDrbbDrbbDrbbDrbbDrbbDrbbDrbbDrbbDrbbDrbbDrbbDrbbDrbbDrbbDrbbDrbbDrbbDrbbDrcbbe",
   "bBFYjbbBFYdcbbcbbcbbhbbdbblbbcbbcbbcbbcbbcbbcbbcbbcbbcbbcbbcbbcbbcbbcbbcbbcbbcbbcbbcbbcbbcbb",
   "cbbcbbcbbcbbcbbcbbcbbcbbcbbcbbcbbcbbcbbcbbcbbcbbcbbcbbcbbcbbcbbcbbcbbcbbcbbcbbcbbcbbjbbcbbfb",
   "bnbVMtbbVMtbbVMtbbVMtbbVMtbbVMtbbVMtbbVMtbbVMtbbVMtbbVMtbbVMtbbVMtbbVMtbbVMtbbVMtbbVMtbbVMtb",
   "bVMtbbVMtbbVMtbbVMtbbVMtbbVMtbbVMtbbVMtbbVMtbbVMtbbVMtbbVMtbbVMtbbVMtbbVMtbbVMtbbVMtbbVMtbbV",
   "MtbbVMtcbVMtgbVMtBTWebbcbbcbbcbbcbbcbbcbbcbbcbbcbbcbbcbbcbbcbbcbbcbbcbbcbbcbbcbbcbbcbbcbbubb",
   "cbbcbbcbbcbbcbbcbbcbbcbbcbbcbbcbbcbbcbbFgbbcbbcbbcbbcbbcbbcbbebbcbbcbbcbbcbbcbbcbbcbbcbbcbbc",
   "bbcbbcbbcbbcbbcbbcbbcbbcbbcbbcbbcbbcbbcbbcbbcbbcbbcbbcbbcbbcbblbbcbbdbbcbbcbbcbbcbbfbbfbbcbb",
   "bbDsdbbcbbcbbcbbcbbcbbcbbcbbcbbcbbmbbcbbcbbcbbcbbcbbcbbcbbfbbcbbdbbcbbcbbcbbcbbcbbcbbcbbBbbb",
   "BHdbCTjBdbEKZnbbEKZnbbEKZnbbEKZnbbEKZnbbEKZnbbEKZnbbEKZnbbEKZnbbEKZnbbEKZnbbEKZnbbEKZnbbEKZn",
   "bbEKZnbbEKZnbbEKZnbbEKZnbbEKZnbbEKZnbbEKZnbbEKZnbbEKZnbbEKZnbbEKZnbbEKZnbbEKZnbbEKZnbbEKZnbb",
   "EKZnbbEKZnbbEKZnbbEKZnbbEKZnbbEKZnbbEKZnbbEKZnbbEKZnbbEKZnbbEKZnbbEKZnbbEKZnbbEKZnbbEKZnbbEK",
   "ZnbbEKZnbbEKZnbbEKZnbbEKZnbbEKZnbbEKZnbbEKZnbbEKZnbbEKZnbbEKZnbbEKZnbbEKZnbbEKZnbbEKZnbbEKZn",
   "bbEKZnbbEKZnbbEKZnbbEKZnbbEKZnbbEKZnbbEKZnbbEKZnbbEKZnbbEKZnbbEKZnbbEKZnbbEKZnbbEKZnbbEKZnbb",
   "EKZnbbEKZnbbEKZnbbEKZnbbEKZnBEAjcHHXjHHXjbcHHXlHHXfbcHHXnHHXbbdHHXpHHXpHHXjbdHHXrHHXrHHXfbcH",
   "HWtHHWrbcHHWvHHWtncHEEnHEEjbcHEEpHEFtbcHEErHEFjbcHEDzHEEpbcHEEvHEFjBPabClbbClbbClbbClbbClbbC",
   "lbbClbbClbbClbbClbbClbbClbbClbbClbbClbbClbbClbbClbbClbbClbbClbbClbbClbbClbbClbbClBVibDbbbDbb",
   "bDbbbDbbbDbbbDbbbDbbbDbbbDbbbDbbbDbbbDbbbDbbbDbbbDbbbDbbbDbbbDbbbDbbbDbbbDbbbDbbbDbbbDbbbDbb",
   "bDbbbDbbbDbbbDbbbDbbbDbbbDbbbDbbbDbbbDbbbDbbbDbbbDbbbDbbbDbFhbDbbbDbbbDbbbDbbbDbbbDbbbDbbbDb",
   "bbDbbbDbbbDbbbDbbbDbbbDbbbDbbbDbbbDbbbDbbbDbbbDbbbDbbbDbbbDbbbDbbbDbbbDbbbDbbbDbbbDbbbDbbbDb",
   "bbDbbbDbbbDbbbDbbbDbGabCzbbCzbbCzbbCzbbCzbbCzbbCzbbCzbbCzbbCzbbCzcbCzbbCzbbCzbbCzbbCzbbCzbbC",
   "zbbCzbbCzbbCzbbCzbbCzbbCzbbCzbbCzcbCzbbCzbbCzbbCzbbCzbbCzbbCzcbCzbbCzCRcbExbbExbbExbbExbbExb",
   "bExbbExbbExbbExbbExbbExbbExbbExbbExbbExbbExbbExbbExbbExbbExbbExbbExbbExbbExbbExbbExbbExbbExb",
   "bExbbExbbExbbExbbExbbExbbExbbExbbExbbExbbExbbExbbExbbExbbExbbExbbExbbExbbExbbExbbExbbExbbExE",
   "wbClbbClbbClbbClbbClbbClbbClbbClbbClbbClbbClbbClbbClbbClbbClbbClbbClbbClbbClbbClbbClbbClEGpb",
   "ClbbClbbClbbClbbClbbClbbClbbClbbClbbClbbClbbClbbClbbClbbClbbClbbClbbClbbClbbClbbClbbClbbClbb",
   "ClbbClbbClbbClbbClbbClbbClbbClbbClBGJxbClbbClbbClbbClbbClbbClbbClbbClbbClbbClbbClbbClbbClbbC",
   "lbbClbbClbbClbbClbbClbbClbbClbbClbbClbbClbbClbbClbbClbbClbbClbbClbbClbbClCibCbbbCbbbCbbbCbbb",
   "CbbbCbbbCbbbCbbbCbbbCbbbCbbbCbbbCbbbCbbbCbbbCbbbCbbbCbbbCbbbCbbbCbbbCbbbCbbbCbbbCbBUIhbCpbbC",
   "pbbCpbbCpbbCpbbCpbbCpbbCpbbCpbbCpbbCpbbCpbbCpbbCpbbCpbbCpbbCpbbCpbbCpbbCpbbCpbbCpbbCpbbCpbbC",
   "pbbCpbbCpbbCpbbCpbbCpbbCpbbCpbbCpbbCp"]

def lowerTable : List String :=
  ["CnbCmbbCmbbCmbbCmbbCmbbCmbbCmbbCmbbCmbbCmbbCmbbCmbbCmbbCmbbCmbbCmbbCmbbCmbbCmbbCmbbCmbbCmbbC",
   "mbbCmbbCmbbCmDybCmbbCmbbCmbbCmbbCmbbCmbbCmbbCmbbCmbbCmbbCmbbCmbbCmbbCmbbCmbbCmbbCmbbCmbbCmbb",
   "CmbbCmbbCmbbCmcbCmbbCmbbCmbbCmbbCmbbCmbbCmBibccbccbccbccbccbccbccbccbccbccbccbccbccbccbccbcc",
   "bccbccbccbccbccbccbccbcccPhBKgcbccbccbcdbccbccbccbccbccbccbccbcdbccbccbccbccbccbccbccbccbccb",
   "ccbccbccbccbccbccbccbccbccbccbccbccbccbccbJhbbccbccbcebQebbccbccbPwbbccbPubbPubbcdbGcbbPobbP",
   "qbbccbPubbPycbQgbbQcbbcebQgbbQkcbQmbbccbccbccbQubbccbQudbccbQubbccbQsbbQsbbccbccbQwbbcebcibe",
   "bbccbebbccbebbccbccbccbccbccbccbccbccbcdbccbccbccbccbccbccbccbccbcdbebbccbccbHlbbEhbbccbccbc",
   "cbccbccbccbccbccbccbccbccbccbccbccbccbccbccbccbccbccbJzcbccbccbccbccbccbccbccbccbcibBFYkbbcc",
   "bMnbbBFYedbccbOzbbFibbFmbbccbccbccbccbcLebccbcebcjbIyhbCycbCwbbCwbbCwcbEycbEwbbEwcbCmbbCmbbC",
   "mbbCmbbCmbbCmbbCmbbCmbbCmbbCmbbCmbbCmbbCmbbCmbbCmbbCmbbCmcbCmbbCmbbCmbbCmbbCmbbCmbbCmbbCmbbC",
   "mBkbqjbccbccbccbccbccbccbccbccbccbccbccbcgbEpdbccbnbbcdbJzbbJzbbJzbbGebbGebbGebbGebbGebbGebb",
   "GebbGebbGebbGebbGebbGebbGebbGebbGebbGebbCmbbCmbbCmbbCmbbCmbbCmbbCmbbCmbbCmbbCmbbCmbbCmbbCmbb",
   "CmbbCmbbCmbbCmbbCmbbCmbbCmbbCmbbCmbbCmbbCmbbCmbbCmbbCmbbCmbbCmbbCmbbCmbbCmBxbccbccbccbccbccb",
   "ccbccbccbccbccbccbccbccbccbccbccbckbccbccbccbccbccbccbccbccbccbccbccbccbccbccbccbccbccbccbcc",
   "bccbccbccbccbccbccbccbccbBebbccbccbccbccbccbccbcdbccbccbccbccbccbccbccbccbccbccbccbccbccbccb",
   "ccbccbccbccbccbccbccbccbccbccbccbccbccbccbccbccbccbccbccbccbccbccbccbccbccbccbccbccbccbccbcc",
   "bccbccbcdbDsbbDsbbDsbbDsbbDsbbDsbbDsbbDsbbDsbbDsbbDsbbDsbbDsbbDsbbDsbbDsbbDsbbDsbbDsbbDsbbDs",
   "bbDsbbDsbbDsbbDsbbDsbbDsbbDsbbDsbbDsbbDsbbDsbbDsbbDsbbDsbbDsbbDsbbDsEHebVMubbVMubbVMubbVMubb",
   "VMubbVMubbVMubbVMubbVMubbVMubbVMubbVMubbVMubbVMubbVMubbVMubbVMubbVMubbVMubbVMubbVMubbVMubbVM",
   "ubbVMubbVMubbVMubbVMubbVMubbVMubbVMubbVMubbVMubbVMubbVMubbVMubbVMubbVMubbVMucbVMugbVMuBBvbEK",
   "ZobbEKZobbEKZobbEKZobbEKZobbEKZobbEKZobbEKZobbEKZobbEKZobbEKZobbEKZobbEKZobbEKZobbEKZobbEKZo",
   "bbEKZobbEKZobbEKZobbEKZobbEKZobbEKZobbEKZobbEKZobbEKZobbEKZobbEKZobbEKZobbEKZobbEKZobbEKZobb",
   "EKZobbEKZobbEKZobbEKZobbEKZobbEKZobbEKZobbEKZobbEKZobbEKZobbEKZobbEKZobbEKZobbEKZobbEKZobbEK",
   "ZobbEKZobbEKZobbEKZobbEKZobbEKZobbEKZobbEKZobbEKZobbEKZobbEKZobbEKZobbEKZobbEKZobbEKZobbEKZo",
   "bbEKZobbEKZobbEKZobbEKZobbEKZobbEKZobbEKZobbEKZobbEKZobbEKZobbEKZobbEKZobbEKZobbEKZobbEKZobb",
   "EKZobbEKZobbEKZobbqbbqbbqbbqbbqbbqDGmbchbIXjbbIXjbbIXjbbIXjbbIXjbbIXjbbIXjbbIXjbbIXjbbIXjbbI",
   "XjbbIXjbbIXjbbIXjbbIXjbbIXjbbIXjbbIXjbbIXjbbIXjbbIXjbbIXjbbIXjbbIXjbbIXjbbIXjbbIXjbbIXjbbIXj",
   "bbIXjbbIXjbbIXjbbIXjbbIXjbbIXjbbIXjbbIXjbbIXjbbIXjbbIXjbbIXjbbIXjbbIXjdbIXjbbIXjbbIXjMjbccbc",
   "cbccbccbccbccbccbccbccbccbccbccbccbccbccbccbccbccbccbccbccbccbccbccbccbccbccbccbccbccbccbccb",
   "ccbccbccbccbccbccbccbccbccbccbccbccbccbccbccbccbccbccbccbccbccbccbccbccbccbccbccbccbccbccbcc",
   "bccbccbccbccbccbccbccbccbccbccbccbckbWNtcbccbccbccbccbccbccbccbccbccbccbccbccbccbccbccbccbcc",
   "bccbccbccbccbccbccbccbccbccbccbccbccbccbccbccbccbccbccbccbccbccbccbccbccbccbccbccbccbccbccbc",
   "kbpbbpbbpbbpbbpbbpbbpbbpjbpbbpbbpbbpbbpbbplbpbbpbbpbbpbbpbbpbbpbbpjbpbbpbbpbbpbbpbbpbbpbbpjb",
   "pbbpbbpbbpbbpbbpmbpcbpcbpcbpjbpbbpbbpbbpbbpbbpbbpbbpzbpbbpbbpbbpbbpbbpbbpbbpjbpbbpbbpbbpbbpb",
   "bpbbpbbpjbpbbpbbpbbpbbpbbpbbpbbpjbpbbpbbFrbbFrbbrmbGpbbGpbbGpbbGpbbrmbpbbpbbHrbbHrnbpbbpbbIp",
   "bbIpbbnmbJvbbJvbbJrbbJrbbrLmbWGfebYUvbbYLnhbCeBubBgbbBgbbBgbbBgbbBgbbBgbbBgbbBgbbBgbbBgbbBgb",
   "bBgbbBgbbBgbbBgbbBgubcBFnbCabbCabbCabbCabbCabbCabbCabbCabbCabbCabbCabbCabbCabbCabbCabbCabbCa",
   "bbCabbCabbCabbCabbCabbCabbCabbCabbCaCSvbDsbbDsbbDsbbDsbbDsbbDsbbDsbbDsbbDsbbDsbbDsbbDsbbDsbb",
   "DsbbDsbbDsbbDsbbDsbbDsbbDsbbDsbbDsbbDsbbDsbbDsbbDsbbDsbbDsbbDsbbDsbbDsbbDsbbDsbbDsbbDsbbDsbb",
   "DsbbDsbbDsbbDsbbDsbbDsbbDsbbDsbbDsbbDsbbDsbbDsBxbccbBFUjbbLHjbbBFTddbccbccbccbBFXfbbBFUvbbBF",
   "XlbbBFXjcbcdbcjbBFZxbbBFZxbbccbccbccbccbccbccbccbccbccbccbccbccbccbccbccbccbccbccbccbccbccbc",
   "cbccbccbccbccbccbccbccbccbccbccbccbccbccbccbccbccbccbccbccbccbccbccbccbccbccbccbccbcjbccbcfb",
   "cBTYkbccbccbccbccbccbccbccbccbccbccbccbccbccbccbccbccbccbccbccbccbccbccbcubccbccbccbccbccbcc",
   "bccbccbccbccbccbccbccbcFgbccbccbccbccbccbccbcebccbccbccbccbccbccbccbccbccbccbccbccbccbccbccb",
   "ccbccbccbccbccbccbccbccbccbccbccbccbccbccbccbclbccbccbEANvbbccbccbccbccbcfbccbEVChdbccbcebcc",
   "bccbccbccbccbccbccbccbccbccbEVElbbEVFhbbEVEzbbEVEfbbEVElcbEVApbbEVClbbEVAvbbCTkbbccbccbccbcc",
   "bccbccbccbccbDrbbEVEjbbEARvbbccbccbEVHdbbccbccbccbccbccbccbccbccbEVXxzbcBHAibCmbbCmbbCmbbCmb",
   "bCmbbCmbbCmbbCmbbCmbbCmbbCmbbCmbbCmbbCmbbCmbbCmbbCmbbCmbbCmbbCmbbCmbbCmbbCmbbCmbbCmbbCmBVabD",
   "cbbDcbbDcbbDcbbDcbbDcbbDcbbDcbbDcbbDcbbDcbbDcbbDcbbDcbbDcbbDcbbDcbbDcbbDcbbDcbbDcbbDcbbDcbbD",
   "cbbDcbbDcbbDcbbDcbbDcbbDcbbDcbbDcbbDcbbDcbbDcbbDcbbDcbbDcbbDcbbDcFhbDcbbDcbbDcbbDcbbDcbbDcbb",
   "DcbbDcbbDcbbDcbbDcbbDcbbDcbbDcbbDcbbDcbbDcbbDcbbDcbbDcbbDcbbDcbbDcbbDcbbDcbbDcbbDcbbDcbbDcbb",
   "DcbbDcbbDcbbDcbbDcbbDcbbDcGbbDabbDabbDabbDabbDabbDabbDabbDabbDabbDabbDacbDabbDabbDabbDabbDab",
   "bDabbDabbDabbDabbDabbDabbDabbDabbDabbDacbDabbDabbDabbDabbDabbDabbDacbDabbDaCQdbEybbEybbEybbE",
   "ybbEybbEybbEybbEybbEybbEybbEybbEybbEybbEybbEybbEybbEybbEybbEybbEybbEybbEybbEybbEybbEybbEybbE",
   "ybbEybbEybbEybbEybbEybbEybbEybbEybbEybbEybbEybbEybbEybbEybbEybbEybbEybbEybbEybbEybbEybbEybbE",
   "ybbEyGcbCmbbCmbbCmbbCmbbCmbbCmbbCmbbCmbbCmbbCmbbCmbbCmbbCmbbCmbbCmbbCmbbCmbbCmbbCmbbCmbbCmbb",
   "CmEGpbCmbbCmbbCmbbCmbbCmbbCmbbCmbbCmbbCmbbCmbbCmbbCmbbCmbbCmbbCmbbCmbbCmbbCmbbCmbbCmbbCmbbCm",
   "bbCmbbCmbbCmbbCmbbCmbbCmbbCmbbCmbbCmbbCmBGJxbCmbbCmbbCmbbCmbbCmbbCmbbCmbbCmbbCmbbCmbbCmbbCmb",
   "bCmbbCmbbCmbbCmbbCmbbCmbbCmbbCmbbCmbbCmbbCmbbCmbbCmbbCmbbCmbbCmbbCmbbCmbbCmbbCmCnbCcbbCcbbCc",
   "bbCcbbCcbbCcbbCcbbCcbbCcbbCcbbCcbbCcbbCcbbCcbbCcbbCcbbCcbbCcbbCcbbCcbbCcbbCcbbCcbbCcbbCcBUIa",
   "bCqbbCqbbCqbbCqbbCqbbCqbbCqbbCqbbCqbbCqbbCqbbCqbbCqbbCqbbCqbbCqbbCqbbCqbbCqbbCqbbCqbbCqbbCqb",
   "bCqbbCqbbCqbbCqbbCqbbCqbbCqbbCqbbCqbbCqbbCq"]

end QueryFunctions.Unicode
