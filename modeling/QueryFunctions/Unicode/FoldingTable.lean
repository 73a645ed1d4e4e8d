/-! Simple case folding. The table lists, in increasing order, every code point that
folds together with others: its distance from the entry before, the number of its
partners, and the zigzag coded distance to each of them. -/

namespace QueryFunctions.Unicode

/-- The packed list of the code points with case partners. -/
def foldingTable : List String :=
  ["CnbCmbbCmbbCmbbCmbbCmbbCmbbCmbbCmbbCmbbCmbcCmYXibbCmbbCmbbCmbbCmbbCmbbCmbbCmbcCmXcbbCmbbCmbb",
   "CmbbCmbbCmbbCmbbCmhbClbbClbbClbbClbbClbbClbbClbbClbbClbbClbcClYUwbbClbbClbbClbbClbbClbbClbbC",
   "lbcClUqbbClbbClbbClbbClbbClbbClbbClChcCFeCHqlbCmbbCmbbCmbbCmbbCmbcCmYOabbCmbbCmbbCmbbCmbbCmb",
   "bCmbbCmbbCmbbCmbbCmbbCmbbCmbbCmbbCmbbCmbbCmbbCmcbCmbbCmbbCmbbCmbbCmbbCmbbCmbbWNubbClbbClbbCl",
   "bbClbbClbcClYLobbClbbClbbClbbClbbClbbClbbClbbClbbClbbClbbClbbClbbClbbClbbClbbClbbClcbClbbClb",
   "bClbbClbbClbbClbbClbbJibbcbbbbbcbbbbbcbbbbbcbbbbbcbbbbbcbbbbbcbbbbbcbbbbbcbbbbbcbbbbbcbbbbbc",
   "bbbbbcbbbbbcbbbbbcbbbbbcbbbbbcbbbbbcbbbbbcbbbbbcbbbbbcbbbbbcbbbbbcbbbbbcbbbdbcbbbbbcbbbbbcbb",
   "bcbcbbbbbcbbbbbcbbbbbcbbbbbcbbbbbcbbbbbcbbbbbcbbbcbcbbbbbcbbbbbcbbbbbcbbbbbcbbbbbcbbbbbcbbbb",
   "bcbbbbbcbbbbbcbbbbbcbbbbbcbbbbbcbbbbbcbbbbbcbbbbbcbbbbbcbbbbbcbbbbbcbbbbbcbbbbbcbbbbbcbbbbbc",
   "bbbbbJhbbcbbbbbcbbbbbcbbbbcXbUpbbPabbQebbcbbbbbcbbbbbPwbbcbbbbbPubbPubbcbbbcbGcbbPobbPqbbcbb",
   "bbbPubbPybbHmbbQgbbQcbbcbbbbbMobbEVXybbQgbbQkbbKabbQmbbcbbbbbcbbbbbcbbbbbQubbcbbbbbQudbcbbbb",
   "bQubbcbbbbbQsbbQsbbcbbbbbcbbbbbQwbbcbbbdbcbbbcbEifccebcbcbcdbbccebcbcbcdbbccebcbcbcdbbbcbbbb",
   "bcbbbbbcbbbbbcbbbbbcbbbbbcbbbbbcbbbbbcbbbbbGbbbcbbbbbcbbbbbcbbbbbcbbbbbcbbbbbcbbbbbcbbbbbcbb",
   "bbbcbbbcccebcbcbcdbbbcbbbbbHlbbEhbbcbbbbbcbbbbbcbbbbbcbbbbbcbbbbbcbbbbbcbbbbbcbbbbbcbbbbbcbb",
   "bbbcbbbbbcbbbbbcbbbbbcbbbbbcbbbbbcbbbbbcbbbbbcbbbbbcbbbbbcbbbbbJzcbcbbbbbcbbbbbcbbbbbcbbbbbc",
   "bbbbbcbbbbbcbbbbbcbbbbbcbbbhbBFYkbbcbbbbbMnbbBFYebbBFZybbBFZybbcbbbbbOzbbFibbFmbbcbbbbbcbbbb",
   "bcbbbbbcbbbbbcbbbbbBFXmbbBFXgbbBFXkbbQdbbPvcbPtbbPtcbPncbPpbbEVFiebPtbbEVFacbPxbbEVHebbEVCib",
   "bEVEmcbQbbbQfbbEVEmbbBFUkbbEVEgdbQfcbBFUwbbQjdbQlibBFTedbQtcbEVEkbbQtebEVCmbbQtbbFhbbQrbbQrb",
   "bFlgbQvlbEVAwbbEVAqGldGmIyVOsBrbcbbbbbcbbbdbcbbbebKabbKabbKacbIyhbCycbCwbbCwbbCwcbEycbEwbbEw",
   "bbVKobbCmbcCmEubbCmbbCmbcCmHkbbCmbbCmbdCmEkHcbdGlCmVIgbcCmGqbbCmbcCFdCmbbCmbbCmbbCmbcCmEebcC",
   "mGeccCkCmbbCmbbCmbcCmDqbbCmbbCmbcCmWIsbbCmbbCmbbCxbbCvbbCvbbCvbbVJibbClbcClCibbClbbClbcClEyb",
   "bClbbClbdClByEqbdIxClVFubcClEebbClbcCHpClbbClbbClbbClbcClBsbcClDsbcCjcbcClbbbClbbClbcClBebbC",
   "lbbClbcClWGgbbClbbClbbExbbEvbbEvbbqbcEtChbdEjBxCsecDpBdbcEdBrbbpbbcbbbbbcbbbbbcbbbbbcbbbbbcb",
   "bbbbcbbbbbcbbbbbcbbbbbcbbbbbcbbbbbcbbbbbcbbbbcGpEdbcGdDrbbobbIxbdHbEpCrbcHjExcbcbbbbbnbbcbbb",
   "cbJzbbJzbbJzbbGebbGebbGebbGebbGebbGebbGebbGebbGebbGebbGebbGebbGebbGebbGebbGebbCmbbCmbcCmSNcb",
   "bCmbcCmSNabbCmbbCmbbCmbbCmbbCmbbCmbbCmbbCmbbCmbcCmSMibbCmbbCmbcCmSMebdCmSMeSMgbbCmbbCmbbCmbb",
   "CmbbCmbbCmbbCmbcCmSLsbbCmbbCmbbCmbbCmbbCmbbClbbClbcClSKqbbClbcClSKobbClbbClbbClbbClbbClbbClb",
   "bClbbClbbClbcClSJwbbClbbClbcClSJsbdClSJsSJubbClbbClbbClbbClbbClbbClbbClbcClSJgbbClbbClbbClbb",
   "ClbbClbbGdbbGdbbGdbbGdbbGdbbGdbbGdbbGdbbGdbbGdbbGdbbGdbbGdbbGdbbGdbbGdbbcbbbbccSHmbcbSHkbbcb",
   "bbbbcbbbbbcbbbbbcbbbbbcbbbbbcbbbbbcbbbbbcbbbbbcbbbbbcbbbbbcbbbbbcbbbbbcbbbbbcbbbbbcbbbjbcbbb",
   "bbcbbbbbcbbbbbcbbbbbcbbbbbcbbbbbcbbbbbcbbbbbcbbbbbcbbbbbcbbbbbcbbbbbcbbbbbcbbbbbcbbbbbcbbbbb",
   "cbbbbbcbbbbbcbbbbbcbbbbbcbbbbbcbbbbbcbbbbbcbbbbbcbbbbbcbbbbbcbbbbbBebbcbbbbbcbbbbbcbbbbbcbbb",
   "bbcbbbbbcbbbbbcbbbbbBdbbcbbbbbcbbbbbcbbbbbcbbbbbcbbbbbcbbbbbcbbbbbcbbbbbcbbbbbcbbbbbcbbbbbcb",
   "bbbbcbbbbbcbbbbbcbbbbbcbbbbbcbbbbbcbbbbbcbbbbbcbbbbbcbbbbbcbbbbbcbbbbbcbbbbbcbbbbbcbbbbbcbbb",
   "bbcbbbbbcbbbbbcbbbbbcbbbbbcbbbbbcbbbbbcbbbbbcbbbbbcbbbbbcbbbbbcbbbbbcbbbbbcbbbbbcbbbbbcbbbbb",
   "cbbbbbcbbbbbcbbbbbcbbbbbcbbbbbcbbbcbDsbbDsbbDsbbDsbbDsbbDsbbDsbbDsbbDsbbDsbbDsbbDsbbDsbbDsbb",
   "DsbbDsbbDsbbDsbbDsbbDsbbDsbbDsbbDsbbDsbbDsbbDsbbDsbbDsbbDsbbDsbbDsbbDsbbDsbbDsbbDsbbDsbbDsbb",
   "DslbDrbbDrbbDrbbDrbbDrbbDrbbDrbbDrbbDrbbDrbbDrbbDrbbDrbbDrbbDrbbDrbbDrbbDrbbDrbbDrbbDrbbDrbb",
   "DrbbDrbbDrbbDrbbDrbbDrbbDrbbDrbbDrbbDrbbDrbbDrbbDrbbDrbbDrbbDrEFibVMubbVMubbVMubbVMubbVMubbV",
   "MubbVMubbVMubbVMubbVMubbVMubbVMubbVMubbVMubbVMubbVMubbVMubbVMubbVMubbVMubbVMubbVMubbVMubbVMu",
   "bbVMubbVMubbVMubbVMubbVMubbVMubbVMubbVMubbVMubbVMubbVMubbVMubbVMubbVMucbVMugbVMudbIXkbbIXkbb",
   "IXkbbIXkbbIXkbbIXkbbIXkbbIXkbbIXkbbIXkbbIXkbbIXkbbIXkbbIXkbbIXkbbIXkbbIXkbbIXkbbIXkbbIXkbbIX",
   "kbbIXkbbIXkbbIXkbbIXkbbIXkbbIXkbbIXkbbIXkbbIXkbbIXkbbIXkbbIXkbbIXkbbIXkbbIXkbbIXkbbIXkbbIXkb",
   "bIXkbbIXkbbIXkbbIXkdbIXkbbIXkbbIXkZxbEKZobbEKZobbEKZobbEKZobbEKZobbEKZobbEKZobbEKZobbEKZobbE",
   "KZobbEKZobbEKZobbEKZobbEKZobbEKZobbEKZobbEKZobbEKZobbEKZobbEKZobbEKZobbEKZobbEKZobbEKZobbEKZ",
   "obbEKZobbEKZobbEKZobbEKZobbEKZobbEKZobbEKZobbEKZobbEKZobbEKZobbEKZobbEKZobbEKZobbEKZobbEKZob",
   "bEKZobbEKZobbEKZobbEKZobbEKZobbEKZobbEKZobbEKZobbEKZobbEKZobbEKZobbEKZobbEKZobbEKZobbEKZobbE",
   "KZobbEKZobbEKZobbEKZobbEKZobbEKZobbEKZobbEKZobbEKZobbEKZobbEKZobbEKZobbEKZobbEKZobbEKZobbEKZ",
   "obbEKZobbEKZobbEKZobbEKZobbEKZobbEKZobbEKZobbEKZobbEKZobbqbbqbbqbbqbbqbbqdbpbbpbbpbbpbbpbbpD",
   "FvcSNbSKpbcSMzSKnbcSMhSJvbcSMdSJrbdSMdSJrcbdSMfSJtbbcSLrSJfbcSHlSHjbcEAIuEAIwbbcbbbgbIXjbbIX",
   "jbbIXjbbIXjbbIXjbbIXjbbIXjbbIXjbbIXjbbIXjbbIXjbbIXjbbIXjbbIXjbbIXjbbIXjbbIXjbbIXjbbIXjbbIXjb",
   "bIXjbbIXjbbIXjbbIXjbbIXjbbIXjbbIXjbbIXjbbIXjbbIXjbbIXjbbIXjbbIXjbbIXjbbIXjbbIXjbbIXjbbIXjbbI",
   "XjbbIXjbbIXjbbIXjbbIXjdbIXjbbIXjbbIXjHebEANwebLHkrbEARwEkbcbbbbbcbbbbbcbbbbbcbbbbbcbbbbbcbbb",
   "bbcbbbbbcbbbbbcbbbbbcbbbbbcbbbbbcbbbbbcbbbbbcbbbbbcbbbbbcbbbbbcbbbbbcbbbbbcbbbbbcbbbbbcbbbbb",
   "cbbbbbcbbbbbcbbbbbcbbbbbcbbbbbcbbbbbcbbbbbcbbbbbcbbbbbcbbbbbcbbbbbcbbbbbcbbbbbcbbbbbcbbbbbcb",
   "bbbbcbbbbbcbbbbbcbbbbbcbbbbbcbbbbbcbbbbbcbbbbbcbbbbbcbbbbbcbbbbbcbbbbccEobcbEmbbcbbbbbcbbbbb",
   "cbbbbbcbbbbbcbbbbbcbbbbbcbbbbbcbbbbbcbbbbbcbbbbbcbbbbbcbbbbbcbbbbbcbbbbbcbbbbbcbbbbbcbbbbbcb",
   "bbbbcbbbbbcbbbbbcbbbbbcbbbbbcbbbbbcbbbbbcbbbbbcbbbgcEnEldbWNtcbcbbbbbcbbbbbcbbbbbcbbbbbcbbbb",
   "bcbbbbbcbbbbbcbbbbbcbbbbbcbbbbbcbbbbbcbbbbbcbbbbbcbbbbbcbbbbbcbbbbbcbbbbbcbbbbbcbbbbbcbbbbbc",
   "bbbbbcbbbbbcbbbbbcbbbbbcbbbbbcbbbbbcbbbbbcbbbbbcbbbbbcbbbbbcbbbbbcbbbbbcbbbbbcbbbbbcbbbbbcbb",
   "bbbcbbbbbcbbbbbcbbbbbcbbbbbcbbbbbcbbbbbcbbbbbcbbbbbcbbbbbcbbbbbcbbbbbcbbbbbqbbqbbqbbqbbqbbqb",
   "bqbbqbbpbbpbbpbbpbbpbbpbbpbbpbbqbbqbbqbbqbbqbbqdbpbbpbbpbbpbbpbbpdbqbbqbbqbbqbbqbbqbbqbbqbbp",
   "bbpbbpbbpbbpbbpbbpbbpbbqbbqbbqbbqbbqbbqbbqbbqbbpbbpbbpbbpbbpbbpbbpbbpbbqbbqbbqbbqbbqbbqdbpbb",
   "pbbpbbpbbpbbpebqcbqcbqcbqcbpcbpcbpcbpbbqbbqbbqbbqbbqbbqbbqbbqbbpbbpbbpbbpbbpbbpbbpbbpbbFsbbF",
   "sbbGqbbGqbbGqbbGqbbHsbbHsbbJwbbJwbbIqbbIqbbJsbbJsdbqbbqbbqbbqbbqbbqbbqbbqbbpbbpbbpbbpbbpbbpb",
   "bpbbpbbqbbqbbqbbqbbqbbqbbqbbqbbpbbpbbpbbpbbpbbpbbpbbpbbqbbqbbqbbqbbqbbqbbqbbqbbpbbpbbpbbpbbp",
   "bbpbbpbbpbbqbbqcbsfbpbbpbbFrbbFrbbrcdVOrVIfVFtfbsfbGpbbGpbbGpbbGpbbrebqbbqcbVKnfbpbbpbbHrbbH",
   "rfbqbbqcbVJhcbodbpbbpbbIpbbIpbbnhbsfbJvbbJvbbJrbbJrbbrLmcWIrWGfecYXhYUvbcYNzYLnhbCeBcbCdsbBg",
   "bbBgbbBgbbBgbbBgbbBgbbBgbbBgbbBgbbBgbbBgbbBgbbBgbbBgbbBgbbBgbbBfbbBfbbBfbbBfbbBfbbBfbbBfbbBf",
   "bbBfbbBfbbBfbbBfbbBfbbBfbbBfbbBfebcbbbBFmbCabbCabbCabbCabbCabbCabbCabbCabbCabbCabbCabbCabbCa",
   "bbCabbCabbCabbCabbCabbCabbCabbCabbCabbCabbCabbCabbCabbBzbbBzbbBzbbBzbbBzbbBzbbBzbbBzbbBzbbBz",
   "bbBzbbBzbbBzbbBzbbBzbbBzbbBzbbBzbbBzbbBzbbBzbbBzbbBzbbBzbbBzbbBzCRvbDsbbDsbbDsbbDsbbDsbbDsbb",
   "DsbbDsbbDsbbDsbbDsbbDsbbDsbbDsbbDsbbDsbbDsbbDsbbDsbbDsbbDsbbDsbbDsbbDsbbDsbbDsbbDsbbDsbbDsbb",
   "DsbbDsbbDsbbDsbbDsbbDsbbDsbbDsbbDsbbDsbbDsbbDsbbDsbbDsbbDsbbDsbbDsbbDsbbDsbbDrbbDrbbDrbbDrbb",
   "DrbbDrbbDrbbDrbbDrbbDrbbDrbbDrbbDrbbDrbbDrbbDrbbDrbbDrbbDrbbDrbbDrbbDrbbDrbbDrbbDrbbDrbbDrbb",
   "DrbbDrbbDrbbDrbbDrbbDrbbDrbbDrbbDrbbDrbbDrbbDrbbDrbbDrbbDrbbDrbbDrbbDrbbDrbbDrbbDrbbcbbbbbBF",
   "UjbbLHjbbBFTdbbBFYjbbBFYdbbcbbbbbcbbbbbcbbbbbBFXfbbBFUvbbBFXlbbBFXjcbcbbbcbcbbbibBFZxbbBFZxb",
   "bcbbbbbcbbbbbcbbbbbcbbbbbcbbbbbcbbbbbcbbbbbcbbbbbcbbbbbcbbbbbcbbbbbcbbbbbcbbbbbcbbbbbcbbbbbc",
   "bbbbbcbbbbbcbbbbbcbbbbbcbbbbbcbbbbbcbbbbbcbbbbbcbbbbbcbbbbbcbbbbbcbbbbbcbbbbbcbbbbbcbbbbbcbb",
   "bbbcbbbbbcbbbbbcbbbbbcbbbbbcbbbbbcbbbbbcbbbbbcbbbbbcbbbbbcbbbbbcbbbbbcbbbbbcbbbbbcbbbbbcbbbb",
   "bcbbbbbcbbbbbcbbbbbcbbbibcbbbbbcbbbebcbbbnbVMtbbVMtbbVMtbbVMtbbVMtbbVMtbbVMtbbVMtbbVMtbbVMtb",
   "bVMtbbVMtbbVMtbbVMtbbVMtbbVMtbbVMtbbVMtbbVMtbbVMtbbVMtbbVMtbbVMtbbVMtbbVMtbbVMtbbVMtbbVMtbbV",
   "MtbbVMtbbVMtbbVMtbbVMtbbVMtbbVMtbbVMtbbVMtbbVMtcbVMtgbVMtBTWdbcbbbbbcbbbbbcbbbbbcbbbbbcbbbbc",
   "EAItcbcEAIvbbbcbbbbbcbbbbbcbbbbbcbbbbbcbbbbbcbbbbbcbbbbbcbbbbbcbbbbbcbbbbbcbbbbbcbbbbbcbbbbb",
   "cbbbbbcbbbbbcbbbbbcbbbtbcbbbbbcbbbbbcbbbbbcbbbbbcbbbbbcbbbbbcbbbbbcbbbbbcbbbbbcbbbbbcbbbbbcb",
   "bbbbcbbbbbcbbbFfbcbbbbbcbbbbbcbbbbbcbbbbbcbbbbbcbbbbbcbbbdbcbbbbbcbbbbbcbbbbbcbbbbbcbbbbbcbb",
   "bbbcbbbbbcbbbbbcbbbbbcbbbbbcbbbbbcbbbbbcbbbbbcbbbbbcbbbbbcbbbbbcbbbbbcbbbbbcbbbbbcbbbbbcbbbb",
   "bcbbbbbcbbbbbcbbbbbcbbbbbcbbbbbcbbbbbcbbbbbcbbbbbcbbbbbcbbbkbcbbbbbcbbbbbEANvbbcbbbbbcbbbbbc",
   "bbbbbcbbbbbcbbbebcbbbbbEVChdbcbbbbbcbbbbbDscbcbbbbbcbbbbbcbbbbbcbbbbbcbbbbbcbbbbbcbbbbbcbbbb",
   "bcbbbbbcbbbbbEVElbbEVFhbbEVEzbbEVEfbbEVElcbEVApbbEVClbbEVAvbbCTkbbcbbbbbcbbbbbcbbbbbcbbbbbcb",
   "bbbbcbbbbbcbbbbbcbbbbbDrbbEVEjbbEARvbbcbbbbbcbbbbbEVHdbbcbbbdbcbbbfbcbbbbbcbbbbbcbbbbbEVXxzb",
   "cbbbBHdbCTjBdbEKZnbbEKZnbbEKZnbbEKZnbbEKZnbbEKZnbbEKZnbbEKZnbbEKZnbbEKZnbbEKZnbbEKZnbbEKZnbb",
   "EKZnbbEKZnbbEKZnbbEKZnbbEKZnbbEKZnbbEKZnbbEKZnbbEKZnbbEKZnbbEKZnbbEKZnbbEKZnbbEKZnbbEKZnbbEK",
   "ZnbbEKZnbbEKZnbbEKZnbbEKZnbbEKZnbbEKZnbbEKZnbbEKZnbbEKZnbbEKZnbbEKZnbbEKZnbbEKZnbbEKZnbbEKZn",
   "bbEKZnbbEKZnbbEKZnbbEKZnbbEKZnbbEKZnbbEKZnbbEKZnbbEKZnbbEKZnbbEKZnbbEKZnbbEKZnbbEKZnbbEKZnbb",
   "EKZnbbEKZnbbEKZnbbEKZnbbEKZnbbEKZnbbEKZnbbEKZnbbEKZnbbEKZnbbEKZnbbEKZnbbEKZnbbEKZnbbEKZnbbEK",
   "ZnbbEKZnbbEKZnbbEKZnbbEKZnbbEKZnBEAobcbbbBOlbCmbbCmbbCmbbCmbbCmbbCmbbCmbbCmbbCmbbCmbbCmbbCmb",
   "bCmbbCmbbCmbbCmbbCmbbCmbbCmbbCmbbCmbbCmbbCmbbCmbbCmbbCmhbClbbClbbClbbClbbClbbClbbClbbClbbClb",
   "bClbbClbbClbbClbbClbbClbbClbbClbbClbbClbbClbbClbbClbbClbbClbbClbbClBTubDcbbDcbbDcbbDcbbDcbbD",
   "cbbDcbbDcbbDcbbDcbbDcbbDcbbDcbbDcbbDcbbDcbbDcbbDcbbDcbbDcbbDcbbDcbbDcbbDcbbDcbbDcbbDcbbDcbbD",
   "cbbDcbbDcbbDcbbDcbbDcbbDcbbDcbbDcbbDcbbDcbbDcbbDbbbDbbbDbbbDbbbDbbbDbbbDbbbDbbbDbbbDbbbDbbbD",
   "bbbDbbbDbbbDbbbDbbbDbbbDbbbDbbbDbbbDbbbDbbbDbbbDbbbDbbbDbbbDbbbDbbbDbbbDbbbDbbbDbbbDbbbDbbbD",
   "bbbDbbbDbbbDbbbDbbbDbDtbDcbbDcbbDcbbDcbbDcbbDcbbDcbbDcbbDcbbDcbbDcbbDcbbDcbbDcbbDcbbDcbbDcbb",
   "DcbbDcbbDcbbDcbbDcbbDcbbDcbbDcbbDcbbDcbbDcbbDcbbDcbbDcbbDcbbDcbbDcbbDcbbDcfbDbbbDbbbDbbbDbbb",
   "DbbbDbbbDbbbDbbbDbbbDbbbDbbbDbbbDbbbDbbbDbbbDbbbDbbbDbbbDbbbDbbbDbbbDbbbDbbbDbbbDbbbDbbbDbbb",
   "DbbbDbbbDbbbDbbbDbbbDbbbDbbbDbbbDbEnbDabbDabbDabbDabbDabbDabbDabbDabbDabbDabbDacbDabbDabbDab",
   "bDabbDabbDabbDabbDabbDabbDabbDabbDabbDabbDabbDacbDabbDabbDabbDabbDabbDabbDacbDabbDacbCzbbCzb",
   "bCzbbCzbbCzbbCzbbCzbbCzbbCzbbCzbbCzcbCzbbCzbbCzbbCzbbCzbbCzbbCzbbCzbbCzbbCzbbCzbbCzbbCzbbCzb",
   "bCzcbCzbbCzbbCzbbCzbbCzbbCzbbCzcbCzbbCzCOqbEybbEybbEybbEybbEybbEybbEybbEybbEybbEybbEybbEybbE",
   "ybbEybbEybbEybbEybbEybbEybbEybbEybbEybbEybbEybbEybbEybbEybbEybbEybbEybbEybbEybbEybbEybbEybbE",
   "ybbEybbEybbEybbEybbEybbEybbEybbEybbEybbEybbEybbEybbEybbEybbEyobExbbExbbExbbExbbExbbExbbExbbE",
   "xbbExbbExbbExbbExbbExbbExbbExbbExbbExbbExbbExbbExbbExbbExbbExbbExbbExbbExbbExbbExbbExbbExbbE",
   "xbbExbbExbbExbbExbbExbbExbbExbbExbbExbbExbbExbbExbbExbbExbbExbbExbbExbbExbbExbbExDqbCmbbCmbb",
   "CmbbCmbbCmbbCmbbCmbbCmbbCmbbCmbbCmbbCmbbCmbbCmbbCmbbCmbbCmbbCmbbCmbbCmbbCmbbCmlbClbbClbbClbb",
   "ClbbClbbClbbClbbClbbClbbClbbClbbClbbClbbClbbClbbClbbClbbClbbClbbClbbClbbClEFjbCmbbCmbbCmbbCm",
   "bbCmbbCmbbCmbbCmbbCmbbCmbbCmbbCmbbCmbbCmbbCmbbCmbbCmbbCmbbCmbbCmbbCmbbCmbbCmbbCmbbCmbbCmbbCm",
   "bbCmbbCmbbCmbbCmbbCmbbClbbClbbClbbClbbClbbClbbClbbClbbClbbClbbClbbClbbClbbClbbClbbClbbClbbCl",
   "bbClbbClbbClbbClbbClbbClbbClbbClbbClbbClbbClbbClbbClbbClBGIrbCmbbCmbbCmbbCmbbCmbbCmbbCmbbCmb",
   "bCmbbCmbbCmbbCmbbCmbbCmbbCmbbCmbbCmbbCmbbCmbbCmbbCmbbCmbbCmbbCmbbCmbbCmbbCmbbCmbbCmbbCmbbCmb",
   "bCmbbClbbClbbClbbClbbClbbClbbClbbClbbClbbClbbClbbClbbClbbClbbClbbClbbClbbClbbClbbClbbClbbClb",
   "bClbbClbbClbbClbbClbbClbbClbbClbbClbbClBUKfbCqbbCqbbCqbbCqbbCqbbCqbbCqbbCqbbCqbbCqbbCqbbCqbb",
   "CqbbCqbbCqbbCqbbCqbbCqbbCqbbCqbbCqbbCqbbCqbbCqbbCqbbCqbbCqbbCqbbCqbbCqbbCqbbCqbbCqbbCqbbCpbb",
   "CpbbCpbbCpbbCpbbCpbbCpbbCpbbCpbbCpbbCpbbCpbbCpbbCpbbCpbbCpbbCpbbCpbbCpbbCpbbCpbbCpbbCpbbCpbb",
   "CpbbCpbbCpbbCpbbCpbbCpbbCpbbCpbbCpbbCp"]

end QueryFunctions.Unicode
