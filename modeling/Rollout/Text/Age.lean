import Rollout.Text.CharSet

/-!
# Ages of characters

Which version of the Unicode standard each code point was first assigned in: `Age.upTo` is the set
of those that a version knows, and `Age.after` of those that came later.
-/

namespace Rollout.Text.Age

/-- The code points that each version assigned, given as the runs of a set. -/
def table : List ((Nat × Nat) × List String) :=
  [((1, 1),
    ["AtIEbEcEdLHbVBKWcSbACSCEBDBFHBBBUBbSBHDBBBBBBBBSNMBcOBMBbPJcBCCCCDbCCICCcDbMCHBbNBBbMKBJMbBF",
     "FXBOBDBBbAFTNOCcUCFBPBbECKtZDBcBCSCFDZQDBICCCWBHBBDECBBHCCCDJBECBFCVHBCGECCWBHBCBCBCCBBFECCD",
     "LEBBHPMDBHBBBDBWBHBCBFCKBDBDCBPBFKRDBICCCWBHBCCECIDCCDICECBDELRCBGDDBEDCBBBCDCDDDIBDEFDDBEJB",
     "PMODBIBDBXBKBFEHBDBEHCJCEKSCBIBDBXBKBFEHBDBEHCHBBCEKSCBIBDBXBQEGCDBEJBICEKfPcGEbDbLCBBCCBBCB",
     "GEBHBDBBBBCCBNBDCFBBBGCKCCrIbMKbNEBEdMFcQFdEeoKfZFdMGWCGCbMCGCIBBBBBBBbFCcBBPBOCGBTCDBJBbVBX",
     "bJHDbBRLbLSbEcFbAbWNdNVjIOBBeRfDbLbBLVfJVfUKdCQUGdIfPEBECbCBbJBBBEDBBHCHObFDYBOddHcEHBBdGEGC",
     "dQGbOEdQBQdSbDDbKbCbCDbYPMEbVBePEdVCbFjwBbexYyjQjxUiCHMFGZBFBBBCBCBeEbHoBQcMCcCbOMbKEMVEKBTB",
     "EEDBBBfFCBBdQCdQDGCGCGCDDHBHOD"]),
   ((2, 0),
    ["ccVRBNUBdmXcUBbHHbBEGBBBVDHBBfqNBuHBcatWqnSdOdaUefbQCdsyOCdsyOCdsyOCdsyOCdsyOCdsyOCdsyOCdsyO",
     "CdsyOCdsyOCdsyOCdsyOCdsyOhlxI"]),
   ((2, 1), ["mjSBdgoTB"]),
   ((3, 0),
    ["tIEbEICSeNFbXBKFdJJTBeMBDBBBBBBBbEBMBcOBMBbQCCEdOCgABhSDdUCFBPBbQFBOBbEDbBcBbXcfHCBSDYBJBBCH",
     "DBEGBBBISDoJBbRBXDHBBDBPCBbWbIBFBCBHDEGbAqGHBcLBBBECHBBBECbNBBBECbFBBBECHBBBECHBHBXBbFBBBECH",
     "BbNBTGbCbJdHMyGJbDDdDfNdPDKWPBKGdKIbQcwBBYGdRDbYCdHCcUBdZJkJBeRBBbEfICrPIbHBdICpIjWccEbABdLM",
     "iGbAMcIDDBnPYwMjtEbfeGbsVDSCQBMBDBBbgsCBbvVD"]),
   ((3, 1),
    ["bmYCdqqCbGbxWbFBEMbBgZbMCbMczdQjMKbNDgYvAdHBcTBCCBCCCEBMBBBEBCBcNBECIBHBbCBEBFBBDHBnAElEEbY",
     "pdWcleTbetDuWbpcqTBbEdS"]),
   ((3, 2),
    ["uYBlQBTNeACbCBfRCcFCCCCCbXQnMCmJBdnHCchJNBHLXJUMNBDBCdiXBGFEBHFNBcKCbYHdEPgMMjIOeUBbEcAkYUfV",
     "KdKIWCdMMCKiOOdMbCEQjWtSbzNDdJCICdQBjGQdDPdDPbrdICQBMBDBbgjAcHbjDBDQcBCbSBjBC"]),
   ((4, 0),
    ["uZBSDePCcLRdCIFDfVFtWEJJcMDfTCPBbTDbDDqUBhCBcPBBBfGBdGDNBcPBcHBeZIhLCefNBSKkCbDDMEMEBDbQCFeD",
     "bGbdOeEbcPCiWBzJClQBkQCeMIOCbrAOcrNCbXBbRCdAEgLEdVCbFBjtOcMcoqVBcVCqXMBbABTBCBPCObIeTFDEbTDJ",
     "wEbEBBfECbMdCCKbgWGCBBbSBCDBCBcyuIdJnYBbtkdAjG"]),
   ((4, 1),
    ["vVLkSFgDEjMCgOBbIDcPBSBcGGjHbEuHBdCBsTBbVBbmNClJCBBkGBcLBcLBbNBbFBbFBbFBPBbNBXCbFbAcgCbQGbAG",
     "KECbGbCCCbgMdKzHCBHbXFbDEcBBdCBPByULwABdXCSLFQkKHbgHGjCbVBbVbHeDObTKcCJBQXJHBHBHBHBHBHBHBHbH",
     "YECbjUQgSBbpiTWctOXiZbSbfeAeCbfQKbfAcXuNbKEOciSEBCFIBDBbBEDEJIJcxpVcSbrAC"]),
   ((5, 0),
    ["wGOlNDmZBbQGQEgKBtXcHoUCBCbhICNCfiJcYEbTwLHbZCbcUEdPCcBBxBMbbMBkQEbgJHFEmENHEbulJEFClAcEbkoM",
     "bAFBirGbhVfPdVNEcogISbqUC"]),
   ((5, 1),
    ["bhWECCdJBhBBfKQiSFLFbGFlQStDCiOBbJBhYBbDCeEBeEBbACICUIhHBGBbDCMGDHsXCdTBDDcZBFBCBHDEGbAcMEC",
     "dbEBbbXbRDMcScEDPDbZmTbCgZEdMGnSBfJBdQBcBEbyABVKDEkEBbFEbfFFEbPDFkUDBDEGnQbGYECTbdKBgGUbppOI",
     "bzOlOUbGCSIbCfBFCeDeGFeYcRJMbMdGLBgEcDJOCKCEbfsUDbhPMcAbUfAbDDbXckDbAFBcxsJBlrQbSEdW"]),
   ((5, 2),
    ["byQCbcCbUCPhLBcZBGBbJCeYBcfPEhLEhGFcQFdEGtSByGJvOcSgYCbUBcRcLBbDCLGKGOvAbJkGBbaUDfVDcCBxIB",
     "baRCbDDEKBTBBEYdJBbnHFkSBNCeDHmHBboCMbplSIbxKbWqAdKmAKgKbCdWbDDdABLECeYbCEcPYFiQbUCKqoKXEbX",
     "nbBDfgCWBJhECmMbGeYcCDbDCbBFIeYcVuPbFtTcOlvQbpFctnDLFbFCBLBBBCBDBDFIBHBZBBCCBKECBeHBPbIOJ",
     "cqlJgdP"]),
   ((6, 0),
    ["bySCjOBcKBsMbCCBiLCTBGCbBFtMGqRBQBTBwBEcVCbiOCdeNcAIEtOBzOIbCBbfJLbcCBTBBEbDBECbCBbJBBBEDJC",
     "cADYBOBOCcdKBOBbpODbseNClNCBCOKdCBbdUGCGCGJHBHbemTQhrIdAEbEbheEvXbalBCymGPCOCPBPdCBBLBBBCBDB",
     "DFIBHBKGJBBCCBKECBKcXbABCbVJVCgSbHPGBcSDUMbLBFVRPcLBBBhABEDcKSYfRFBQBDBBBBBBBDBGCEBBCEBMELbW",
     "cScGeMcuqMiO"]),
   ((6, 1),
    ["ccTBeMBzRBBLcDbBtDBbmRCsTBFBbVDebBDMGjWIbREecQBBBbyQCbZBFBcEChUKbraEBcnNIbJBjICWBcZCbcOXbdzZ",
     "CfuUcEGCcrOZHKGcBBOcIcVHKbtUcEIKbhkOcRLbVQRbvwIEBbBBCBBCBBKBEBBBBGBEBBBBBBDBCBBCBBBBBBBBBBCB",
     "BCEBHBEBEBBBKBRFDBFBRcACyICblSEhGBQBDBBBBBBBDBGCEBBCEB"]),
   ((6, 2), ["mkGB"]),
   ((6, 3), ["ciEBjyVE"]),
   ((7, 0),
    ["biLBqIIdPCeOBzRBLGcYBeQBHByPBbZBcYBeXBiUKdkRIvCCpLPvXCjDPbbHDbfQHbdTBbqIDKbACbGCbIDMBIxUH",
     "btoVGjMMLDCCcRBsUbFeVEgUbWECbfiVHbhDCTBmHbCbJBbWbRoZbOIcALBfOlZJWKIjOcLIJrWbGbGbNEMfHSHEMH",
     "bvJBiAbNdIBMBGULSBbReKcHFKHDBICCCWBHBCBFCJCCCDJBFHCHDFkHcUIKgKcCCScCcRLKwKdFMBrGcFdfIbQhUMFB",
     "balFbFBKECdSbECGKcSKKBHBVFTbemAeDFNDJHKCIqkYhPCQczWBbGWVCuMMJBcSBWMbLBFEFMRHcTBBBhABECcLCEH",
     "bDSBbPBdIcSCNbWcSKQNDEfKdHbRMEcEIKGbOIbE"]),
   ((8, 0),
    ["dhRCbUBuNBnOBkABcmVBCGevOBhVCdyEEbrwVJcoUBjGBbIGmMCxMEMdCbffQCebGTBCFFhGCCQCbUyQbZNbZHGbvDEO",
     "FgEHBBBEBPBLdIBdBByJUlEbADPEQerPBiWhOlqQwLcawLLchZzCPFBPjhDDdACdBFbKIjVBcXFjJCfJBwDJdZFcHB",
     "cucLinQ"]),
   ((9, 0),
    ["dhUIWPbjPBhYBEDBHXDfrZJoGBchBEdxCCbtzLBkSBbhqDCbeVbKEbKfaOBrHdMBBBBtUNccXJBbTBOKbDDbGCWBO",
     "bfmVBbFjbPTbdBbgfLHBRCHBCBFdiZcXFKECddBSfMBbfYBbPBlOCbHDvAGBIIBCMBMEPbMN"]),
   ((10, 0),
    ["deMLpLCjSGtSBcGCfyWBjUEbbHBbfZBczAByCFbcMBbpxNVblpIDiqQcUIcACXBFxHHBCBbSDBBCBJIKbfgPByhKkZdD",
     "pGyaEGbrPCbICtZMTBIIBCZBSNbMGcEXdcpDlbL"]),
   ((11, 0),
    ["caYBbNBdYBuFDiDBlMBePBpHBeXBenRBboHbRCDfrMDWZEPwPFbcIBbpyHFcyHBICmMCbkvCCSBbaTbOIKrMbOIbQoHB",
     "eODtGBlEBbaXBiVcIxLBbbEGBCBbLBCBGHKlYZbeaPdNjpIFbcjUUeWHjlWcQbsCBceZBiLEoIDbCFCEDBBEYLNKHCbK",
     "ZdSO"]),
   ((12, 0),
    ["esTBuGBCBCBBGEBHBHCCBNBfkHBfpUBcBBwTBbtzMGCFbjRCbmbGXbrKBxCBbcPICbUCLgDCbzMbYNBhqUJwjKGEBbVJ",
     "dMCjcWGprCDREsaQbTDOCKECoEcGFBcjZBbkNcJbpEBcbGBbKBiVMlDDbVBbXBJBbPGDCKGDICDbWdGbCEEDFDNG"]),
   ((12, 1), ["tiDB"]),
   ((13, 0),
    ["diCKzDBqOBeUBfaJCgjUBbaUDbhOFkpIKbfdGNcySEbQCcBBbfVEbgqQBewXbQBDCCjUbCoPBfECzABFCbtMHCBCIBCB",
     "bEBCCMJKckKBbejRBLCkfXsPbQJblwUDdPDcJBbyUCbJCqTCdMBdXBECbQCGDbDBgMBOEPTHHJDNHbPfRBcDbLKcmsJH",
     "bhtQhhZ"]),
   ((14, 0),
    ["ciFBwWbFBCGIVBSLbhPBbGBeXBdwHBHBJBjFBbaNOeVBbWCyLBbbHBeiOBbVBtFLbraTDcyICOCBBBFYDbftDBoRQeXB",
     "bUCcvGLBPBHBCBLBPBHBCrJGBbQBJcxXbAiWGcYBcgSBfEHbhPQhwYdVwdXdBBKbaeWEBHBClCEliBbUCXJeMvDCeyV",
     "bFbhXbFbzDHBEBCBPfqKDkMBpCBdEBgSCbSEKEIDRDGIIHcncPCgeVE"]),
   ((15, 0),
    ["exNBsGBdtaKDbfZDdiCKbnARBbPDbChxDBJbDbvhKBbIBmrAUerHGkBcKbHBbpWbQguCBfVDEFdLBzRDPCbKDLDBBOCK",
     "CMBOCcthOBbiwSgfG"]),
   ((15, 1), ["seMEtBBkeiQxY"]),
   ((16, 0),
    ["dgPBhcGCbVBkFCcwYDffECbsqVDMDbjoLcActWbMDbDIClUDcDBbsLKBBCBBbMBKBBCBBEBKBCICbcVUbvWbIOKbhGB",
     "hyZfxRkzTcGeoKcGlyJBxwIjQGqUitObREBhcCKECrNBFBbUBHBVBCBJBiRbL"]),
   ((17, 0),
    ["dgHBblKBeXBfhIPCMcfLBecQBbvbBCCBBBbCBbftHQrDCcCHeiRbAcbJDIJbHCesAIwMbSEKbeoSZCZlAFjcJIbxPWdT",
     "eLxwPDrDXPRjaLbFBWICgaABgCEnDJoPEbYBDBcFBEBbCBEBkGBcsxRGiwGMbgfAgjI"])]

/-- The first number of the last version. -/
def latest : Nat := 17

/-- The code points that a version and those before it assigned. -/
def upTo (version : Nat × Nat) : CharSet :=
  let known := table.filter fun (v, _) =>
    v.1 < version.1 || (v.1 == version.1 && v.2 ≤ version.2)
  .unions (known.map fun (_, runs) => .ofRuns runs)

/-- The code points that were assigned after the last version with a given first number. -/
def after (major : Nat) : CharSet :=
  .unions ((table.filter fun (v, _) => major < v.1).map fun (_, runs) => .ofRuns runs)

end Rollout.Text.Age
