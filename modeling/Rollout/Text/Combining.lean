import Rollout.Text.CharSet

/-!
# Combining classes

Marks that follow a letter have a class each, which says where they are placed at the letter. Marks
of different classes may be exchanged; characters of class 0 are no such marks.
-/

namespace Rollout.Text

/-- The classes other than 0, with their characters given as the runs of a set. -/
def combiningClasses : List (Nat × List String) :=
  [(1, ["bfOFjsDBNHbmNCEDKCDCdkjDBbkqGFbeyBBhwQD"]), (6, ["fjiUC"]),
   (7,
    ["dmYBeXBeXBeXBeXBjVBeXBbiGBeeEBgVBdCBcbpBBbnaKBhCBdIBeDBgWBdDCkFBeUBjSBjMBoWBkEBbnIBczgXB"]),
   (8, ["skNC"]),
   (9,
    ["dnPBeXBeXBeXBeXBeXBeXBeXBeFCQBeUBeHBeXBhTBgYCcpLCbEBgBBzDBiTBdXCcSCgqTBbukKBbLBfVBfMBeEB",
     "lXBjMBbjsRBchIBbPBOBcFBeRCfJBeMBgYBdUBeYDeJBeXBjSBeXBeOBeMBkJBjZCgFBdFBSBdDBqFBkACdDBqJC",
     "yzCB"]),
   (10, ["ceAB"]), (11, ["ceBB"]), (12, ["ceCB"]), (13, ["ceDB"]), (14, ["ceEB"]), (15, ["ceFB"]),
   (16, ["ceGB"]), (17, ["ceHB"]), (18, ["ceIBOB"]), (19, ["ceJC"]), (20, ["ceLB"]),
   (21, ["ceMB"]), (22, ["ceNB"]), (23, ["cePB"]), (24, ["ceRB"]), (25, ["ceSB"]),
   (26, ["drcOB"]), (27, ["cjZBbaAB"]), (28, ["ckABbaAB"]), (29, ["ckBBbaAB"]), (30, ["ciABcBB"]),
   (31, ["ciBBcBB"]), (32, ["ciCBcBB"]), (33, ["ckFB"]), (34, ["ckGB"]), (35, ["clKB"]),
   (36, ["crPB"]), (84, ["erLB"]), (91, ["erMB"]), (103, ["fkAC"]), (107, ["fkQE"]),
   (118, ["foYC"]), (122, ["fpOE"]), (129, ["fwBB"]), (130, ["fwCBHECB"]), (132, ["fwEB"]),
   (202, ["beVCECkcLB"]), (214, ["lhMB"]), (216, ["bePBepHBgomLCHF"]), (218, ["ljEBgxBB"]),
   (220,
    ["beKECFCECLFEKDDCEECCvUBEBEBGGCBbABfNCFBCBfBBGBCBcPBCBCDBCBBDBBBBBBBgNBKBdNDcJDbZFPBCBCBD",
     "DGBCCdJBceVCbBBBBfMBhQBdhLBiMBdYBcBGCBBCCCFBSBIBfDBnWFCENBiEBHBEBbPBDBBBbcQBDEbzpJDpAB",
     "bfpQHblNBiSBcsQBbSBgPBboDCBDcSCDBBEbYBBBcvlTIHChiWBjWBbcIH"]),
   (222, ["cdEBSBhkLBirZB"]), (224, ["sgKC"]), (226, ["gugRB"]), (228, ["cdYBheWBcaFCgxEB"]),
   (230,
    ["bdOVbOIBBDDDDEBDBHNkPFkGEBDCGGCBCCBUBcXIcHCCFBCePHCEBBCCCCcPBBCBCDBCBBDBBBBBBBCgEHBBbIEB",
     "JBDBFeBCDEbQFFOCCBCBDGDBCCFdDBBCgNBccHCCCblTDbsFBnKBiMBdPIbZFGCECCFBSDGBEeYBBHnKDHCEBTBD",
     "ChQCBHBCEbLFBCBbbTCCEDCEBFBBBGBeoCDjEbGbtpVBEKbGCdCCtASrEBBCDCFCBBbfoWHHCbzYFcmUBbOBgQB",
     "wCEcNFmFCfZDBBcBBBBoPDxNHDFiZBbgwVHbmtIFbGEfSDffFHBRCHBCBFdWBgEHoLBcJEtRBjUBjKBCBHCFBwSG"]),
   (232, ["beJBEBcJBkcBBgxHBgjkHC"]), (233, ["bhCBCBCBkbXB"]), (234, ["bhDCBCixTBbcJB"]),
   (240, ["bgFB"])]

/-- The combining class of a character. -/
def combiningClass (c : Char) : Nat :=
  if c.toNat < 0x300 then 0
  else
    ((combiningClasses.find? fun (_, runs) => (CharSet.ofRuns runs).contains c).map (·.1)).getD 0

/-- The class of the marks that take the vowel from a letter. -/
def viramaClass : Nat := 9

end Rollout.Text
