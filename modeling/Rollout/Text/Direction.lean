import Rollout.Text.Category

/-!
# Directions

The direction in which a character is written. Texts that mix directions can be read in several
ways; `isUnambiguous` tells which parts of a name may stand next to others in such a text.
-/

namespace Rollout.Text

/-- How a character takes part in the direction of a text. -/
inductive Direction where
  | left
  | right
  | arabicNumber
  | europeanNumber
  /-- A mark, which has the direction of its letter. -/
  | mark
  /-- A separator or symbol, which has the direction of what is around it. -/
  | neutral
  deriving Repr, DecidableEq

namespace Direction

/-- Letters of scripts that are written to the left, given as the runs of a set. -/
def rightRuns : List String :=
  ["ceOBBBCBCBJbBEGTBCBBBNBBbUbIDBEEdPPCHCKUCBBbEbDdLLBObRJCEBDYEBJBDBHPBZFBBLFbGQbQdnzSRbaMBdqAGC",
   "BBbSBCDBCXBcUIJbWTBCFbHEbAFbBbMcEEUCbVPEBDBbDKJHJHcMbGbLGMJcCKWCbBFbAHEMHdCcVePbZHbQbCQbEYjQbQ",
   "DBCCQGIBbVbOIWLJWSEEbMbCUXddvDhPCJdEbIHBEKECbeFcQcYcJ"]

/-- The digits that are used with Arabic letters. -/
def arabicNumberRuns : List String := ["ckUKBCdvnFKlIbF"]

/-- All digits that are used with other letters. -/
def europeanNumberRuns : List String := ["bWKcoCKdrkHbB"]

/-- Separators and symbols. -/
def neutralRuns : List String :=
  ["bHPKHbAGbAEbIHBBBCBBBCECDBDBXBbFBrHCHOCGGCFJBReNBeYBpNBCDeOCBCBBBCdMBeLBKBkIEtKCHBjLBjXIeVHrGB",
   "jQEbqOKdYBzQCmGBUKGLlXBDCfWbIchOCCBBFBMDBIDCBCEBBBIDNBHcNIBZcOBDBLBCCFCDBBBBBBBEBLBGEFEcICEgAC",
   "BCjOCLcRbABfSWLgErHBnBjWkIBdZDdXBfVCfIiVGOHjWdQbIbABEBdFkKBBCDZPBGBFDdSBdMBhObMkoGcMbguIcDmOD",
   "dVBKCeYbIdYBgDEMCcGEbdACbelBQnZScMCcCIbTDcRCbaWBcKcZDNDBcvUBuRHwSCmJIoNUcgWNdoQbDbehCBbiwZiGbK",
   "DDqUGXPRbdGCVcODBhEdJfyEBenOCkKbSEdWMPCPBPBbLVFbFBcJDcJBgWGfYblXDRDNDiKGMEBPMEcEIKGbOIbECMECOJ",
   "bNnGIOCNDLDcFBBEQCMEKHfRBdOKB"]

/-- Marks that are written as letters. -/
def strongMarks : List Nat := [0xCBF, 0xCC6, 0x11A07, 0x11A08, 0x11C3F]

/-- The direction of a character. -/
def of (c : Char) : Direction :=
  if [.nonspacingMark, .enclosingMark].contains (Category.of c) && !(strongMarks.contains c.toNat)
  then .mark
  else if (CharSet.ofRuns europeanNumberRuns).contains c then .europeanNumber
  else if (CharSet.ofRuns neutralRuns).contains c then .neutral
  else if (CharSet.ofRuns rightRuns).contains c then .right
  else if (CharSet.ofRuns arabicNumberRuns).contains c then .arabicNumber
  else .left

end Direction

/-- Whether a text has characters that are written to the left. -/
def hasRightToLeft (ds : List Direction) : Bool :=
  ds.any fun d => d == .right || d == .arabicNumber

/-- Whether a part of a name reads the same whatever stands next to it: it starts with a letter, and
it ends with a letter or number of the direction it starts with, marks apart. -/
def isUnambiguous (ds : List Direction) : Bool :=
  let last := (ds.reverse.dropWhile (· == .mark)).head?
  match ds with
  | [] => true
  | .left :: _ =>
    !(hasRightToLeft ds) && (last == some .left || last == some .europeanNumber)
  | .right :: _ =>
    !(ds.contains .left) && !(ds.contains .europeanNumber && ds.contains .arabicNumber) &&
      (last == some .right || last == some .europeanNumber || last == some .arabicNumber)
  | _ => false

end Rollout.Text
