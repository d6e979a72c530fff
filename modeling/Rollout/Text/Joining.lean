import Rollout.Text.Category

/-!
# Joining

In cursive scripts letters have forms that join to those before and after them. `joinsForward` and
`joinsBackward` tell which letters do, and `isTransparent` which characters stand between them
without a difference.
-/

namespace Rollout.Text

/-- Letters that join on both sides, given as the runs of a set. -/
def dualJoining : List String :=
  ["ciIBFBBBBFENBHBCbJCIQSbMBCJBBBBCbODCBSDFEBJBBBBBCbFLDPCEBBCDCGcWbHdIFCBBKBBKBBECBbDBCFBBQKFCCG",
   "BPfuCBYdLObIBBccjTbYblfYFOEBFBDKEfPBBBDDBCBBCBbCCnAbHBBpZCBCeADBRMDbCECMbUBBCEBCCBCBBCBFBdegR",
   "cQ"]

/-- Letters that join only to what follows. -/
def leftJoining : List String := ["cluOBblgKBJBvGBbbMB"]

/-- Letters that join only to what precedes. -/
def rightJoining : List String :=
  ["ciKEBBBBFEVBbODBDQSbMBCJBBBBCCBBYCbGBEFEBJBBBBBCBbDBLDPCEBBCDChQBFCBBKBBDOBBCFTLBbBDBBCCGBdtsT",
   "BBBBCDFKBDBCBKBfPBBDDBCBBCBBXEoJBpZBeIBbGBbFCcKDCCCBECFB"]

/-- Whether a character joins to what follows. -/
def joinsForward (c : Char) : Bool :=
  (CharSet.ofRuns dualJoining).contains c || (CharSet.ofRuns leftJoining).contains c

/-- Whether a character joins to what precedes. -/
def joinsBackward (c : Char) : Bool :=
  (CharSet.ofRuns dualJoining).contains c || (CharSet.ofRuns rightJoining).contains c

/-- Whether what precedes a character joins to what follows it, as with marks, formats other than
the joiners, and one letter. -/
def isTransparent (c : Char) : Bool :=
  c == Char.ofNat 0x1E94B || (c != '\u200c' && c != '\u200d' &&
    [.nonspacingMark, .enclosingMark, .format].contains (Category.of c))

end Rollout.Text
