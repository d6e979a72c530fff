import Rollout.Text.Casing
import Rollout.Text.Script

/-!
# Properties of characters

The properties that the Unicode standard gives to characters: those that it lists (`listed`), and
those that it derives from categories, case and the listed ones. `Property.named?` is the set of a
property by its name or abbreviation, which are written in lower case and in one word. Sets are
those of the last version of the standard with a given first number.
-/

namespace Rollout.Text.Property

/-- The listed properties: names, and the code points given as the runs of a set. -/
def listed : List (List String × List String) :=
  [(["asciihexdigit", "ahex"], ["bWKHGbAG"]),
   (["bidicontrol", "bidic"], ["ciEBjvLCbAFcDE"]),
   (["bidimirrored", "bidim"],
    ["bOCSBBBbCBBBbDBBBbTBPBfmSEcuNCdqQCKCcCCOCgVBhKEDGDBDCDEBEBBBBEJFBBSFEJCBBBIBbGCEFBJCCTFCJFCC",
     "EYCQIEUCHCbpTOcWBCEBCBDFEFDDOpNWCGBOIBHGDBEFBCCFEBBDCCKGCCMTBECBBBCBBEFCGDYCLCEEBCCCEbRCIBbO",
     "FBBBDFFDEBDFBBjWBtVEDCBCOCCKbRIqLKCIdacRGFCgGCSBBBbCBBBbDBBBBCBCddpNBcFBcFBcFBcFB"]),
   (["dash"], ["bTBcaUBbZBfkJBbnPBdbDGcJBbNBPBpABeoIBCBbFCEBbCBrEBTBeHBczwACbLBKBgNBflOBmGB"]),
   (["deprecated", "dep"], ["mRBbyVBdkTBBBdcJCdiJGbaVCbzryKB"]),
   (["diacritic", "dia"],
    ["dQBBBcTBGBEBCCtJgDBIFGRCEBJCjTFiBBcDbTBBBCBCBBfBIECfECECDDcPbBdNLcGLbICeWIbPKQbCcJBQBDEbCBcW",
     "BQBeGBQBeGBQBbVDcIBQBHBePBeGBQBeGBQBeFCQBeUBeHBMGBBeDBNFcXCbBBBBBBECcODBCcKBeIBBCbOCEFZHBBKC",
     "bbDDbkMCbEBfSLJBnJDlGBUICBbWPCLDPCMcUBPBbMJcCCcGBLCcOCcMGdEZEBGBCDbYcLbWbKFMbLLrDBBDLDNDNDNC",
     "exKDmFBtMGeBEdRBbsmKBMCBBbCCdECObIdYDdYBGCMBbLBfVBbBScFEbKBdRBMBbKBfTDcNEbZBdWFJDeYCbdzSBbdP",
     "QkKBBBbVBbTCcPBbdKBbtNGBbQBJyNDEBgJCvZGbMBbAFpGBCDcSLbXEhKBbPBcUCeQCcKBcYBJDeACgWCdCCQBYHDF",
     "dLDBCNCdRBDBeTCjRCeWBeOCeLBkJCjYCEBgABdFBSBdDBqFBjYBBCdDBcNBnVCXBhyAPqzPBdsAFcHHvSCvARdCCygC",
     "EBHBCltHbUCXuYDDGIICHbEEfmWcKhMHoLBcJEbdMCbcIHeFDBD"]),
   (["emoji"],
    ["bJBGBFKeHBEBlyRBMBiIBWBdMGPCoDCMBgKBZLEDhRBiXCKBJBcGEBFJBCBCCCBEBCBBCCBDBDCIDFBBBFMLCCBBCBBS",
     "BCCSGBBBCDCFBCCECLCFCCBFCBBBCUCFGBECBEBCBCGBBCBBBBBGBDBGBKCPBCBEBBBEDBBLCbWDJBOBOBoICrVDTCbZ",
     "BEBbvUBMBxDBBBgmrQBhUBgECMCOBCKcXbABCXBUBCJVCgSbICeICCBDCdFCDBkDBcLLGBYHCCIMBCECBECNCCBICJBF",
     "DMDIDCBBBEBGBDBGdIbWcSFICEDKDBBCDBCKiTMEBkXbVBKBhDeINDLDcFBBEQCMEK"]),
   (["emojicomponent", "ecomp"], ["bJBGBFKmbJBiFBdftRBdoiWbAtNFceAEbsvuQdS"]),
   (["emojimodifier", "emod"], ["hhiXF"]),
   (["emojimodifierbase", "ebase"],
    ["olHBiLBQEgsjVBcIDCBCDeNCCLVTDBEDBDHBBBYBhTCEBVBECgSDDFdFBQDJBLBwDBCBIIGBJKCDcEBcJCBCBBRDBNiV",
     "DbQJ"]),
   (["emojipresentation", "epres"],
    ["nhQChXEDBCBuBCVCbYMbRBTBNBICRCFCIBFBVBHCBBEBCBHBECbCBbJBBBEDBBcJDYBOBbhBCbZBEBgplEBhUBhIBCK",
     "cXbABBYBUBCFBDVCgSbHMJBcSBWMbREFMRDBDcTBBBhFCcLNEBYSBbACNBdIdHbWcSGBDDCEDELCHJiTMEBkXbVBKBhD",
     "eINDLDcFBBEQCMEK"]),
   (["extendedpictographic", "extpict"],
    ["gNBEBlyRBMBiIBWBdMGPCoDCMBdRBcSBZLEDhRBiXCKBJBcGEBGBMBeKKeOCLBBBBGBDBGBKCPBCBEBBBEDBBLFbTDJB",
     "OBOBoICrVDTCbZBEBbvUBMBxDBBBgmrMjWNDbFBcIGMCOBCKScFbBPKBUBCJBEJqSFmGIkGbWeYeMMdHbRMEcEIKGbOI",
     "bEdEMbVBKBqZjWbnI"]),
   (["extender", "ext"],
    ["hBBuQCbhUBqZByGBfHBdLBbcYBeXBdnFBcEBxNBpIBcQBhkJBbRFdZCdPDbqbUBcgSBblABWBfHBeEBVCbfzVBdbKC",
     "cfBBbBBEBbvBBlHBeMCtEDbvJBbgABbdiECbtKCBBOCbqxKCbuFBbgUD"]),
   (["hexdigit", "hex"], ["bWKHGbAGdslLKHGbAG"]),
   (["hyphen"], ["bTBeXBbvWBgzZBdbDCfiBBbcLBczuLBgNBdJB"]),
   (["idcompatmathcontinue"], ["gWCFBmaGBDLBPoHBEBWBgjjEBZBbFBZBbFBZBbFBZBbFBZB"]),
   (["idcompatmathstart"], ["mwWBEBWBgjjEBZBbFBZBbFBZBbFBZBbFBZB"]),
   (["ideographic", "ideo"],
    ["seWCZJODblDjtOcMbfbKbhsIoCCeCbsiKBNFJkxYbPbGdTeLnlLpGbdeIclfCbGgmOCioCClbLPxY",
     "dqWuWcfYhhZFmoO"]),
   (["idsbinaryoperator", "idsb"], ["seACCKtDB"]),
   (["idstrinaryoperator", "idst"], ["seCC"]),
   (["idsunaryoperator", "idsu"], ["seOC"]),
   (["joincontrol", "joinc"], ["mdOC"]),
   (["logicalorderexception", "loe"], ["fkIFeTFedSDCBccxMCCBBC"]),
   (["modifiercombiningmark", "mcm"], ["ckICCBfBBGBDCsNCBDDBbFB"]),
   (["noncharactercodepoint", "nchar"],
    ["dsdCbGuGCdsyOCdsyOCdsyOCdsyOCdsyOCdsyOCdsyOCdsyOCdsyOCdsyOCdsyOCdsyOCdsyOCdsyOCdsyOCdsyOC"]),
   (["otheralphabetic", "oalpha"],
    ["bhJNwEOBBBCBCBBcULbWNBHQBdXHEECCEBbJBbEQdYLdXCDJBDBEeCBcIMDHGUcCCCPBCFDKCbDDcGHCCCCKBKCbDDcG",
     "FECCCEBbECDBLDcGIBDBCVCWDEDcGHCCCCJCKCbEBcHFDDBDKBbOFcFHBDBDICLCbDDcGHBDBDICLCPBMEcGHBDBDKBK",
     "CbDDcXGBBBISCcJBCHSBdVBCGBCQBgHTJLBbKeGMBBCEXEEDBDCHDENMBBKEclOCbECbECbECcOThGCbIBeOMEJiOFcF",
     "KCUcWCLDbXFbWPcIDbEJCCcFLbYTpWbIgaTbGbtqAIbICnQBIBXFdKCbYQBBcFBbMFbCMbTEbWMbLBcPOMBICbTDbYBB",
     "DCCFBbSFFBjDIbdzVBdeDFcmGDBCFEbeIEcNBmJCcZDjZDcBObTCLDbTJJBcJDbKMSCcFDbWNOCdOJCBGBCBgBKXEcGH",
     "CCCCKBKCdGJBBCBBEBCdZNBDeCSjDHCHbDCdEPBBeCLdZOjXNjNGBCCCDBBBfMHCGEBbCKbQFBESLbUOhSIhRIBHdFWB",
     "OeSGDBBCBDBBDBcOFBCBEnKEJCBBbWHDDyyNRfjCBBcDHEdPCbdaYBnkJHBRCHBCBFdWBckHBCBHCFBwVB"]),
   (["otherdefaultignorablecodepoint", "odi"], ["bgPBfiLCckHCdhNBglIBdacPBdBJbwmiHBBbEdSeYjGfiM"]),
   (["othergraphemeextend", "ogrext"],
    ["drYBYBnUBYBdYBYBiYBBBECBCJCdZBYBePBPBdmRBbEBbnKBFBBBFCdXBcTCboIBgcVCbtwTBeEBbgnLCgwMBeMBkEBO",
     "BJBdSBJBCBBDFBiQBMBjHBkCByJBMBchFBbeoKCbkxNCGGbtlaZdS"]),
   (["otheridcontinue", "oidc"], ["hBBbbRBgaJJclCBciZCgkRBdaeJB"]),
   (["otheridstart", "oids"], ["jhLCdgJBVBfvWC"]),
   (["otherlowercase", "olower"],
    ["gOBPBtHJHCbEFdSBcABfcZBepZcLNBbIbLbaNBNBQNiDQbgQbAcwOCbugKCiCBeYEDCbhIEJBbiwSBCD",
     "BbQBJddzHcK"]),
   (["othermath", "omath"],
    ["dQBbhXDCBbACCCkqYBbBDLBbGEYCOCcNNEBDCEFSBEBCKBBDFGBDCCCBDBGDEFFcXFCEBCBCBBBFCCECESCCBBBHBBGC",
     "lEEgMCBBYBRBrDCMJFFFCCCDFOBBBCGYCcFBBBbDEJCnECbFKpNWcLEbGCdclFBBBEBiDBBBdcoVdHBcTBCCBCCCEBMB",
     "BBHBcNBECIBHBbCBEBFBBDHBnCCZBZBbFBZBbFBZBbFBZBbFBZBICbYiiQEBbBBCBBCBBKBEBBBBGBEBBBBBBDBCBBCB",
     "BBBBBBBBBCBBCEBHBEBEBBBKBRFDBFBR"]),
   (["otheruppercase", "oupper"], ["mqQQbgGbAgsiYbAGbAGbA"]),
   (["patternsyntax", "patsyn"],
    ["bHPKHbAEBBbAEbIHBBBCBBBCEBEBDBXBbFBluEYIPCTBKlTbbSgEyGbEbrOtSeYoVDEZPBczqZCkBC"]),
   (["patternwhitespace", "patws"], ["JFSBdWBlyMCYC"]),
   (["prependedconcatenationmark", "pcm"], ["chCGiHBbXBoUCdCBdvxYBPB"]),
   (["quotationmark", "qmark"], ["bIBEBfBBPBlwUIZCfiDBrPENDdabPEhHBEBdMC"]),
   (["radical"], ["rpWbABdLMiG"]),
   (["regionalindicator", "ri"], ["hgoKbA"]),
   (["sentenceterminal", "sterm"],
    ["bHBMBQBcaBBfRDgYBbRDjMBcJBBBDClHCcpWCbeKBECbdTBhQCgBCbTBFBmCCnQEgGCKCCCbDDhFCcNCbjWBXCJDeuXD",
     "lUBNBWCqNBbshWBkKCiTBDBoSCdICdRBfWCfRDfOCjPBbfcWBCCcHBDCgNBMBQBcNBedWCbxDFbSEhHCeNEeXDeZCGBQ",
     "CdKCBCeEBlMCeNCoJCFPeBCjPDtXBBBjRCdJCqECbaQCcWCbcmBCfDBcNCLBvHClKBbdoGBliMB"]),
   (["softdotted", "sd"],
    ["eBChOBkVBbEBcABUBmIBdUBBBjmNBbZBNBDBfCBgBBqFBiGCegGBgelHCbYCbYCbYCbYCbYCbYCbYCbYCbYCbYCbYCbY",
     "CdfYBlTCbAB"]),
   (["terminalpunctuation", "term"],
    ["bHBKBBBLCDBbfYBIBtTBcFBcUBOBBDgYBbRLBBjBCcCGBIbFBkBCbwUCgQBEGlZCbeJIbdTBeUDcTCgBDDBbNECCmCC",
     "nQEgGCKCBDbDDhFFcKCbjWBXCJDeuXDlUBNBEBKBBCDCqMCbshVCkJDiTFoSCdICdRBfVDfRDeXBQCjPBbfcWBCCcFDB",
     "EgNBKBBBLCDBcNBCBbpQBbWBbsOBhRBlYCfWGcQGdLEbkQFbSEhHHeIEeXDeZCGBQCdKFeEBlMCeNDMCnUEDPeBCjPD",
     "tXBBBjRCdJCECpYDbTByVCcWCbyXFbamZCfDBcNDKBvHClJCbdoGBliLE"]),
   (["unifiedideograph", "uideo"],
    ["tsAjtOcMbfbKbicSCBBBCKBBBBCCDdveCclfCbGgmOCioCClbLPxYgrQhhZFmoO"]),
   (["variationselector", "vs"], ["jcTDBBdjcAQbwnkYjG"]),
   (["whitespace", "wspace", "space"], ["JFSBdWBbABihJBdpNLbDCFBbVBfxWB"])]

/-- The listed properties of code points that need not be assigned. -/
def lasting : List String :=
  ["patternsyntax", "noncharactercodepoint", "otherdefaultignorablecodepoint",
   "extendedpictographic"]

/-- The set of a listed property. -/
def listed? (major : Nat) (name : String) : Option CharSet :=
  (listed.find? fun (names, _) => names.contains name).map fun (names, runs) =>
    let s := CharSet.ofRuns runs
    if names.any lasting.contains then s else s.diff (Age.after major)

/-- The union of listed properties. -/
def ofListed (major : Nat) (names : List String) : CharSet :=
  .unions (names.filterMap (listed? major))

/-- The set of some categories. -/
def ofCategories (major : Nat) (l : List Category) : CharSet := Category.set major l.contains

/-! ### Letters and case -/

def lowercase (major : Nat) : CharSet :=
  (ofCategories major [.lowercaseLetter]).union (ofListed major ["otherlowercase"])

def uppercase (major : Nat) : CharSet :=
  (ofCategories major [.uppercaseLetter]).union (ofListed major ["otheruppercase"])

def cased (major : Nat) : CharSet :=
  (ofCategories major [.lowercaseLetter, .uppercaseLetter, .titlecaseLetter]).union
    (ofListed major ["otherlowercase", "otheruppercase"])

def alphabetic (major : Nat) : CharSet :=
  (Category.set major fun k => k.group == 'L' || k == .letterNumber).union
    (ofListed major ["otherlowercase", "otheruppercase", "otheralphabetic"])

/-- Whether a character is alphabetic. -/
def isAlphabetic (c : Char) : Bool :=
  if c.toNat < 128 then c.isAlpha else (alphabetic Age.latest).contains c

def caseIgnorable (major : Nat) : CharSet :=
  (ofCategories major
    [.nonspacingMark, .enclosingMark, .format, .modifierLetter, .modifierSymbol]).union
    (.ofRanges (ignorablePunctuation.map fun n => (n, n)))

/-- Single characters as a set. -/
def points (major : Nat) (l : List Nat) : CharSet :=
  (CharSet.ofRanges (l.map fun n => (n, n))).diff (Age.after major)

def changesWhenLowercased (major : Nat) : CharSet :=
  points major (0x130 :: lowercasePairs.map (·.1))

/-- Characters whose upper case is not the inverse of a lower case. -/
def otherUppercased : List String :=
  ["lTBXBeTBCBCBbKBBBpXBbFBsCBjmSFgZBBBBBBBbXIIIIICBBBBCEBFBBBBCEBFBDCKBBBBCKBBBBCEBdeyLGNF"]

def changesWhenUppercased (major : Nat) : CharSet :=
  let later := Age.after major
  let pairs := lowercasePairs.filter fun (x, _) => !later.holds x
  (points major (pairs.map (·.2) ++ foldExceptions.map (·.1))).union (.ofRuns otherUppercased)

/-- Digraphs whose title case is not their upper case, and Georgian letters, which have none. -/
def changesWhenTitlecased (major : Nat) : CharSet :=
  (((changesWhenUppercased major).diff (ofCategories major [.titlecaseLetter])).diff
    (.ofSorted [(0x10D0, 0x10FA), (0x10FD, 0x10FF)])).union
    (points major [0x1C4, 0x1C7, 0x1CA, 0x1F1])

/-- Characters that fold to something else than a lower case of one character. -/
def otherCasefolded : List String :=
  ["iPBdCBYBbpTBfmEGeaMBiVIIIIIKDCBKDCBbQDCBcavGdCbeaIGNF"]

/-- Cherokee folds to upper case, and a few letters are not changed because they are equivalent to
what they fold to. -/
def changesWhenCasefolded (major : Nat) : CharSet :=
  ((points major (lowercasePairs.map (·.1) ++ foldExceptions.map (·.1))).diff
    (.ofSorted [(0x13A0, 0x13F5), (0x1FBE, 0x1FBE), (0x1FD3, 0x1FD3), (0x1FE3, 0x1FE3)])).union
    (.ofRuns otherCasefolded)

/-! ### Marks, symbols and code points to ignore -/

def math (major : Nat) : CharSet :=
  (ofCategories major [.mathSymbol]).union (ofListed major ["othermath"])

def graphemeExtend (major : Nat) : CharSet :=
  (ofCategories major [.nonspacingMark, .enclosingMark]).union
    (ofListed major ["othergraphemeextend"])

def graphemeBase (major : Nat) : CharSet :=
  (Category.set major fun k =>
    k.group != 'C' && k != .lineSeparator && k != .paragraphSeparator).diff (graphemeExtend major)

def defaultIgnorable (major : Nat) : CharSet :=
  (((((ofCategories major [.format]).union (ofListed major ["variationselector"])).diff
    (ofListed major ["whitespace", "prependedconcatenationmark"])).diff
    (.ofSorted [(0xFFF9, 0xFFFB), (0x13430, 0x13440)])).union
    (ofListed major ["otherdefaultignorablecodepoint"]))

/-! ### Identifiers -/

def idStart (major : Nat) : CharSet :=
  ((Category.set major fun k => k.group == 'L' || k == .letterNumber).union
    (ofListed major ["otheridstart"])).diff (ofListed major ["patternsyntax", "patternwhitespace"])

def idContinue (major : Nat) : CharSet :=
  (idStart major).union <|
    ((ofCategories major
      [.nonspacingMark, .spacingMark, .decimalNumber, .connectorPunctuation]).union
      (ofListed major ["otheridcontinue"])).diff
      (ofListed major ["patternsyntax", "patternwhitespace"])

/-- Characters of identifiers that are none after compatibility decomposition. -/
def decomposing : CharSet :=
  .ofSorted ([(0x37A, 0x37A), (0x309B, 0x309C), (0xFC5E, 0xFC63), (0xFDFA, 0xFDFB)] ++
    (List.range 8).map fun i => (0xFE70 + 2 * i, 0xFE70 + 2 * i))

def xidStart (major : Nat) : CharSet :=
  ((idStart major).diff decomposing).diff
    (.ofSorted [(0xE33, 0xE33), (0xEB3, 0xEB3), (0xFF9E, 0xFF9F)])

def xidContinue (major : Nat) : CharSet := (idContinue major).diff decomposing

/-! ### Names -/

/-- The derived properties by name. -/
def derived : List (List String × (Nat → CharSet)) :=
  [(["alphabetic", "alpha"], alphabetic), (["caseignorable", "ci"], caseIgnorable),
   (["cased"], cased), (["changeswhencasefolded", "cwcf"], changesWhenCasefolded),
   (["changeswhencasemapped", "cwcm"], fun major =>
     .unions [changesWhenLowercased major, changesWhenUppercased major,
       changesWhenTitlecased major]),
   (["changeswhenlowercased", "cwl"], changesWhenLowercased),
   (["changeswhentitlecased", "cwt"], changesWhenTitlecased),
   (["changeswhenuppercased", "cwu"], changesWhenUppercased),
   (["defaultignorablecodepoint", "di"], defaultIgnorable),
   (["graphemebase", "grbase"], graphemeBase), (["graphemeextend", "grext"], graphemeExtend),
   (["idcontinue", "idc"], idContinue), (["idstart", "ids"], idStart),
   (["lowercase", "lower"], lowercase), (["math"], math), (["uppercase", "upper"], uppercase),
   (["xidcontinue", "xidc"], xidContinue), (["xidstart", "xids"], xidStart)]

/-- The set of the property with a given name. -/
def named? (major : Nat) (name : String) : Option CharSet :=
  (listed? major name).or
    ((derived.find? fun (names, _) => names.contains name).map fun (_, set) => set major)

end Rollout.Text.Property
