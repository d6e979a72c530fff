import Rollout.Text.Script

/-!
# Scripts that share characters

Some characters are used with a few scripts, apart from the one they belong to. `Script.using?` is
the set of all that a script is written with.
-/

namespace Rollout.Text.Script

/-- The characters of other scripts, or of none, that a script uses. -/
def borrowed : List (List String × List String) :=
  [(["adlam", "adlm"], ["ciHBbGBjwOBfhHB"]),
   (["arabic", "arab"], ["chOBOBDBbGBKLbABjuSBfhHBdakACcdKbC"]),
   (["armenian", "armn"], ["bdWB"]),
   (["avestan", "avst"], ["hBBrfSC"]),
   (["bengali", "beng"], ["baYBcmUCRChjEBBBCCBBIBIBCBEBCDcbaFB"]),
   (["bopomofo", "bopo"], ["bbJBBDNBrcPDEKBNKECBGBhNBcztHCkWF"]),
   (["buginese", "bugi"], ["cmhZB"]),
   (["buhid", "buhd"], ["iuNC"]),
   (["carian", "cari"], ["hBBlzMBCBfgDB"]),
   (["caucasianalbanian", "aghb"], ["bdSBbSBbSB"]),
   (["chakma", "cakm"], ["dtMKckEK"]),
   (["cherokee", "cher"], ["bdODBBGCWCLC"]),
   (["coptic", "copt", "qaac"], ["hBBwMBDCBBeECqdTBdcpCbC"]),
   (["cypriot", "cprt"], ["dtiMDEbTDJ"]),
   (["cyprominoan", "cpmn"], ["dtiMC"]),
   (["cyrillic", "cyrl"], ["baYBcPDBBBBBBCBFBoHCjqNBgeKB"]),
   (["devanagari", "deva"], ["baYBcmUCRChjEbNBCbnABbzfRK"]),
   (["dogra", "dogr"], ["doMMcidCK"]),
   (["duployan", "dupl"], ["hBBwTCBBYCqiHBfuwPE"]),
   (["elbasan", "elba"], ["hBBwRB"]),
   (["ethiopic", "ethi"], ["beCB"]),
   (["garay", "gara"], ["chOBOBDB"]),
   (["georgian", "geor"], ["hBBbvLBeiRBfvIBfgGB"]),
   (["glagolitic", "glag"], ["hBBwPBBBoSBCBjXBeiRBfvIBfgYBbtnFB"]),
   (["gothic", "goth"], ["hBBwQCCBbOB"]),
   (["grantha", "gran"], ["dnTCRCyQOgkABBCbEDDCbnABdntQBetWCBB"]),
   (["greek", "grek"], ["hBBwMCCBBBBBKBbUBCBbUBjyXCzRB"]),
   (["gujarati", "gujr"], ["dnTCRCcidMK"]),
   (["gunjalagondi", "gong"], ["hBBdhKC"]),
   (["gurmukhi", "guru"], ["dnTCRCcidMK"]),
   (["gurungkhema", "gukh"], ["doNB"]),
   (["han", "hani"],
    ["hBBrwYQBDCBBKBNKECBGBEEhFBfSQbGbMJBbWbOcEbXPMbZBdKZKFdSbFbroJIbhaZCkWFdchESlrYC"]),
   (["hangul", "hang"], ["seRDEKBNQBGBhNBcztHCkWF"]),
   (["hanifirohingya", "rohg"], ["chOBOBDBbGBfRB"]),
   (["hanunoo", "hano"], ["iuNC"]),
   (["hebrew", "hebr"], ["bdVC"]),
   (["hiragana", "hira"], ["seRDEKBNQGBBECdNEDBdMCcztGCkWFKBbTC"]),
   (["javanese", "java"], ["cmhZB"]),
   (["kaithi", "kthi"], ["doOKnxXBbufEK"]),
   (["kannada", "knda"], ["dnTCRChjEBBCGBXBBBcasXG"]),
   (["katakana", "kana"], ["bdTBbDBqzTDEKBNQGBBECdNEDBdMCcztGCkWFKBbTC"]),
   (["kayahli", "kali"], ["cmbUB"]),
   (["khojki", "khoj"], ["edIKchoIK"]),
   (["khudawadi", "sind"], ["doMCcidMK"]),
   (["latin", "latn"], ["hBBtWBKBBDBBJBBBbMPBCBBPDHCBCbMBFBENkRCbvECcxKBexWBvUBhKBezMBbtuMIvEB"]),
   (["limbu", "limb"], ["doNB"]),
   (["lineara", "lina"], ["dtiTbT"]),
   (["linearb", "linb"], ["dtiMDEbTDJ"]),
   (["lisu"], ["baYBQBrdKC"]),
   (["lycian", "lyci"], ["mgOB"]),
   (["lydian", "lydi"], ["hBBrfTB"]),
   (["mahajani", "mahj"], ["hBBdhKMcidCK"]),
   (["malayalam", "mlym"], ["dnTCRChjOBXBcasZD"]),
   (["mandaic", "mand"], ["cjOB"]),
   (["manichaean", "mani"], ["cjOB"]),
   (["masaramgondi", "gonm"], ["doMC"]),
   (["meroitichieroglyphs", "mero"], ["mgRB"]),
   (["modi"], ["clsAK"]),
   (["mongolian", "mong"], ["jcKCBBdcJBfzTCFE"]),
   (["multani", "mult"], ["dyKK"]),
   (["myanmar", "mymr"], ["cmbUB"]),
   (["nandinagari", "nand"], ["dnTBSCbiMKgbHBIBHBcasRG"]),
   (["newa"], ["dnTChkCBBCJBGBBBBB"]),
   (["nko", "nkoo"], ["chOBOBDBdppEC"]),
   (["olonal", "onao"], ["doMC"]),
   (["oldhungarian", "hung"], ["mgOBCBfgDBPB"]),
   (["oldpermic", "perm"], ["hBBwMBFDKBoDB"]),
   (["oldturkic", "orkh"], ["mgOBfgFB"]),
   (["olduyghur", "ougr"], ["cjOBdusVB"]),
   (["oriya", "orya"], ["dnTCRChjOBXB"]),
   (["osage", "osge"], ["bdPBCBGBcYB"]),
   (["phagspa", "phag"], ["jcKCBBdcJBfzUB"]),
   (["psalterpahlavi", "phlp"], ["cjOB"]),
   (["runic", "runr"], ["irRD"]),
   (["samaritan", "samr"], ["rmVB"]),
   (["sharada", "shrd"], ["dnTBhkFBBBCCCBJBCBcatEGCB"]),
   (["shavian", "shaw"], ["hBB"]),
   (["sinhala", "sinh"], ["doMChkMB"]),
   (["sogdian", "sogd"], ["cjOB"]),
   (["sunuwar", "sunu"], ["bdOCBBJBCBbCBDB"]),
   (["sylotinagri", "sylo"], ["doMCeYK"]),
   (["syriac", "syrc"], ["bdRCCCBBYDHCBCbcCBOCCBbGBKLbABixRBBB"]),
   (["tagalog", "tglg"], ["iuNC"]),
   (["tagbanwa", "tagb"], ["iuNC"]),
   (["taile", "tale"], ["bdOCFCDBezZK"]),
   (["takri", "takr"], ["doMCcidMK"]),
   (["tamil", "taml"], ["dnTCRChjOBcbbKBboeFBBBcDC"]),
   (["tangut", "tang"], ["seAQtBB"]),
   (["telugu", "telu"], ["dnTCRChjJCBBBBXB"]),
   (["thaana", "thaa"], ["chOBOCCBcMKdptGBKB"]),
   (["thai"], ["baYBbABbRBbTB"]),
   (["tibetan", "tibt"], ["seYE"]),
   (["tifinagh", "tfng"], ["bdQBBBBEZB"]),
   (["tirhuta", "tirh"], ["dnTCRChjJBMBPBcasZK"]),
   (["todhri", "todr"], ["bdPBCBCBJBBBcWB"]),
   (["toto"], ["baYB"]),
   (["tulutigalari", "tutg"], ["exAKgbQBBBcasXGhFB"]),
   (["yezidi", "yezi"], ["chOBOBDBcMK"]),
   (["yi", "yiii"], ["seRCFKCIiPBdaeFF"])]

/-- The characters of no one script that are used with a few scripts only. -/
def shared : List String :=
  ["hBBtWBKBBDBBJBBBbMPBCBBPDHCBCQBCBSBFBENEBkMCoZBOBDBbGBKLbABbcICRCcwRBcgLDcTChVCBBbvEbRhPCcCBBB",
   "vSBbFBKBCBfQBezMBYCKBEBBBqMQBDCBBKBNKECGBBEEdLEDBdMCfRQbGbMJBbWbOcEbXPMbZBdKZKFdSbFbroJIlKKjKB",
   "gEBbfpMCkBCkWFKBbTCnODEbTDJqAbCgdZBcmdWEipWSlrYC"]

/-- The code points that the script with a given name uses. What belongs to no one script is used
with all of them, unless it is among the shared ones. -/
def using? (name : String) : Option CharSet :=
  (named? name).map fun own =>
    if ["common", "zyyy", "inherited", "zinh", "qaai"].contains name then own.diff (.ofRuns shared)
    else match borrowed.find? fun (names, _) => names.contains name with
      | some (_, runs) => own.union (.ofRuns runs)
      | none => own

end Rollout.Text.Script
