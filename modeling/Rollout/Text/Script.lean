import Rollout.Text.CharSet

/-!
# Scripts

The script of a character is the writing system it belongs to. Each has a name and a shorter one of
four letters, here in lower case and in one word; `Script.named?` is the set of a script.
-/

namespace Rollout.Text.Script

/-- The scripts: names, and the code points given as the runs of a set. -/
def table : List (List String × List String) :=
  [(["adlam", "adlm"], ["hdeUcYEKEC"]),
   (["ahom"], ["ebrCbBCPEX"]),
   (["anatolianhieroglyphs", "hluw"], ["essEwL"]),
   (["arabic", "arab"],
    ["chCFBGBOBDBbGBKLbABeEBbIdCbWjGbIFcXBbDdntWtACfObGQeIFBfFfvNbFcPGIJbHGdglSEBbBBCBBCBBKBEBBBBG",
     "BEBBBBBBDBCBBCBBBBBBBBBBCBBCEBHBEBEBBBKBRFDBFBRcAC"]),
   (["armenian", "armn"], ["bzDbMCbYCDdozJF"]),
   (["avestan", "avst"], ["dxcYcCDH"]),
   (["balinese", "bali"], ["kfWcZBbY"]),
   (["bamum", "bamu"], ["clcQdKcvcQvX"]),
   (["bassavah", "bass"], ["fhkIbECG"]),
   (["batak", "batk"], ["knGcAIE"]),
   (["bengali", "beng"], ["dpOEBICCCWBHBBDECJCCCEIBECBFCZ"]),
   (["beriaerfe", "berf"], ["fivWZCZ"]),
   (["bhaiksuki", "bhks"], ["edoIJBbTBOKbD"]),
   (["bopomofo", "bopo"], ["bcSCrlXbReIbG"]),
   (["brahmi", "brah"], ["dzaEdAEbKJB"]),
   (["braille", "brai"], ["pdWjW"]),
   (["buginese", "bugi"], ["jwAbCCC"]),
   (["buhid", "buhd"], ["iuYU"]),
   (["canadianaboriginal", "cans"], ["hoYyQvOcSdtpQQ"]),
   (["carian", "cari"], ["dtyMbX"]),
   (["caucasianalbanian", "aghb"], ["duxScALB"]),
   (["chakma", "cakm"], ["dzkAcBBS"]),
   (["cham"], ["cmjWcDJOCKCE"]),
   (["cherokee", "cher"], ["hlGdICGcfjEdC"]),
   (["chorasmian", "chrs"], ["dyxCbC"]),
   (["common", "zyyy"],
    ["AcNbAGbAbVBPBFXBbFBrHbNFFCUeMBJBGBBByNBGBOBDBbGBgABtWBeZCbvTBpPElEBcgLDcTChVCBBbvHBNBHEBGBDC",
     "BbdTMCdJBLDLBPRbIcKbMBDCGBbBBRbPDEzQWLVbjSjWyECfItSdQpMVBBBZPIEEdNCDBdMCfRQbGbMJBbWcMbFdDbVB",
     "dKgMjtOcMbhsIbIdYDgJKjKBgEBpFBOCbezQCiAKWbJBTBEfRBBbGbAGbALKBbTCcMHBHKFjYDEbTDJdCNbZbTiUbB",
     "cshWEfvGjTDqUGXPRdReMcIjMKbNCcKDRICHbEEcJiFUMUMdJJZfFdHBcTBCCBCCCEBMBBBHBcNBECIBHBbCBEBFBBDH",
     "BnCClGCbYhtHcQcYcJbbEbSEdWMPCPBPBbLKgScEbABCNbSEJHCOGfYblXDRDNDiKGMEBPMEcEIKGbOIbECMECOJbNnG",
     "IOCNDLDcFBBEQCMEKHfRBdZbsuxABbEdS"]),
   (["coptic", "copt", "qaac"], ["bmGOpjKeMFH"]),
   (["cuneiform", "xsux"], ["efbSbjMdYeHBFLhO"]),
   (["cypriot", "cprt"], ["dvzKGCBBbSBCDBCB"]),
   (["cyprominoan", "cpmn"], ["ekyYdV"]),
   (["cyrillic", "cyrl"], ["bnKfDCgNivOLgEBcYBgfNbGbtoAdSbheCCdhpGcKbHB"]),
   (["deseret", "dsrt"], ["dumAdC"]),
   (["devanagari", "deva"], ["dkQdDEPCbAcijGbGbreMK"]),
   (["divesakuru", "diak"], ["eckUHCBCIBCBbEBCCMJK"]),
   (["dogra", "dogr"], ["ecaYcI"]),
   (["duployan", "dupl"], ["gmdSeDFNDJHKCE"]),
   (["egyptianhieroglyphs", "egyp"], ["eldGbqSKfxR"]),
   (["elbasan", "elba"], ["duvWbO"]),
   (["elymaic", "elym"], ["dyyYX"]),
   (["ethiopic", "ethi"],
    ["gvGcVBECHBBBECbPBECbHBECHBBBECPBcFBECcPCbGDbAjvAXJHBHBHBHBHBHBHBHbvkCGCGCGJHBHepyFHBEBCBP"]),
   (["garay", "gara"], ["dxzCbMDbDIC"]),
   (["georgian", "geor"], ["ghSbMBBFBCbRBEejWbRCDgeAbMBBFB"]),
   (["glagolitic", "glag"], ["qrGdSgizGHBRCHBCBF"]),
   (["gothic", "goth"], ["dueAbB"]),
   (["grantha", "gran"], ["eadSEBICCCWBHBCBFCJCCCDCBGBFHCHDF"]),
   (["greek", "grek"],
    ["bhWEBDCEBBEBBBBDBBBUBcLOQjnQFbYFEFdGBmIWCGCbMCGCIBBBBBBBbFCcBBPBOCGBTCDBJlJBcajEBbgnIdBRB",
     "daxRcS"]),
   (["gujarati", "gujr"], ["dzLDBJBDBWBHBCBFCKBDBDCBPECMHH"]),
   (["gunjalagondi", "gong"], ["eebWGBCBbLBCBGHK"]),
   (["gurmukhi", "guru"], ["duNDBGECCWBHBCBCBCCBBFECCDDBHEBBHR"]),
   (["gurungkhema", "gukh"], ["fdrScG"]),
   (["han", "hani"],
    ["rpWbABdLMiGbVBBBZJOEblCjtOcMbfbKbhsIoCCeCbsiICMHccoFclfCbGgmOCioCClbLPxYdqWuWcfYhhZFmoO"]),
   (["hangul", "hang"], ["glKjWllECjXdQeJbFcNbFbtaNbDyTqnSMXEbXpaIbFDGCGCGCD"]),
   (["hanifirohingya", "rohg"], ["dxwQbOIK"]),
   (["hanunoo", "hano"], ["itSV"]),
   (["hatran", "hatr"], ["dwiATBCFF"]),
   (["hebrew", "hebr"], ["ccVcDIbBEGdovWbABFBBBCBCBK"]),
   (["hiragana", "hira"], ["shDdIGDfpeVlBSBbDDymVB"]),
   (["imperialaramaic", "armi"], ["dwbWWBJ"]),
   (["inherited", "zinh", "qaai"],
    ["bdOeIkRCrKLbABbcIEgoXbUCMsQDBNBHEBGBDChQcMuEChMbHftXEeDCczuJQQOblNBiSBgfABctcUbUCXuYDRICHbEE",
     "btlhIjG"]),
   (["inscriptionalpahlavi", "phli"], ["dxgQTFI"]),
   (["inscriptionalparthian", "prti"], ["dxfKWCI"]),
   (["javanese", "java"], ["cmeYdACKEC"]),
   (["kaithi", "kthi"], ["dzfCcPKB"]),
   (["kannada", "knda"], ["etCNBDBXBKBFCJBDBEHCFDBECKBD"]),
   (["katakana", "kana"], ["skVdMCDjGQiAbVBdKczhEKBbTcouCEBHBCBBlBDbYBOE"]),
   (["kawi"], ["eerWRBbPDbD"]),
   (["kayahli", "kali"], ["cmaAbUBB"]),
   (["kharoshthi", "khar"], ["dwtCEBCFIBDBbDCDEKHJ"]),
   (["khitansmallscript", "kits"], ["fjiIBkgXsCbPB"]),
   (["khmer", "khmr"], ["ixKdQCKGKsSbG"]),
   (["khojki", "khoj"], ["dztWSBbV"]),
   (["khudawadi", "sind"], ["eaaQcHFK"]),
   (["kiratrai", "krai"], ["fiiIcG"]),
   (["lao", "laoo"], ["fmVCBBBFBYBBBXCFBBBHBKCE"]),
   (["latin", "latn"],
    ["cNbAGbAbVBPBFXBbFBrHbNFjxBbMGbXFEFNBcScNjWoFBNBQNfLCGBbBBRbPecTbGbulMdYDdEUPbfKbRBJBEbedQH",
     "boKbAGbAdcFGBbQBJddnPbFGG"]),
   (["lepcha", "lepc"], ["kpScEDPDD"]),
   (["limbu", "limb"], ["jmEbFBMEMEBDM"]),
   (["lineara", "lina"], ["dvfSlZJWKI"]),
   (["linearb", "linb"], ["dsyQMBbABTBCBPCObIeT"]),
   (["lisu"], ["ckkUbWbumAB"]),
   (["lycian", "lyci"], ["dtxGbD"]),
   (["lydian", "lydi"], ["dwkMbAFB"]),
   (["mahajani", "mahj"], ["dznCbN"]),
   (["makasar", "maka"], ["eeqQZ"]),
   (["malayalam", "mlym"], ["eyANBDBbZBDBGEQCbA"]),
   (["mandaic", "mand"], ["ddGbCCB"]),
   (["manichaean", "mani"], ["dxaMbNEM"]),
   (["marchen", "marc"], ["edsQbGCWBO"]),
   (["masaramgondi", "gonm"], ["edyEHBCBbSDBBCBJIK"]),
   (["medefaidrin", "medf"], ["fisEdN"]),
   (["meeteimayek", "mtei"], ["cmsMXhTbUCK"]),
   (["mendekikakui", "mend"], ["hcuYhPCQ"]),
   (["meroiticcursive", "merc"], ["dwpKYEUCbU"]),
   (["meroitichieroglyphs", "mero"], ["dwoEbG"]),
   (["miao", "plrd"], ["fizOcXEcFHR"]),
   (["modi"], ["ebhGcRLK"]),
   (["mongolian", "mong"], ["jcICCBBUGdLHbRdscBN"]),
   (["mro", "mroo"], ["fheUbFBKEC"]),
   (["multani", "mult"], ["dzyUHBBBEBPBL"]),
   (["myanmar", "mymr"], ["gbOgEcgaYbFdTbGbpaMU"]),
   (["nabataean", "nbat"], ["dweIbFIJ"]),
   (["nagmundari", "nagm"], ["hbpObQ"]),
   (["nandinagari", "nand"], ["ecqYICbUCL"]),
   (["newtailue", "talu"], ["jrCbSEbAGLDC"]),
   (["newa"], ["eanOdOBF"]),
   (["nko", "nkoo"], ["cyIcHCD"]),
   (["nushu", "nshu"], ["fjiFByvMpG"]),
   (["nyiakengpuachuehmong", "hmnp"], ["haeAbTDOCKEC"]),
   (["ogham", "ogam"], ["inObD"]),
   (["olchiki", "olck"], ["ksUbW"]),
   (["olonal", "onao"], ["hbzKbREB"]),
   (["oldhungarian", "hung"], ["dxrSbZNbZHG"]),
   (["olditalic", "ital"], ["ducEbKJD"]),
   (["oldnortharabian", "narb"], ["dwyAbG"]),
   (["oldpermic", "perm"], ["dufGbR"]),
   (["oldpersian", "xpeo"], ["duiIbKEO"]),
   (["oldsogdian", "sogo"], ["dyqIbO"]),
   (["oldsoutharabian", "sarb"], ["dwwUbG"]),
   (["oldturkic", "orkh"], ["dxmUcV"]),
   (["olduyghur", "ougr"], ["dyuQbA"]),
   (["oriya", "orya"], ["eeJDBICCCWBHBCBFCJCCCDHDECBFCS"]),
   (["osage", "osge"], ["dusUbKEbK"]),
   (["osmanya", "osma"], ["duqYbECK"]),
   (["pahawhhmong", "hmng"], ["fhmEcSKKBHBVFT"]),
   (["palmyrene", "palm"], ["dwdCbG"]),
   (["paucinhau", "pauc"], ["edcAcF"]),
   (["phagspa", "phag"], ["clsQcE"]),
   (["phoenician", "phnx"], ["dwjGbCDB"]),
   (["psalterpahlavi", "phlp"], ["dxhWSHEMH"]),
   (["rejang", "rjng"], ["cmbWbKLB"]),
   (["runic", "runr"], ["ioUcXDL"]),
   (["samaritan", "samr"], ["daUbUCP"]),
   (["saurashtra", "saur"], ["clvCcSIM"]),
   (["sharada", "shrd"], ["dzoYdSdpOI"]),
   (["shavian", "shaw"], ["dupCbW"]),
   (["siddham", "sidd"], ["ebcIcCCbM"]),
   (["sidetic", "sidt"], ["dwlSbA"]),
   (["signwriting", "sgnw"], ["gwtKzCPFBP"]),
   (["sinhala", "sinh"], ["fcZDBSDYBJBBCHDBEGBBBIGKCDdulGU"]),
   (["sogdian", "sogd"], ["dysEbQ"]),
   (["sorasompeng", "sora"], ["dziEZHK"]),
   (["soyombo", "soyo"], ["ecxSdF"]),
   (["sundanese", "sund"], ["kkUcMjWI"]),
   (["sunuwar", "sunu"], ["edlWbIOK"]),
   (["sylotinagri", "sylo"], ["clqEbT"]),
   (["syriac", "syrc"], ["cqYOBcICDkML"]),
   (["tagalog", "tglg"], ["isMWJB"]),
   (["tagbanwa", "tagb"], ["iwENBDBC"]),
   (["taile", "tale"], ["jpGbECF"]),
   (["taitham", "lana"], ["jxGcLBbDCLGKGO"]),
   (["taiviet", "tavt"], ["cmoUcPYF"]),
   (["taiyo", "tayo"], ["hciQbFBWIC"]),
   (["takri", "takr"], ["ebmEcGGK"]),
   (["tamil", "taml"], ["ejICBGDDBEDCBBBCDCDDDMEFDDBECBGBOVealHbYNB"]),
   (["tangsa", "tnsa"], ["fhgQdBBK"]),
   (["tangut", "tang"], ["fjiEBbFkfWtSbFdTeL"]),
   (["telugu", "telu"], ["eoENBDBXBQCJBDBEHCBDBCCECKHJ"]),
   (["thaana", "thaa"], ["cvWbY"]),
   (["thai"], ["fhXcGFbC"]),
   (["tibetan", "tibt"], ["frScUBbKEbNBbKBPBHEC"]),
   (["tifinagh", "tfng"], ["rcYcEHCOB"]),
   (["tirhuta", "tirh"], ["easMcUIK"]),
   (["todhri", "todr"], ["dvdGcA"]),
   (["tolongsiki", "tols"], ["eeeYbSEK"]),
   (["toto"], ["hatKbF"]),
   (["tulutigalari", "tutg"], ["eaiQKBBCBBbMBKBBCBBEBKBCIC"]),
   (["ugaritic", "ugar"], ["duhCbEBB"]),
   (["vai", "vaii"], ["ckmQlO"]),
   (["vithkuqi", "vith"], ["dvaELBPBHBCBLBPBHBC"]),
   (["wancho", "wcho"], ["havGcGFB"]),
   (["warangciti", "wara"], ["echCdFMB"]),
   (["yezidi", "yezi"], ["dylKbQBDCC"]),
   (["yi", "yiii"], ["cipKbsVDcD"]),
   (["zanabazarsquare", "zanb"], ["ecuQcU"])]

/-- The code points of the script with a given name. -/
def named? (name : String) : Option CharSet :=
  (table.find? fun (names, _) => names.contains name).map fun (_, runs) => .ofRuns runs

end Rollout.Text.Script
