import Rollout.Text.Casing

/-!
# Characters of domain names

What becomes of a character in a domain name: some are replaced, some are dropped, and some cannot
stand there at all.
-/

namespace Rollout.Url

open Text

/-- What becomes of a character. -/
inductive Mapping where
  | kept
  | replaced (cs : List Char)
  | dropped
  | refused
  deriving Repr, DecidableEq

namespace Mapping

/-- The characters that are replaced by something else than their lower case, as numbers: how far
they are from those before, how many they are, how many characters replace one, and these
characters. Of several in a row, each one is replaced by the character after the one before. -/
def replacementNumbers : List String :=
  ["gEBBbGHBCbGbdWBBBdTEBCbGbdSCCBbYABCbGbdPABBbkUCBCbGbfBABBbXABBeHBBDbXmfScAABDbXmfSbYABDbZmfScA",
   "eJBCeBbdVBBCeBeCABCeBeCLBCeEhBABCeEhBIBCbaYeGcBBBeLcQBCdWoSABCdWoSABCdWoSABCeEeCABCeEeCABCeEeC",
   "ABCeGeCABCeGeCABCeGeCbKBCdWeSABCdWeSABCdWeShGBBeAABBxQABBeCABBeKABByJABByLABByRABBePABBeRbFBC",
   "bGbdUABCbGbdVABCbGbdYABCbGbfCABCbGbdRABCbGbdZCBBxNABBeEABBeLABBeQABBzLdNCBbdOBBBbeHABCbdWbdPAB",
   "BbkRbUBBbaVFBCbGbkRDBBcHFBCbGbdPABDbGbdWbdPBBBhBcUBBbkKABBbkQABBblDABBblLABBblJABBblEABBbkYZBB",
   "bkSABBbkZABBblBCBBbkNDBBblBpHBCcbDccGjDBCciPclOABCcjWclOABCcoTclOABCcjYclObcHBCdlLdmYABCdlMdmY",
   "ABCdlNdmYABCdlSdmYABCdlXdmYABCdlYdmYABCdmHdmYABCdmLdmYeUBCdqVdrWABCdqWdrWBBCdrJdrWdFBCdwKdwUCB",
   "CdwQdwUbIBCdvIdwUABCdvJdwUABCdvOdwUCBCdwDdwUjTBCefPegQABCefQegQbbXBCfkVfjUeXBCfpTfoSbOBCfoLfnT",
   "ABCfoLfoBbUBBfsDcCBCfuGfyTJBCfuQfyTEBCfuVfyTEBCfvAfyTEBCfvFfyTMBCfuEfyRJBCfwBfwCBBCfwBfwEABC",
   "fyOfwQABDfyOfwBfwQABCfyPfwQABDfyPfwBfwQHBCfwBfwQRBCfxIfyTJBCfxSfyTEBCfxXfyTEBCfyCfyTEBCfyHfyTM",
   "BCfxGfyRmKBBgkAbdJGBhoIdfUBBbpIABBbpKABBbpUACBbpXABBbpYABBbqGABBbrFABBckzJgHBBdTABBiWABBdUBCB",
   "dWABBsJAIBdZBBBeHABBvBABBeIABBeKACBeMABBePABBdTACBwUABBkzQABBdUACBdWABBxDACBxFABBdZBBBeDABBeFA",
   "BBmTABBeHABBwYACBlaKABBeIACBeMABBlaRABBxZABBeOABBlaZADBbkKACBblEABBeBABBeKACBeNACBbkKABBbkZACB",
   "blENBBbpTbIBBwWABBdVABBwZABBjGABBxGABBdYABBxJABBxLABBxPADBxSABBleHABBzTABBxXABBleRABBzVABByBAB",
   "ByAAEByCABByIACBySABBqLACByZABBlaQACBzBABBeSADBzGABBbkQiKBCdTbbAABBlnDiFBBbkEBBBbkFBBBbkGBBB",
   "bkHBBBblKBBBblLBBBblMCBCltGbkRABCltHbkRABCltIbkRABCltJbkRABCltKbkRABCltLbkRABCltMbkRABCltNbkRA",
   "BCltGbkRABCltHbkRABCltIbkRABCltJbkRABCltKbkRABCltLbkRABCltMbkRABCltNbkRABCluMbkRABCluNbkRABC",
   "luObkRABCluPbkRABCluQbkRABCluRbkRABCluSbkRABCluTbkRABCluMbkRABCluNbkRABCluObkRABCluPbkRABCluQ",
   "bkRABCluRbkRABCluSbkRABCluTbkRABClwYbkRABClwZbkRABClxAbkRABClxBbkRABClxCbkRABClxDbkRABClxEbkRA",
   "BClxFbkRABClwYbkRABClwZbkRABClxAbkRABClxBbkRABClxCbkRABClxDbkRABClxEbkRABClxFbkRCBClxObkRABC",
   "bkJbkRABCbkEbkRCBCmaGbkRDBBbkEABCbkJbkRABCbGbeHABBbkRABCbGbeHABCbGbgCABDbGbdWbgCABClxSbkRABC",
   "bkPbkRABCbkGbkRCBCmaWbkRBBBbkFBBBbkGABCbkPbkRABDbGbeHbdOABDbGbeHbdPABDbGbeHbgCDBBbjCHBBbkHBBD",
   "bGbeIbdOABDbGbeIbdPABDbGbeIbgCDBBbkIHBBblLBBDbGbdWbdOABDbGbdWbdPABBdSCBClyAbkRABCblHbkRABCblM",
   "bkRCBCmcSbkRBBBblKBBBblMABCblHbkRABCbGbdPABCbGbeIBBBbGABBbGABBbGABBbGABBbGABBbGABBbGABBbGABBbG",
   "ABBbGABBbGGBBmdSFBCbGbfNXBBbGDBCmfAmfAABDmfAmfAmfABBCmfDmfDABDmfDmfDmfDEBCbHbHBBCbGbdTIBCcLcLA",
   "BCcLbHABCbHcLNBEmfAmfAmfAmfAHBBbGQBBbWABBeBCGBcAABBbRABBmxMABBcJACBbOABBeGAKBbWABBbRABBmxMABB",
   "cJACBbOBBBdTABBdXABBeHABBeQABBxDABBeAAEBeDABBeIACBeLLBCeKeLdJBDdTbVdVABDdTbVeLABBdVABCgUdVBBD",
   "dVbVeHABDdVbVeNABBxFBBCgUdYACBdZABBeAABBeAABBeAABBlJABBeBABBeBABBeEABBeEBBBeGABCeGeHCDBeIABBeK",
   "ABBeKCBCeLeFABDeMdXeEABCeMeFBBBeSDBBeSDCBdUBBBdXACBdXBBBeFABBeHAEBcfGABBeBBBDdYdTeQABBbkYABB",
   "bkLABBbkLABBbkYABBmxLEBBdWACBdWACBeBGBDbXmfScDABDbXmfScFABEbXmfSbXbWABDbXmfSbZABDbYmfSbZABDbX",
   "mfScBABDbYmfScBABDbZmfScBABDcAmfScBABDbXmfScCABDcBmfScCABDbXmfScEABDbZmfScEABDcBmfScEABDcDmfS",
   "cEABCbXmfSABBeBABCeBeBABDeBeBeBABCeBeOABBeOABCeOeBABDeOeBeBABEeOeBeBeBABCeBeQABBeQABCeQeBABDeQ",
   "eBeBABBeEACBdVABBeFABBeBABCeBeBABDeBeBeBABCeBeOABBeOABCeOeBABDeOeBeBABEeOeBeBeBABCeBeQABBeQABC",
   "eQeBABDeQeBeBABBeEACBdVABBeFJBDbWmfSbZgGBCmyLmyLABDmyLmyLmyLBBCmyOmyOABDmyOmyOmyOjOCBseYlXJBbX",
   "ABCbXbWABCbXbXABCbXbYABCbXbZABCbXcAABCbXcBABCbXcCABCbXcDABCbXcEABCbXcFABCbYbWABDbObXbPABDbObY",
   "bPABDbObZbPABDbOcAbPABDbOcBbPABDbOcCbPABDbOcDbPABDbOcEbPABDbOcFbPABEbObXbWbPABEbObXbXbPABEbObX",
   "bYbPABEbObXbZbPABEbObXcAbPABEbObXcBbPABEbObXcCbPABEbObXcDbPABEbObXcEbPABEbObXcFbPABEbObYbWbPUB",
   "DbOdTbPABDbOdUbPABDbOdVbPABDbOdWbPABDbOdXbPABDbOdYbPABDbOdZbPABDbOeAbPABDbOeBbPABDbOeCbPABDbO",
   "eDbPABDbOeEbPABDbOeFbPABDbOeGbPABDbOeHbPABDbOeIbPABDbOeJbPABDbOeKbPABDbOeLbPABDbOeMbPABDbOeNbP",
   "ABDbOeObPABDbOePbPABDbOeQbPABDbOeRbPABDbOeSbPAbABdTAbABdTABBbWbyNBEmyLmyLmyLmyLdZBDcGcGcJABCcJ",
   "cJABDcJcJcJdXBCqgBbfSpZBBeCABBeOjHBBreVlRBBbovLdFBBcilRMBBbdoAABBbdpOABBbdqCABBbdqLABBbdrLABB",
   "bdtDABBbdtKABBbduEABBbdvEABBbetZABBbevLABBbevRABBbewOABBbexIABBbeyDABBbfaEABBbfaZABBbfbKABB",
   "bfhJABBbfkZABBbfmBABBbfmGABBbfnKABBbfnTABBbfoUABBbfpHABBbfqGABBbfsGABBbfsYABBbftZABBbgxBABB",
   "bgzVABBbhrNABBbhsKABBbhsSABBbhtDABBbhtVABBbhwTABBbipCABBbiqYABBbivOABBbiwLABBbixEABBbiyAABB",
   "bjaCABBbjaFABBbjoDABBbjoNABBbjoZABBbjpMABBbjtYABBbjuGABBbjuLABBbjyYABBbjzIABBbjzVABBbkaDABB",
   "bkcMABBbkdDABBbkdVABBbkgXABBbldGABBblfAABBblfVABBbmiHABBbmiMABBbmlRABBbmmHABBbmmUABBbmnPABB",
   "bmpCABBbmpHABBbmzOABBbnaMABBbnbSABBbooUABBborIABBbosFABBbouLABBbovJABBbovSABBbovZABBboxZABB",
   "boyEABBbozKABBbqoXABBbrgCABBbrgOABBbrgTABBbrgXABBbrhFABBbrhXABBbrhZABBbrlCABBbrtKABBbrtPABB",
   "bsgQABBbshAABBbsiYABBbsjFABBbsjOABBbsjWABBbsnJABBbsnQABBbswKABBbswRABBbsyOABBbszFABBbtbAABB",
   "btkDABBbtkKABBbtlBABBbtxQABBbucMABBbucSABBbujSABBbunBABBbuoVABBbvdJABBbviMABBbweOABBbwfPABB",
   "bwhUABBbwjTABBbwmJABBbwmUABBbwnAABBbwoHABBbwrFABBbwrPABBbxeXABBbxfEABBbxfNABBbxfWABBbxgMABB",
   "bxhBABBbxhFABBbxkGABBbxkKABBbxkQABBbywJABBbyxNABBbzpOABBbzqAABBbzqXABBcabUABBcacHABBcafAABB",
   "cagUABBcbcPABBcbdEABBcbdTABBcbfCABBcbgNABBcboEABBcboQABBcbrFABBccaTABBccbYABBccjZABBcckUABB",
   "cckZABBcctLABBcdaNABBcdfIABBcdfOABBcdfTABBcepRABBceqAABBcewAABBcfbYABBcfcBABBcfdWABBcfhXABB",
   "cfiKABBcfiOABBcfiVABBcfmPABBcfnXABBcfoDABBcfoRABBcfvCABBcfxBABBcfxFABBcgeGABBcgeJABBcgfCABB",
   "cgoUABBcgqQABBcgqXABBcgtPABBcgtZABBcguCABBcguMABBcgvQABBchkVABBciaFABBciaPABBcicBABBcicXABB",
   "cidFABBcidPABBcidTABBcifHABBcifLABBcigCABBcigHABBcigUABBcihVABBciiKABBciiSABBcikZABBcilOABB",
   "cilSbQBBbGBBBbUbZBBsfIBBBbfnTACBbfnWdSBCbGskNABCbGskOCBCsjWsjYdRBCslNsmIbXCBglKABBgrYABBglMACB",
   "gsAADBglNAGBgsEABBgmKADBglQABBgmRAKBglTAVBgpDBCBgmEACBgtBABBgtGABBgtIABBgtNABBgtRABBgtTABBgmMA",
   "BBgtXABBgtZACBgmNABBgmQACBgmSABBgmXABBgmZAFBgnBABBgnIABBgnMABBgnWABBgoDABBgoIACBguRADBgoTACB",
   "gqMABBgqQACBgqZABBgrCABBgrMABBgrPDBBbdoAABBbdtKABBbdoJABBbgxFABBbdoKABBbdpTABBbdoLABBbsjYABB",
   "bdrLABBbdoZABBbdoBABBbhtXABBbhaMABBbdvEdSBDbOglKbPABDbOglMbPABDbOglNbPABDbOglPbPABDbOglQbPABD",
   "bOglRbPABDbOglTbPABDbOglVbPABDbOglWbPABDbOglYbPABDbOglZbPABDbOgmAbPABDbOgmBbPABDbOgmCbPABDbO",
   "cndObPABDbOcowUbPABDbOcptKbPABDbOcrmQbPABDbOcsjGbPABDbOctfWbPABDbOcuzCbPABDbOcwsIbPABDbOcxoYbP",
   "ABDbOcziEbPABDbOdaeUbPABDbOdbbKbPABDbOdbyAbPABDbOdcuQbPABDbOcycYbPABEbOcxaYcxtKbPABEbOcxaYddiQ",
   "bPBBDbObdoAbPABDbObdtKbPABDbObdoJbPABDbObgxFbPABDbObdtSbPABDbObevTbPABDbObdoDbPABDbObevRbPABD",
   "bObdrPbPABDbObfnTbPABDbObnaMbPABDbObqoXbPABDbObozKbPABDbObnbSbPABDbOcdfTbPABDbObgzVbPABDbObmpH",
   "bPABDbObnlQbPABDbObnaNbPABDbObtxUbPABDbObfvPbPABDbObrjDbPABDbOcbgRbPABDbObtyZbPABDbObfiIbPABD",
   "bObdwTbPABDbObfzWbPABDbObipYbPABDbObtaPbPABDbObdxXbPABDbOcbiDbPABDbObfoMbPABDbObtzPbPABDbObdyN",
   "bPABDbObxfEbPABDbObxfNbPABBbghZABBbjuIABBbmlRABBbuuPIBDeIeMdXABCbYbXABCbYbYABCbYbZABCbYcAABCbY",
   "cBABCbYcCABCbYcDABCbYcEABCbYcFABCbZbWABCbZbXABCbZbYABCbZbZABCbZcAABCbZcBABBglKACBglMADBglPABB",
   "glTACBglVAFBglYABBcndOABBcowUABBcptKABBcrmQABBcsjGABBctfWABBcuzCABBcwsIABBcxoYABBcziEABBdaeUAB",
   "BdbbKABBdbyAABBdcuQABCcziUcnmEABCcycYcxmUABBcxgIBBBbdoAABBbdtKABBbdoJABBbgxFABBbdtSABBbevTABB",
   "bdoDABBbevRABBbdrPABBbfnTABBbnaMABBbqoXABBbozKABBbnbSABBcdfTABBbgzVABBbmpHABBbnlQABBbnaNABB",
   "btxUABBbfvPABBbrjDABBcbgRABBbtyZABBbfiIABBbudSABBbskDABBbhwTABBccrXABBbetEABBbfpOABBbpgIABB",
   "cfoVABBbdyNABBbexLABBborJABBbdoKABBbdpTABBbdoLABBbjoOABBbfuPABBbfnNABBbirVABBbipYABBbtaPABB",
   "bdxXABBcbiDABBbfoMABBbhtKABCbZcCABCbZcDABCbZcEABCbZcFABCcAbWABCcAbXABCcAbYABCcAbZABCcAcAABCcA",
   "cBABCcAcCABCcAcDABCcAcEABCcAcFABCcBbWABCbXbnaMABCbYbnaMABCbZbnaMABCcAbnaMABCcBbnaMABCcCbnaMABC",
   "cDbnaMABCcEbnaMABCcFbnaMABDbXbWbnaMABDbXbXbnaMABDbXbYbnaMABCeAdZABDdXeKdZABCdXeOABDeEeMdWABB",
   "skWABBskYABBslAABBslCACBslEABBslHABBslJABBslLABBslNABBslPABBslRABBslTABBslVABBslXABBslZABBsmBA",
   "BBsmEABBsmGABBsmIAGBsmKABBsmSABBsmVABBsmYABBsnBAFBsnEABBsnKABBsnMAGBsnOAEBsnVABCbdwUbgaMABEskW",
   "smRsoIsmIABEskWsnRsmVskVABEskWsnZsnAskWABDskWsoIsnRABEskYsmLsnZslKABDskYsnZsmBABDslAslDsnZABF",
   "slCslTslJsoIsmJABEslCsoIslFsoIABDslEsnZslTABDslEsoIsnGABDslFskYsnQABEslFsnPsmDsmIABEslFsnTsnQ",
   "soIABDslGsnTsnZABDslGsnZsnEABCslIslGABDslIsmLsoIABEslHsnLsnQsoIABEslIsnRsmAsoIABCslHsnTABFslH",
   "snTslKsnPsnGABGslHsnTsnHsoIsmIsnRABFslHsnTsnVsmDsmIABDslKsnPsnGABFslKsnPsnGsmIsnZABFslJsnRslW",
   "skYsnTABEslJsnTsoIsmNABDslLsoIslTABDslNsnRsmKABDslNsoIsnDABEslPskYslJsnRABFslPsnZsmBsoIsnGABE",
   "slRsnQsnZslKABDslVsnZsmBABDslVsnZsmIABDsmAsoIslTABCsmHslRABCsmJsnRABCsmIsnZABCsmKsmOABDsmOsmD",
   "smIABDsmPskYsmEABFsmRsoIslVsnZsmIABDsmRsoIsmEABEsmQsoIsnSsnRABFsmUskWslTsmIsnRABDsmUslJsnRABC",
   "smUslNABCsmTsnRABFsmVskVsnPsmDsmJABEsmVskXsoIsmIABFsmWsmDslRslBsnRABDsmVsnPsnZABFsmYslJslZsoI",
   "snRABCsnAslXABDsnAsmLsmSABDsmYsnRsmEABDsnAsnZslTABDsnAsoIslSABDsmZsoIslZABEsnDskYsnZsmIABDsnC",
   "snRsmIABCsnBsnZABDsnDsnZsmJABDsnBsoIsnRABDsnBsoIsnZABEsnEskYslJsnTABDsnEskYsnRABDsnEsmDsmPABD",
   "snEsnRslJABFsnEsnZslRsnNsnZABEsnFslJsnTsnZABCsnFsnQABFsnFsnQsmQsoIsnRABCsnHslGABEsnHslGsmIsnZA",
   "BEsnHsoIsmIsnRABDsnKsoIsmJABDsnKsoIsnRABDsnMskWsnZABEsnQsmDsmIsnRABCsnQsnPABDsnRsmUsoIABEsnR",
   "soIsmWsnRABCsnSsnGABFsnSsnZsmIslMsnZABDsnVsmDsmIABCbWbqrXABCbXbqrXABCbYbqrXABCbZbqrXABCcAbqrXA",
   "BCcBbqrXABCcCbqrXABCcDbqrXABCcEbqrXABCcFbqrXABDbXbWbqrXABDbXbXbqrXABDbXbYbqrXABDbXbZbqrXABDbX",
   "cAbqrXABDbXcBbqrXABDbXcCbqrXABDbXcDbqrXABDbXcEbqrXABDbXcFbqrXABDbYbWbqrXABDbYbXbqrXABDbYbYbqrX",
   "ABDbYbZbqrXABDbYcAbqrXABDeAeIdTABCdWdTABCdTeNABDdUdTeKABCeHeOABCeIdVABCdWeFABDdWeFbYABDdWeFbZA",
   "BCeBeNABCbjtZbldOABCbmsBbgaMABCbhtVborJABCbmqWbpePABEbnlQbjzZbdyWbtxUABCeIdTABCeGdTABCbkUdTABC",
   "eFdTABCeDdTABCeDdUABCeFdUABCdZdUABDdVdTeEABEeDdVdTeEABCeIdYABCeGdYABCbkUdYABCbkUdZABCeFdZABCeD",
   "dZABCeAeSABDeDeAeSABDeFeAeSABDdZeAeSABDeMeAeSABCbkUeEABCeFeEABCdWeEABCeDeEABCdYeFABCeGeFABCbkU",
   "eFABCeFeFABCdVeFABCeDeFABDeFeFbYABDdVeFbYABCeFbYABDeDeFbYABDeFeFbZABDdVeFbZABCeFbZABDeDeFbZABD",
   "eFmxPeLABEeFmxPeLbYABCeIdTABDeDeIdTABDeFeIdTABDdZeIdTABDeKdTdWABFeKdTdWmxPeLABGeKdTdWmxPeLbYAB",
   "CeIeLABCeGeLABCbkUeLABCeFeLABCeIeOABCeGeOABCbkUeOABCeFeOABCeDeOABCeFeOABCeIePABCeGePABCbkUePAB",
   "CeFePABCeDePABCeFePABCeDblHABCeFblHBBCdUeJABCdVdVABCdVdWABEdVmxPeDdZBBCdWdUABCdZeRABCeAdTABCeA",
   "eIABCeBeGABCeDeDABCeDeFABCeDeMABCeEeFABCeEeGABDeEeHdZABCeEeQABCeFdUABDeFeBeEABDeFeHeEABCeIeABB",
   "DeIeIeFABCeIeKABCeLeKABCeLeOABCePdUABDeOmxPeFABDdTmxPeFABCbXbmpHABCbYbmpHABCbZbmpHABCcAbmpHABC",
   "cBbmpHABCcCbmpHABCcDbmpHABCcEbmpHABCcFbmpHABDbXbWbmpHABDbXbXbmpHABDbXbYbmpHABDbXbZbmpHABDbXcA",
   "bmpHABDbXcBbmpHABDbXcCbmpHABDbXcDbmpHABDbXcEbmpHABDbXcFbmpHABDbYbWbmpHABDbYbXbmpHABDbYbYbmpHAB",
   "DbYbZbmpHABDbYcAbmpHABDbYcBbmpHABDbYcCbmpHABDbYcDbmpHABDbYcEbmpHABDbYcFbmpHABDbZbWbmpHABDbZbX",
   "bmpHABDdZdTeEbrkMBBbqGABBbqIiCBBclkPeYBBeLABBdVABBdYABBeJDBBlJABBnBbhIBBclhVABBcmvVABBxVABB",
   "cmwWJBBzDGdCBhlGbdgQBBcbdGABBbmzSABBccbYABBcbiEABBbpzDABBbdpYABBbfuBABBcilOABBcilOABBbhvLABB",
   "cdfTABBbgkDABBbhvCABBblcOABBbsvXABBbwhPABBbyvVABBbzkKABBbzwQABBcctJABBbodUABBbpiHABBbqtDABB",
   "brwWABBbycBABBcdbUABBcghTABBbdtAABBbfpTABBbonSABBbrfNABBbyvDABBchwWABBbjiUABBbqjZABBbyrLABB",
   "caaUABBblkRABBbxeMABBbzoHABBbjxIABBbnbBABBbplIABBbroEABBccvUABBbedAABBbeyPABBbfjYABBbmeEABB",
   "bolVABBbrfCABBbtaTABBbwmJABBbytQABBbywYABBcbtNABBcfgSABBcgwLABBchvMABBbtqYABBbuaHABBbvoYABB",
   "bxxPABBcdrOABBciaPABBcapAABBbhrBABBbjzOABBbvcQABBbwrEABBbriGABBbttIABBcbhYABBcfeLABBbhqUABB",
   "bizQABBboeLABBbppQABBbqbNABBbvkPABBbvuTABBcexVABBbfjMABBbwrRABBbfaAABBbezKABBbugIABBbvqCABB",
   "bxzDABBcezLABBcavOABBblkXABBbodUABBcaqOABBbdqFABBbiuXABBbkjYABBbrtNABBbsmIABBbfmDABBbtvFABB",
   "befFABBbkfXABBbdoNABBbpfGABBbmlCABBbvkCABBbfsTABBbhmCABBbtbTABBbycNABBcanIABBbouSABBcckUABB",
   "bpcQABBblmSABBbxoVABBblsYABBbslXABBbduSABBbevPABBbezHABBbnoZABBbvhVABBbxkHABBcaoWABBcdfRABB",
   "bfkVABBbfxQABBbhwTABBbjyQABBbmoBABBbqkSABBbtxAABBcerTABBcgmKABBcibNABBcidQABBbfhJABBbmxYABB",
   "bosDABBcchUABBbjuAABBbkyQABBblcYABBbmcOABBbqcHABBbqxLABBbsdLABBbudEABBbvsEABBbwqPABBccfMABB",
   "byiWABBccpFABBcduGABBbfcHABBbfhRABBbgcJABBbqsMABBbzuOABBcanIABBbjxHABBbkiVABBblrNABBbouGABB",
   "bvbIABBbrsVABBbdwUABBbgyJABBbiuXABBbjmWABBbkkIABBbrvEABBbscFABBbwiKABBbwpAABBcdjOABBcfeKABB",
   "cfhOABBcfpOABBbedFABBbucCABBcdeQABBcfcAABBbkrXABBbdtEABBbeqCABBbivEABBbiyHABBbmmJABBbodUABB",
   "brcOABBbsuKABBbyjKABBccsQABBcikZABBbmvOABBcewSABBbfgRABBbneXABBbnjNABBbpjTABBbpxCABBbryNABB",
   "bslLABBbtpRABBbvjKABBcfsGABBbevTABBbleSABBcezOABBbejJABBbjgRABBbpqGABBccfQABBbkeTABBbkvSABB",
   "bnkXABBbrtNABBcfaCABBbfcZABBbfvRABBbizTABBbmrBABBbndEABBbnqMABBbpgFABBbryKABBbsqSABBbwhDABB",
   "bzvBABBbzvTABBcdfOABBcfdQABBbfnRABBbpyGABBbfwFABBbrcQABBbseAABBbytEABBcfbFABBchfJABBcibVABB",
   "bnfZABBbppBABBbxfCABBbunBABBbuqIABBbveOABBbrlWABBbqqRABBcauAABBbdvKABBbxrYABBbfdQABBbfbRABB",
   "bjvYABBbllBABBbvhEABBbirDABBbpiKABBbmxGABBccgHABBbzqAABBcexXABBcacHABBbjxRABBbeuAABBbgmICBB",
   "bhlYBBBbmuUCBBbfaCABBbrpYABBbszQABBbtxSABBbtzAABBbtzHABBbuaXABBcfiCABBbvgGABBbwjTBBBbyuCBBB",
   "caqICBBccqAABBccxPDBBcfxVABBcfyIABBcgaAABBchsUABBccwKABBcfbZABBbeeOABBbeqPABBbeuNABBbfjDABB",
   "bfkEABBbfoJABBbgkZABBbgpAABBbgsUABBbhkYABBbhoYABBbizSABBbjaCABBbkoYABBbkxCABBbkyOABBblcKABB",
   "bmjNABBbmpEABBbmvXABBbnpDABBbplVABBbpsCABBbqcGABBbqyWABBbrgDABBbrzMABBbtrDABBbtxUABBbtyFABB",
   "btyEABBbtyMABBbtySABBbtyZACBbuaVABBbuhSABBbukFABBbuwMABBbvsEABBbvsZABBbvvDABBbwgWABBbwmNABB",
   "bxfHABBbxkRABBbxkRABBbydBABBbzxOABBcacSABBcaqRABBcasVABBcbiPABBcbkQABBcclAABBccqAABBcfdRABB",
   "cfoPABBcfqXABBbknTABBilgGABBbxgYCBBbdpMABBbeyNABBbevOABBbecUABBbeuFABBbewMABBbfjBABBbflAABB",
   "bgkZABBbgiFABBbgkVABBbgnQABBbhlYABBbhpJABBbhuYABBbhvOABBbifYABBbinOABBbjxQABBbjxXABBbkdLABB",
   "bkgBABBbkrOABBbkwCABBbktKABBbkyOABBbkwUABBblcKABBbleYABBbluIABBblxSABBblzUABBbmjUABBbmuUABB",
   "bnbBABBbnbFABBbndMABBbosFABBbouSABBbpjTABBbpzNABBbpyXABBbqcGABBbqlYABBbqyWABBbtiDABBbrgNABB",
   "brlFABBbrpYABBbscNABBbsiGABBbskHABBbssZABBbstBABBbszQABBbtaHABBbtbGABBbteOABBbteEABBbttKABB",
   "bumBABBbuwMABBbvdRABBbvmHABBbvsEABBbweWABBbwmNABBbxtAABBbxzBABBbzhXABBbzzLABBcacCABBcacSABB",
   "caoDABBcaqIABBcaoPABBcaqRABBcaqOABBcapXABBcasVABBcavYABBcbkQABBccgEABBccsGABBcddPABBcdmCABB",
   "cezSABBcfdRABBcfiCABBcfnFABBcfoPABBcfpBABBcfqXABBcgsWABBcilOABBibdYABBibdSABBifnPABBwoZABByhCA",
   "BByiJABBirbLABBivbCABBjhxZABBciiDABBcilAbMBCdYdYABCdYeBABCdYeEABDdYdYeBABDdYdYeEABCeLeMABCeLeM",
   "MBCcbScbUABCcbScbDABCcbScbJABCccCcbUABCcbScbLFBCcfPceEBBCcgOceHABBcfYABBcfGACBcfJADBcfRABBcgEA",
   "BBcgGABBbRABCcgFceRABCcgFceSABDcgFceMceRABDcgFceMceSABCcfGceHABCcfGceIABCcfGceMABCcfHceMABCcfI",
   "ceMABCcfJceMABCcfKceMABCcfLceMABCcfMceMBBCcfOceMABCcfPceMABCcfQceMABCcfRceMABCcfSceMBBCcfUceMB",
   "BCcfWceMABCcfXceMBBCcfZceMABCcgAceMBBCcgCceMABCcgDceMABCcgEceMABCcgFceMABCcgGceMABCcfLceJABC",
   "cfHcePABCcfRcePABCcgAcePABCcfGcfSABBclLABBclLABBclVABBclVABBclVABBclVABBclYABBclYABBclYABBclYA",
   "BBcmAABBcmAABBcmAABBcmAABBclUABBclUABBclUABBclUABBclZABBclZABBclZABBclZABBclTABBclTABBclTABB",
   "clTABBcnKABBcnKABBcnKABBcnKABBcnMABBcnMABBcnMABBcnMABBcmEABBcmEABBcmEABBcmEABBcmDABBcmDABBcmDA",
   "BBcmDABBcmGABBcmGABBcmGACBcmGABBcmHABBcmHABBcmHABBcmNABBcmNABBcmMABBcmMABBcmOABBcmOABBcmIABB",
   "cmIABBcmYABBcmYABBcmRABBcmRABBcnPABBcnPABBcnPABBcnPABBcnVABBcnVABBcnVABBcnVABBcnZABBcnZABBcnZA",
   "BBcnZABBcnXABBcnXABBcnXABBcnXABBcoGACBcoGABBcoHABBcoHABBcoHABBcoMACBcoMABBcoNABBcoNABBcoNABB",
   "coKABBcoKABBcoKABBcoKABBcpEACBcpEABBcpFbHBBcnTABBcnTABBcnTABBcnTABBcoTABBcoTABBcoSABBcoSABBcoU",
   "ABBcoUABCcoTclOABBcoXABBcoXABBcoRABBcoRABBcoVABBcoVABBcpCABBcpCABBcpCABBcpCABBcjXABBcjXABCciO",
   "ciPABCciOciPABCciOcpHABCciOcpHABCciOcjWABCciOcjWABCciOcoTABCciOcoTABCciOcoSABCciOcoSABCciOcoUA",
   "BCciOcoUABCciOcpCABCciOcpCABCciOcpCABCciOcjXABCciOcjXABCciOcjXABBcoYABBcoYABBcoYABBcoYABCciO",
   "ciUABCciOciVABCciOcjTABCciOcjXABCciOcjYABCciQciUABCciQciVABCciQciWABCciQcjTABCciQcjXABCciQcjYA",
   "BCciSciUABCciSciVABCciSciWABCciScjTABCciScjXABCciScjYABCciTciUABCciTcjTABCciTcjXABCciTcjYABC",
   "ciUciVABCciUcjTABCciVciUABCciVcjTABCciWciUABCciWciVABCciWcjTABCcjBciUABCcjBciVABCcjBciWABCcjB",
   "cjTABCcjDciVABCcjDcjTABCcjEciUABCcjEciVABCcjEciWABCcjEcjTABCcjFciVABCcjFcjTABCcjGcjTABCcjHciUA",
   "BCcjHcjTABCcjIciUABCcjIcjTABCcjPciUABCcjPciVABCcjPciWABCcjPcjTABCcjPcjXABCcjPcjYABCcjQciVABC",
   "cjQcjTABCcjQcjXABCcjQcjYABCcjRciPABCcjRciUABCcjRciVABCcjRciWABCcjRcjSABCcjRcjTABCcjRcjXABCcjR",
   "cjYABCcjSciUABCcjSciVABCcjSciWABCcjScjTABCcjScjXABCcjScjYABCcjTciUABCcjTciVABCcjTciWABCcjTcjTA",
   "BCcjTcjXABCcjTcjYABCcjUciUABCcjUciVABCcjUciWABCcjUcjTABCcjUcjXABCcjUcjYABCcjVciUABCcjVcjTABC",
   "cjVcjXABCcjVcjYABCcjYciUABCcjYciVABCcjYciWABCcjYcjTABCcjYcjXABCcjYcjYABCciYclKABCciZclKABCcjX",
   "clKABDbGckAckFABDbGckBckFABDbGckCckFABDbGckDckFABDbGckEckFABDbGckFclKABCciOciZABCciOcjAABCciO",
   "cjTABCciOcjUABCciOcjXABCciOcjYABCciQciZABCciQcjAABCciQcjTABCciQcjUABCciQcjXABCciQcjYABCciSciZA",
   "BCciScjAABCciScjTABCciScjUABCciScjXABCciScjYABCciTciZABCciTcjAABCciTcjTABCciTcjUABCciTcjXABC",
   "ciTcjYABCcjPcjXABCcjPcjYABCcjQcjXABCcjQcjYABCcjRciPABCcjRcjSABCcjRcjTABCcjRcjXABCcjRcjYABCcjS",
   "cjTABCcjScjXABCcjScjYABCcjTciPABCcjTcjTABCcjUciZABCcjUcjAABCcjUcjTABCcjUcjUABCcjUcjXABCcjUcjYA",
   "BCcjXclKABCcjYciZABCcjYcjAABCcjYcjTABCcjYcjUABCcjYcjXABCcjYcjYABCciOciUABCciOciVABCciOciWABC",
   "ciOcjTABCciOcjVABCciQciUABCciQciVABCciQciWABCciQcjTABCciQcjVABCciSciUABCciSciVABCciSciWABCciS",
   "cjTABCciScjVABCciTcjTABCciUciVABCciUcjTABCciVciUABCciVcjTABCciWciUABCciWcjTABCcjBciUABCcjBciVA",
   "BCcjBciWABCcjBcjTABCcjDciVABCcjDciWABCcjDcjTABCcjEciUABCcjEciVABCcjEciWABCcjEcjTABCcjFciVABC",
   "cjGcjTABCcjHciUABCcjHcjTABCcjIciUABCcjIcjTABCcjPciUABCcjPciVABCcjPciWABCcjPcjTABCcjQciVABCcjQ",
   "cjTABCcjRciUABCcjRciVABCcjRciWABCcjRcjSABCcjRcjTABCcjSciUABCcjSciVABCcjSciWABCcjScjTABCcjScjVA",
   "BCcjTciUABCcjTciVABCcjTciWABCcjTcjTABCcjUciUABCcjUciVABCcjUciWABCcjUcjTABCcjUcjVABCcjVciUABC",
   "cjVcjTABCcjVclKABCcjYciUABCcjYciVABCcjYciWABCcjYcjTABCcjYcjVABCciOcjTABCciOcjVABCciQcjTABCciQ",
   "cjVABCciScjTABCciScjVABCciTcjTABCciTcjVABCcjBcjTABCcjBcjVABCcjCcjTABCcjCcjVABCcjRcjSABCcjRcjTA",
   "BCcjScjTABCcjUcjTABCcjUcjVABCcjYcjTABCcjYcjVABDcjOckCckFABDcjOckDckFABDcjOckEckFABCcjFcjXABC",
   "cjFcjYABCcjHcjXABCcjHcjYABCcjIcjXABCcjIcjYABCcjBcjXABCcjBcjYABCcjCcjXABCcjCcjYABCciVcjXABCciV",
   "cjYABCciUcjXABCciUcjYABCciWcjXABCciWcjYABCcjDcjXABCcjDcjYABCcjEcjXABCcjEcjYABCcjCciUABCcjCciVA",
   "BCcjCciWABCcjCcjTABCcjCciZABCcjBciZABCcjDciZABCcjEciZABCcjFcjXABCcjFcjYABCcjHcjXABCcjHcjYABC",
   "cjIcjXABCcjIcjYABCcjBcjXABCcjBcjYABCcjCcjXABCcjCcjYABCciVcjXABCciVcjYABCciUcjXABCciUcjYABCciW",
   "cjXABCciWcjYABCcjDcjXABCcjDcjYABCcjEcjXABCcjEcjYABCcjCciUABCcjCciVABCcjCciWABCcjCcjTABCcjCciZA",
   "BCcjBciZABCcjDciZABCcjEciZABCcjCciUABCcjCciVABCcjCciWABCcjCcjTABCcjBcjVABCcjCcjVABCcjFcjTABC",
   "cjBciUABCcjBciVABCcjBciWABCcjCciUABCcjCciVABCcjCciWABCcjFcjTABCcjGcjTABCciPcjZABCciPcjZSBDciS",
   "ciUcjTABDciSciVciUABDciSciVciUABDciSciVcjTABDciSciWcjTABDciScjTciUABDciScjTciVABDciScjTciWABD",
   "ciUcjTciVABDciUcjTciVABDciVcjTcjYABDciVcjTcjXABDcjBciVciUABDcjBciUciVABDcjBciUcjXABDcjBcjTciVA",
   "BDcjBcjTciVABDcjBcjTciUABDcjBcjTcjTABDcjBcjTcjTABDcjDciVciVABDcjDciVciVABDcjDcjTcjTABDcjCciV",
   "cjTABDcjCciVcjTABDcjCciUcjYABDcjCcjTciWABDcjCcjTciWABDcjCcjTcjTABDcjCcjTcjTABDcjEciVcjXABDcjE",
   "ciWcjTABDcjEciWcjTABDcjFcjTciVABDcjFcjTciVABDcjFcjTcjTABDcjFcjTcjYABDcjHciUcjTABDcjHcjTcjTABD",
   "cjHcjTcjTABDcjHcjTcjXABDcjIcjTcjTABDcjIcjTcjYABDcjIcjTcjXABDcjPciWcjTABDcjPciWcjTABDcjQcjTciVA",
   "BDcjQcjTcjTABDcjSciVcjTABDcjSciVcjYABDcjSciVcjXABDcjSciUciUABDcjSciUciUABDcjSciWcjTABDcjSciW",
   "cjTABDcjScjTciVABDcjScjTciVABDcjTciVciUABDcjTciVcjTABDcjTciVcjYABDcjTciUciVABDcjTciUcjTABDcjT",
   "ciWciUABDcjTciWcjTCBDcjTciUciWABDcjVcjTciUABDcjVcjTcjTABDcjUciVcjTABDcjUciVcjXABDcjUciUcjTABD",
   "cjUciUcjTABDcjUciUcjXABDcjUcjTcjYABDcjUcjTcjXABDcjYcjTcjTABDcjYcjTcjTABDciQciWcjYABDciSciUcjYA",
   "BDciSciUcjXABDciSciWcjYABDciSciWcjXABDciScjTcjYABDciScjTcjXABDciUcjTcjYABDciUciVcjXABDciUcjT",
   "cjXABDcjBciWcjXABDcjDciVcjYABDcjCciVcjYABDcjEciVcjYABDcjSciUcjYABDcjScjTcjYABDcjYciVcjYABDcjY",
   "ciUcjYABDcjYcjTcjYABDcjTcjTcjYABDcjQcjTcjYABDcjUciVcjYABDcjQcjTciVABDcjSciVcjTABDcjHcjTcjYABD",
   "cjRcjTcjYABDcjUciUciVABDcjTciWcjYABDcjSciUcjTABDcjRcjTcjTABDcjSciUcjTABDcjUciUciVABDciUciVcjYA",
   "BDciVciUcjYABDcjTciUcjYABDcjPcjTcjYABDciQciVcjYABDcjRcjTcjTABDcjHciUcjTABDcjDcjTcjTABDcjBciW",
   "cjYABDcjUciUcjYbOBDcjDcjScpEABDcjQcjScpEABEciPcjScjScjVABEciPcjRciQciZABEcjTciVcjTciXABEcjDcjS",
   "cjHcjTABEciZcjBcjWcjSABEcjHcjScjYcjVABEcjWcjBcjScjTABDcjDcjScjXABScjDcjScjXbGciPcjScjScjVbGcjH",
   "cjScjYcjVbGcjWcjBcjScjTABIciUcjSbGciUcjSciPcjScjVABEciZcoYciPcjSTBBbSABBseRBCBcGABBbHABBcLACB",
   "sfMYBBmdWABBmdVABBdRABBdRACBbOABBeTABBeVACBsfKACBsfGACBsfAACBseYAEBsfCCBBdNABBdPABCbGbdTABCbG",
   "bdTABCbGbdTABCbGbdTABBdRABBdRABBdRABBbSABBseRCBBcHABBcGABBcLABBbHABBmdWACBbOABBeTABBeVACBsfKAB",
   "BbJABBbMACBbQABBbTABBcIABBcKABBcJBBBdOACBbKABBcMEBCbGcjZABCcjOcjZABCbGckABBCbGckBBBCbGckCABC",
   "cjOckCABCbGckDABCcjOckDABCbGckEABCcjOckEABCbGckFABCcjOckFABCbGckGABCcjOckGACBciJACBciKACBciLAC",
   "BciMACBciNABBciOABBciOACBciOACBciPABBciQABBciQACBciQACBciRABBciSABBciSACBciSABBciTABBciTACBciT",
   "ABBciUABBciUACBciUABBciVABBciVACBciVABBciWABBciWACBciWACBciXACBciYACBciZACBcjAABBcjBABBcjBACB",
   "cjBABBcjCABBcjCACBcjCABBcjDABBcjDACBcjDABBcjEABBcjEACBcjEABBcjFABBcjFACBcjFABBcjGABBcjGACBcjGA",
   "BBcjHABBcjHACBcjHABBcjIABBcjIABBcjIABBcjPABBcjPABBcjPACBcjPABBcjQABBcjQACBcjQABBcjRABBcjRACB",
   "cjRABBcjSABBcjSACBcjSABBcjTABBcjTACBcjTABBcjUABBcjUACBcjUABBcjVABBcjVACBcjVACBcjWACBcjXABBcjYA",
   "BBcjYABBcjYABCcjSciKABCcjSciKABCcjSciLABCcjSciLABCcjSciNABCcjSciNABCcjSciPABCcjSciPEbGBbHAbAB",
   "dTAbKBdNACBpsVABBbUACBsfCABBseRABBsoHABBsnYABBskVABBskXABBskZABBslBABBslDABBsnJABBsnLABBsnNABB",
   "smDABBsoIABBskWABBskYABBslAABBslCACBslEABBslHABBslJABBslLABBslNABBslPABBslRABBslTABBslVABBslXA",
   "BBslZABBsmBABBsmEABBsmGABBsmIAGBsmKABBsmSABBsmVABBsmYABBsnBAFBsnEABBsnKABBsnMAGBsnOABBsnVABB",
   "snZACBskNBCBglKABBgrYABBglMACBgsAADBglNAGBgsEABBgmKADBglQABBgmRAKBglTDGBgpDCGBgpJCGBgpPCDBgpVD",
   "CBgGABBgQABCbGbdSABBgKABBgJABBmjPBBBoaKAEBmsMABBogMABBoiDcwOCBbbSABBiWABBzPABBwXBBBzZABBcmxQAB",
   "BbaBABBbaAACBxAABBlfDABBxCABBxIABBbaFABBxOABBxMABBxKABBzRABBlJABBzSABBxRABByUACBbaGABBxWABB",
   "gzkMABBcllUABBxYABBgzkNABBzEABBgzkOABBjOACByGABBeJABByKABBgzkQACByNABByQABBbaEABBbaCABBcmxRABB",
   "baDABByYABBqvPBBBzFACBzXABBzOADBrGABBgzkSABBgzlMcwqTbABdTAKBbWbrGBCgufVgugJABCgufWgugJABDgufW",
   "gugJgugSABDgufWgugJgugTABDgufWgugJgugUABDgufWgugJgugVABDgufWgugJgugWdIBCgujPgugJABCgujQgugJABD",
   "gujPgugJgugSABDgujQgugJgugSABDgujPgugJgugTABDgujQgugJgugTwDbABdTAbABdTAbABdTAHBdTBSBeBAbABdTA",
   "bABdTABBdTBCBdVCBBdZCCBeCCEBeGBIBeLAEBdTBBBdYBHBeABLBeIAbABdTAbABdTACBdTBEBdWCIBeCBHBeLBbABdTA",
   "CBdTBEBdWBFBeBBBBeHDHBeLBbABdTAbABdTAbABdTAbABdTAbABdTAbABdTAbABdTAbABdTAbABdTAbABdTAbABdTAbAB",
   "dTAbABdTABBlTABBvVCRBbkJABBbkQAHBblBABBmxBARBbkJABBblBAHBblBABBmwWABBbkNABBbkQABBbkSABBblEABB",
   "bkZABBbkYARBbkJABBbkQAHBblBABBmxBARBbkJABBblBAHBblBABBmwWABBbkNABBbkQABBbkSABBblEABBbkZABBbkYA",
   "RBbkJABBbkQAHBblBABBmxBARBbkJABBblBAHBblBABBmwWABBbkNABBbkQABBbkSABBblEABBbkZABBbkYARBbkJABB",
   "bkQAHBblBABBmxBARBbkJABBblBAHBblBABBmwWABBbkNABBbkQABBbkSABBblEABBbkZABBbkYARBbkJABBbkQAHBblBA",
   "BBmxBARBbkJABBblBAHBblBABBmwWABBbkNABBbkQABBbkSABBblEABBbkZABBbkYABBbmBABBbmBCKBbWAKBbWAKBbWAK",
   "BbWAKBbWdcQJBbpGADBbpQALBbpUABBbqHACBbqJABBclbTABBbvTABBbqSABBbqUABBbwJABBbuDABBbvJAJBbpGACB",
   "bpQACBbpUABBbpXAGBbpZACBbqGABBbsZABBbqSABBbqRABBbrBABBbtZABBckzPABBbuFfdQCBciPABBciUABBciXBBB",
   "cjWABBcjAABBciVABBcjFABBcjYAEBcjRABBcjBABBcjHABBcjPABBcjDABBcjQABBciZABBcjCACBciSABBciWABBciYA",
   "BBcjEABBcjGABBcjIABBclIABBcoGABBcnHABBclJBBBciQABBciUBBBcjVCBBciVBBBcjYAEBcjRABBcjBABBcjHABB",
   "cjPABBcjDABBcjQBBBcjCACBciSABBciWBBBcjEBBBcjIGBBciUEBBciVBBBcjYBBBcjSBBBcjUABBcjBABBcjHBBBcjDA",
   "BBcjQBBBcjCCBBciWBBBcjEBBBcjIBBBcoGBBBclJBBBciQABBciUBBBcjVCBBciVABBcjFABBcjYABBcjRBCBcjTABB",
   "cjBABBcjHABBcjPABBcjDABBcjQBBBcjCACBciSABBciWBBBcjEABBcjGABBcjIABBclIBBBcnHBCBciPABBciUABBciXA",
   "CBcjVABBcjAABBciVABBcjFABBcjYBDBcjSABBcjBABBcjHABBcjPABBcjDABBcjQABBciZABBcjCACBciSABBciWABB",
   "ciYABBcjEABBcjGABBcjIFBBciQABBciUABBciXBBBcjWABBcjAABBciVABBcjFABBcjYBDBcjSABBcjBABBcjHABBcjPA",
   "BBcjDABBcjQABBciZABBcjCACBciSABBciWABBciYABBcjEABBcjGABBcjIwJBCbWbSABCbXbSABCbYbSABCbZbSABCcA",
   "bSABCcBbSABCcCbSABCcDbSABCcEbSABCcFbSFBDbOdTbPABDbOdUbPABDbOdVbPABDbOdWbPABDbOdXbPABDbOdYbPABD",
   "bOdZbPABDbOeAbPABDbOeBbPABDbOeCbPABDbOeDbPABDbOeEbPABDbOeFbPABDbOeGbPABDbOeHbPABDbOeIbPABDbOeJ",
   "bPABDbOeKbPABDbOeLbPABDbOeMbPABDbOeNbPABDbOeObPABDbOePbPABDbOeQbPABDbOeRbPABDbOeSbPABDsfKeLsfL",
   "ABBdVABBeKABCdVdWABCePeSBbABdTABCeAeOABCeFeOABCeLdWABCeLeLABDeIeIeOABCePdVbABCeFdVABCeFdWABCeF",
   "eKbJBCdWeCeHBCsjJshNABCslNslNABBslPNBBblfVABBbipJABBbftCABBsmHABBbdtKABBbhtIABBcafRABBbhtXABB",
   "bduIABBbmrOABBbqvXABBbmmJABBbfeJABBbkeUABBbewZABBbmnGABBbfcNABBbvlIABBbsjFABBcbgZABBbhrSABB",
   "bfxHABBbqbSABBbliRABBblqBABBbdoAABBbdoJABBccqSABBbjoOABBbdpTABBbfuPABBblnBABBcboQABBblgDABB",
   "buaJABBbujYABBbfvKABBbpwAABBbnaNABBbnaMABBbsjZABBbffUABBbglYABBcdaREBDsfKbnbWsfLABDsfKbdoJsfLA",
   "BDsfKbdtKsfLABDsfKbirHsfLABDsfKbqrXsfLABDsfKblgDsfLABDsfKbtaDsfLABDsfKbfjXsfLABDsfKbmjVsfLHBB",
   "bkfFABBbfuLdqSKBbWdrlMBBbdqJABBbdqEABBbdqNABBhmiKABBbebOABBbeeOABBbefBABBbehUABBbemKABBbenPABB",
   "beqPABBbepRABBtyCABBhogOABBbeuNABBbeuUABBbevKABBbewDABBhnvOABBtzDABBbevNABBbewZABBhnxJABBbexJA",
   "BBbexWABBbdvWABBbeyEABBbeyNABBjpdNABBbfaZABBbfbNABBuaPABBbfdRABBbfeCABBbffUABBbffZABBucRABB",
   "bfjBABBbfjDABBbfkEABBbflAACBbflLABBbfmDABBbfoBABBbfoJABBbfoSABBbfpRABBbfqBABBbfqDABBbfqDABB",
   "bfqDABBhptKABBbqpCABBbftAABBbftVABBhqfJABBbfuHABBbfuNABBbfvIABBbgbEABBbfxGABBbfxWABBbfzCABB",
   "bgbIABBbgeOABBbgfOABBbgiDABBbgiTABBbgkAABBbgkAABBbgkVABBbglNABBbglVABBbgmKABBbgzMABBbgpAABB",
   "bgzNABBbgrXABBbgtGABBbfbRABBbhrQABBbhgOABBbhiAABBbhiZABBbhdZABBbhkKABBbhkJABBbhpCABBhtuYABB",
   "bhrUABBbhrZABBbhsOABBbhtIABBbhtQABBbhwCABBhumIABBhuoWABBbibKABBbidFABBbidRABBbiaQABBbigCABBuuW",
   "ABBuvKABBbimIABBbioKABBbioKABBhvrCABBbitNABBbiuIABBbiuXABBbivJABBhweAABBbivVABBbiwCABBbkcPABB",
   "bixEABBvaNABBbizOABBbjaCABBbjdGABBbjbHABBhxfOABBbjiHABBhxfQABBbjjYABBbjjVABBbjkMACBbjoJABBvhFA",
   "BBbjpLABBbjrCABBbjrXABBbjtPABBvjEABBhypFABBvkEABBbjwIABBbjwLABBbjwOABBbjxIABBjvvUABBbjzIABB",
   "hzfTABBhzfTABBbxgBABBbkaSABBbkaSABBvnBABBifcQABBiwySABBbkdEABBbkdNABBvoDABBbkfIABBbkhHABBbkhRA",
   "BBbkiZABBbkoFABBvrMABBvqIABBbkoYABBiapOABBbkqXABBbkvWABBbkwAABBbkwCABBbkwAABBbkxUABBbkyOABB",
   "bkzYABBbkzKABBbkzVABBblbQABBblcKABBblcOABBbldOABBbldZABBblgNABBbljTABBbllCABBblpWABBicfCABB",
   "blpDABBblmQABBblqUABBblrVABBblvOABBicnXABBblxYABBbluJABBbltHABBwaWABBbmaRABBbmbMABBbmcRABBbmbF",
   "ABBwdGABBbmjNABBbmkQABBiecGABBbmpFABBbmzWABBbmtDABBwjXABBbmvXABBwjGABBwhWABBbexEABBbexHABBbnaE",
   "ABBbmwIABBbwsZABBzsBABBbnbBABBbnbFABBbnbLABBbndUABBbndJABBifmXABBwlTABBbnjUABBbnfHABBbnnEABB",
   "bnpDABBiftLABBbnpMABBbnlFABBbnuQABBwoZABBbnwKABBboaDABBbocWABBbokEABBigpFABBbomDABBwtSABBbooVA",
   "BBihjBABBboqUABBwvUABBborYABBbotRACBbouSABBiibTABBhwxFABBiifYABBbpaKABBiixGABBbpeTABBbpfHABB",
   "bpbJABBbpiCABBbpjQABBbplVABBbpjTABBbplHABBbplWABBbpmJABBijbAABBbpjGABBbpsXABBbpvIABBxePABBbpyX",
   "ABBbpyTABBijrTABBbpqVABBbqfEABBijxEABBijzAABBbqiOABBbqmZABBbqlYABBbqlVABBxiKABBbqnQABBbqpPABB",
   "bqpJABBbqrLABBhnvXABBbqxHABBilaXABBbraQABBilnNABBbrgAABBbrgNABBbrhOABBimkUABBbrjKABBbrkFABB",
   "imwJABBineYABBbrtAABBbrtRABBxtCABBbruRABBxtOABBxtOABBbsaXABBbsbSABBbscNABBbsdHABBbsfYABBxxJABB",
   "bsjKABBiotQABBbskKABBioxEABBbsmIABBhyqHABBbssMABBiqbHABBiqcEABBiqhOABBygAABBygMABBbtbGABBiqoHA",
   "BBiqoGABBiqpTABBiqqTACBbtcWABBbtcXABBbteOABByiJABBbthBABByiWABBylYABBirtLABBbtoOABBbtqYABBbttK",
   "ABByoXABBisnMABBbtySABBisrYABBistPABBbuaXABBbueLABByrVABBbuhSABBbuiCABBbuiHABBituIABBiufVABB",
   "iufVABBbuoKABByzYABBiupVABBbuwSABBbuwVABBzbJABBiuyAABBbvhAABBzgAABBbvhWABBbvhRABBbviUABBiwbUAB",
   "BbvmPABBzjTABBbvqLABBbvsSABBbvvHABBzlSABBixbSABBixcXABBznDABBixiNABBbwhEABBixmKABBbwiFABBbwmCA",
   "BBbwmNABBiycGABBiyfBABBbwqAABBiykEABBbwqQABBifjBABBzrXABBbwtEABBbwwHABBztZABBbwyOABBbijDABB",
   "izdVABBizeJABBiflBABBiflKABBbxgBABBbxgEABBcckCABBzxRABBbxlPABBbxlJABBbxmBABBbfiHABBbxmVABBbxmX",
   "ABBbxnHABBbxoWABBjanCABBbxoVABBbxqZABBbxtRABBbxwNABBbxrFABBbxxDABBbxyTABBbydBABBbxtBABBbxxQABB",
   "bxxSABBbxyIABBjawSABBjbiPABBjbcVABBbafBABBbyiZABBbyjBABBbykKABBjdtIABBbynKABBjbzWABBbagZABB",
   "bahDABBjceZABBjcqCABBbahNABBbywMABBbywYABBbyxJABBbyxLABBbyzXABBbyyQABBbzdUABBbzcCABBbzhXABB",
   "bzeUABBbzhJABBbziKABBbalRABBbzlXABBbznDABBbamZABBbzqUABBbzqXABBjetBABBbzvJABBbzvQABBbapHABB",
   "bzwSABBtzFABBjfpMABBjfwOABBbauOABBbauXABBcamYABBcapXABBcavYABBcbdTABBjhcQABBcbhBABBcbhXABBcblJ",
   "ABBcboXABBjibNABBhoyEABBcbsDABBcbrOABBcbtOABBhpgOABBcccIABBccgEABBjkoWABBjkpXABBcctOABBccxDABB",
   "ccyJABBjlcGABBccyTABBcdjSACBcdpVABBcdmIABBceaZABBcecBABBjmxMABBceqLABBbbwNABBcesDABBjnmDABB",
   "bbzQABBcfcLABBbjmOABBcfgDABBjoxPABBjpfUABBbceWABBbcfEABBcfnKABBjpyWABBbchMABBjqeGABBcfpBABB",
   "cfpBABBcfqFABBjqpIABBcfxIABBbcmLABBcgaBABBcgeXABBcgfYABBcgiGABBbcsKABBjsrGABBcgsWABBcheMABB",
   "chlTABBbdcGABBbddLABBchpVABBjuuOABBbddWABBjuwRABBjvgWABBjvlXABBcicXABBbdhMABBcifHABBcifMABB",
   "cifTABBcigDABBcigKABBcihVABBjwtS"]

/-- The replacements that some numbers give, from code point `n` on: the first character, how many
there are, and what replaces the first one. -/
def readReplacements (n : Nat) : List Nat → List (Nat × Nat × List Nat)
  | gap :: count :: size :: rest =>
    (n + gap, count, rest.take size) :: readReplacements (n + gap + count) (rest.drop size)
  | _ => []
termination_by l => l.length
decreasing_by
  simp only [List.length_drop, List.length_cons]
  omega

/-- The replacements in order. -/
def replacements : List (Nat × Nat × List Nat) :=
  readReplacements 0 (replacementNumbers.flatMap fun line => CharSet.numbers 0 line.toList)

/-- Characters that are dropped. -/
def droppedSet : CharSet :=
  .ofSorted [(0xAD, 0xAD), (0x34F, 0x34F), (0x115F, 0x1160), (0x17B4, 0x17B5), (0x180B, 0x180F),
    (0x200B, 0x200B), (0x2060, 0x2064), (0x206A, 0x206F), (0x3164, 0x3164), (0xFE00, 0xFE0F),
    (0xFEFF, 0xFEFF), (0xFFA0, 0xFFA0), (0x1BCA0, 0x1BCA3), (0x1D173, 0x1D17A),
    (0xE0100, 0xE01EF)]

/-- Characters that are refused, apart from those that are not assigned. -/
def refusedSet : CharSet :=
  .ofSorted [(0x80, 0x9F), (0x600, 0x605), (0x61C, 0x61C), (0x6DD, 0x6DD), (0x70F, 0x70F),
    (0x890, 0x891), (0x8E2, 0x8E2), (0x1680, 0x1680), (0x200E, 0x200F), (0x2024, 0x2026),
    (0x2028, 0x202E), (0x2066, 0x2069), (0x2488, 0x249B), (0x2FF0, 0x2FFF), (0x31EF, 0x31EF),
    (0x33C2, 0x33C2), (0x33C7, 0x33C7), (0x33D8, 0x33D8), (0xFE12, 0xFE12), (0xFE19, 0xFE19),
    (0xFE30, 0xFE30), (0xFE52, 0xFE52), (0xFFF9, 0xFFFD), (0x110BD, 0x110BD), (0x110CD, 0x110CD),
    (0x13430, 0x1343F), (0x1F100, 0x1F100), (0xE0001, 0xE0001), (0xE0020, 0xE007F)]

/-- Capitals of Cherokee, which their lower case is replaced by. -/
def isCherokee (c : Char) : Bool := 0x13A0 ≤ c.toNat && c.toNat ≤ 0x13F5

/-- What becomes of a character. -/
def of (c : Char) : Mapping :=
  if c.toNat < 128 then
    if c.isUpper then .replaced [c.toLower] else .kept
  else if droppedSet.contains c then .dropped
  else
    let isOf : Nat × Nat × List Nat → Bool := fun (first, count, _) =>
      first ≤ c.toNat && c.toNat < first + count
    match replacements.find? isOf with
    | some (first, _, [n]) => .replaced [Char.ofNat (n + (c.toNat - first))]
    | some (_, _, ns) => .replaced (ns.map Char.ofNat)
    | none =>
      if refusedSet.contains c || [.unassigned, .privateUse, .surrogate].contains (Category.of c)
      then .refused
      else if lowercaseChar c != c && !(isCherokee c) then .replaced [lowercaseChar c]
      else .kept

/-- Replace and drop the characters of a domain name, if none is refused. -/
def mapped? (cs : List Char) : Option (List Char) :=
  (cs.mapM fun c => match of c with
    | .kept => some [c]
    | .replaced r => some r
    | .dropped => some []
    | .refused => none).map List.flatten

end Mapping

end Rollout.Url
