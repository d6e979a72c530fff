import Rollout.Text.Combining

/-!
# Composition

A letter with marks can be written as one character, or as a letter and marks that follow it.
`composed` is the text in which as much as possible is written as one character, and marks are in
the order of their classes.
-/

namespace Rollout.Text

/-- The composite characters in order, as numbers: how far each one is from the one before, and the
two characters that it is composed of. -/
def compositeNumbers : List String :=
  ["hKcNbdOAcNbdPAcNbdQAcNbdRAcNbdWAcNbdYBcPbfBAcRbdOAcRbdPAcRbdQAcRbdWAcVbdOAcVbdPAcVbdQAcVbdWBdA",
   "bdRAdBbdOAdBbdPAdBbdQAdBbdRAdBbdWCdHbdOAdHbdPAdHbdQAdHbdWAdLbdPCdTbdOAdTbdPAdTbdQAdTbdRAdTbdWA",
   "dTbdYBdVbfBAdXbdOAdXbdPAdXbdQAdXbdWAeBbdOAeBbdPAeBbdQAeBbdWBeGbdRAeHbdOAeHbdPAeHbdQAeHbdRAeH",
   "bdWCeNbdOAeNbdPAeNbdQAeNbdWAeRbdPBeRbdWAcNbdSAdTbdSAcNbdUAdTbdUAcNbfCAdTbfCAcPbdPAdVbdPAcPbdQA",
   "dVbdQAcPbdVAdVbdVAcPbeAAdVbeAAcQbeAAdWbeACcRbdSAdXbdSAcRbdUAdXbdUAcRbdVAdXbdVAcRbfCAdXbfCAcR",
   "beAAdXbeAAcTbdQAdZbdQAcTbdUAdZbdUAcTbdVAdZbdVAcTbfBAdZbfBAcUbdQAeAbdQCcVbdRAeBbdRAcVbdSAeBbdSA",
   "cVbdUAeBbdUAcVbfCAeBbfCAcVbdVDcWbdQAeCbdQAcXbfBAeDbfBBcYbdPAeEbdPAcYbfBAeEbfBAcYbeAAeEbeAEdA",
   "bdPAeGbdPAdAbfBAeGbfBAdAbeAAeGbeADdBbdSAeHbdSAdBbdUAeHbdUAdBbdZAeHbdZCdEbdPAeKbdPAdEbfBAeKbfBA",
   "dEbeAAeKbeAAdFbdPAeLbdPAdFbdQAeLbdQAdFbfBAeLbfBAdFbeAAeLbeAAdGbfBAeMbfBAdGbeAAeMbeACdHbdRAeN",
   "bdRAdHbdSAeNbdSAdHbdUAeNbdUAdHbdYAeNbdYAdHbdZAeNbdZAdHbfCAeNbfCAdJbdQAePbdQAdLbdQAeRbdQAdLbdWA",
   "dMbdPAeSbdPAdMbdVAeSbdVAdMbeAAeSbeAbHdBbePAeHbePNdHbePAeNbePbCcNbeAAdTbeAAcVbeAAeBbeAAdBbeAAeH",
   "beAAdHbeAAeNbeAAiMbdSAjSbdSAiMbdPAjSbdPAiMbeAAjSbeAAiMbdOAjSbdOBhObdSAiUbdSAvEbdSAvFbdSAhQbdSA",
   "iWbdSCcTbeAAdZbeAAcXbeAAeDbeAAdBbfCAeHbfCAsWbdSAsXbdSAqXbeAAzIbeAAeCbeADcTbdPAdZbdPCdAbdOAeG",
   "bdOAhPbdPAiVbdPAhQbdPAiWbdPAiIbdPAjObdPAcNbeDAdTbeDAcNbeFAdTbeFAcRbeDAdXbeDAcRbeFAdXbeFAcVbeDA",
   "eBbeDAcVbeFAeBbeFAdBbeDAeHbeDAdBbeFAeHbeFAdEbeDAeKbeDAdEbeFAeKbeFAdHbeDAeNbeDAdHbeFAeNbeFAdF",
   "bfAAeLbfAAdGbfAAeMbfACcUbeAAeAbeAGcNbdVAdTbdVAcRbfBAdXbfBAiGbdSAjMbdSAiFbdSAjLbdSAdBbdVAeHbdVA",
   "vMbdSAvNbdSAdLbdSAeRbdSmZgMbdPAbjDbdPBbjHbdPAbjJbdPAbjLbdPBbjRbdPBbjXbdPAbkBbdPAblIbdPZbjLbdWA",
   "bjXbdWAbkJbdPAbkNbdPAbkPbdPAbkRbdPAblJbdPZbkRbdWAblDbdWAbkXbdPAblDbdPAblHbdPEblQbdPAblQbdWbR",
   "boFbdOAboFbdWBboDbdPDbnQbdWEboKbdPAboIbdOAboTbdUKboIbdUbFbpObdUWbpLbdOAbpLbdWBbpJbdPDbqSbdWE",
   "bpQbdPAbpObdOAbpZbdUXbrWbeDAbrXbeDcVboGbdUAbpMbdUNboAbdUAbpGbdUAboAbdWAbpGbdWCboFbdUAbpLbdUC",
   "bvSbdWAbvTbdWAboGbdWAbpMbdWAboHbdWAbpNbdWCboIbdSAbpObdSAboIbdWAbpObdWAboObdWAbpUbdWCbwIbdWAbwJ",
   "bdWAbpDbdWAbqJbdWAboTbdSAbpZbdSAboTbdWAbpZbdWAboTbdZAbpZbdZAboXbdWAbqDbdWCbpBbdWAbqHbdWlKciP",
   "ckHAciPckIAcjWckIAciPckJAcjYckIfXcpHckIBcoNckIQcpEckIwZdmEdmYHdmMdmYCdmPdmYfUdsHdrYAdsHdsXoP",
   "ehBehQCehBegSAehBehRcTejYemPcBelYelQAelZelQAelYemPeTeqWerMePevNewJGevUewJAevUewKBevUevQAevYewJ",
   "eWfaSfaKAfaTfaKAfaSfbJfLfgJffUBfgJffZAfgMffUAfgJfgPwLgcZgdIedBkgBkhXBkgDkhXBkgFkhXBkgHkhXBkgJ",
   "khXDkgNkhXbOkiCkhXBkiEkhXCkiGkhXAkiHkhXBkiKkhXbaYcNbeZAdTbeZAcObdVAdUbdVAcObeXAdUbeXAcObfLAdU",
   "bfLAhRbdPAiXbdPAcQbdVAdWbdVAcQbeXAdWbeXAcQbfLAdWbfLAcQbfBAdWbfBAcQbfHAdWbfHAkObdOAkPbdOAkObdPA",
   "kPbdPAcRbfHAdXbfHAcRbfKAdXbfKAvGbdUAvHbdUAcSbdVAdYbdVAcTbdSAdZbdSAcUbdVAeAbdVAcUbeXAeAbeXAcU",
   "bdWAeAbdWAcUbfBAeAbfBAcUbfIAeAbfIAcVbfKAeBbfKAhZbdPAjFbdPAcXbdPAeDbdPAcXbeXAeDbeXAcXbfLAeDbfLA",
   "cYbeXAeEbeXAllMbdSAllNbdSAcYbfLAeEbfLAcYbfHAeEbfHAcZbdPAeFbdPAcZbdVAeFbdVAcZbeXAeFbeXAdAbdVAeG",
   "bdVAdAbeXAeGbeXAdAbfLAeGbfLAdAbfHAeGbfHAiFbdPAjLbdPAiFbdWAjLbdWAmUbdOAmVbdOAmUbdPAmVbdPAdCbdPA",
   "eIbdPAdCbdVAeIbdVAdEbdVAeKbdVAdEbeXAeKbeXAlmWbdSAlmXbdSAdEbfLAeKbfLAdFbdVAeLbdVAdFbeXAeLbeXAnI",
   "bdVAnJbdVAnObdVAnPbdVAlnEbdVAlnFbdVAdGbdVAeMbdVAdGbeXAeMbeXAdGbfLAeMbfLAdGbfHAeMbfHAdHbeYAeN",
   "beYAdHbfKAeNbfKAdHbfHAeNbfHAnWbdPAnXbdPAnYbdWAnZbdWAdIbdRAeObdRAdIbeXAeObeXAdJbdOAePbdOAdJbdPA",
   "ePbdPAdJbdWAePbdWAdJbdVAePbdVAdJbeXAePbeXAdKbdVAeQbdVAdKbdWAeQbdWAdLbdVAeRbdVAdMbdQAeSbdQAdM",
   "beXAeSbeXAdMbfLAeSbfLAeAbfLAeMbdWAePbdYAeRbdYBoTbdVEcNbeXAdTbeXAcNbdXAdTbdXAhMbdPAiSbdPAhMbdOA",
   "iSbdOAhMbdXAiSbdXAhMbdRAiSbdRAlpObdQAlpPbdQAjYbdPAjZbdPAjYbdOAjZbdOAjYbdXAjZbdXAjYbdRAjZbdRA",
   "lpObdUAlpPbdUAcRbeXAdXbeXAcRbdXAdXbdXAcRbdRAdXbdRAhUbdPAjAbdPAhUbdOAjAbdOAhUbdXAjAbdXAhUbdRAjA",
   "bdRAlqMbdQAlqNbdQAcVbdXAeBbdXAcVbeXAeBbeXAdBbeXAeHbeXAdBbdXAeHbdXAiEbdPAjKbdPAiEbdOAjKbdOAiE",
   "bdXAjKbdXAiEbdRAjKbdRAlrGbdQAlrHbdQAqAbdPAqBbdPAqAbdOAqBbdOAqAbdXAqBbdXAqAbdRAqBbdRAqAbeXAqB",
   "beXAdHbeXAeNbeXAdHbdXAeNbdXAqPbdPAqQbdPAqPbdOAqQbdOAqPbdXAqQbdXAqPbdRAqQbdRAqPbeXAqQbeXAdLbdOA",
   "eRbdOAdLbeXAeRbeXAdLbdXAeRbdXAdLbdRAeRbdRGbkJbeHAbkJbeIAltGbdOAltHbdOAltGbdPAltHbdPAltGbgCAltH",
   "bgCAbjDbeHAbjDbeIAltObdOAltPbdOAltObdPAltPbdPAltObgCAltPbgCAbkNbeHAbkNbeIAltWbdOAltXbdOAltWbdP",
   "AltXbdPCbjHbeHAbjHbeIAluEbdOAluFbdOAluEbdPAluFbdPCbkPbeHAbkPbeIAluMbdOAluNbdOAluMbdPAluNbdPA",
   "luMbgCAluNbgCAbjJbeHAbjJbeIAluUbdOAluVbdOAluUbdPAluVbdPAluUbgCAluVbgCAbkRbeHAbkRbeIAlvCbdOAlvD",
   "bdOAlvCbdPAlvDbdPAlvCbgCAlvDbgCAbjLbeHAbjLbeIAlvKbdOAlvLbdOAlvKbdPAlvLbdPAlvKbgCAlvLbgCAbkXbeH",
   "AbkXbeIAlvSbdOAlvTbdOAlvSbdPAlvTbdPCbjRbeHAbjRbeIAlwAbdOAlwBbdOAlwAbdPAlwBbdPCblDbeHAblDbeIA",
   "lwIbdOAlwJbdOAlwIbdPAlwJbdPAlwIbgCAlwJbgCBbjXbeIBlwRbdOBlwRbdPBlwRbgCAblHbeHAblHbeIAlwYbdOAlwZ",
   "bdOAlwYbdPAlwZbdPAlwYbgCAlwZbgCAbkBbeHAbkBbeIAlxGbdOAlxHbdOAlxGbdPAlxHbdPAlxGbgCAlxHbgCAbkJbdO",
   "BbkNbdOBbkPbdOBbkRbdOBbkXbdOBblDbdOBblHbdODltGbgFAltHbgFAltIbgFAltJbgFAltKbgFAltLbgFAltMbgFA",
   "ltNbgFAltObgFAltPbgFAltQbgFAltRbgFAltSbgFAltTbgFAltUbgFAltVbgFAluMbgFAluNbgFAluObgFAluPbgFAluQ",
   "bgFAluRbgFAluSbgFAluTbgFAluUbgFAluVbgFAluWbgFAluXbgFAluYbgFAluZbgFAlvAbgFAlvBbgFAlwYbgFAlwZbgF",
   "AlxAbgFAlxBbgFAlxCbgFAlxDbgFAlxEbgFAlxFbgFAlxGbgFAlxHbgFAlxIbgFAlxJbgFAlxKbgFAlxLbgFAlxMbgFA",
   "lxNbgFAbkJbdUAbkJbdSAlxObgFAbkJbgFAbkEbgFBbkJbgCAmaGbgFAbjDbdUAbjDbdSAbjDbdOBbjDbgFEgMbgCAlxS",
   "bgFAbkPbgFAbkGbgFBbkPbgCAmaWbgFAbjHbdOBbjJbdOBbjJbgFAmaPbdOAmaPbdPAmaPbgCAbkRbdUAbkRbdSAblIbdO",
   "DbkRbgCAblIbgCAbjLbdUAbjLbdSAbjLbdOCmdAbdOAmdAbdPAmdAbgCAblDbdUAblDbdSAblJbdOBbkZbeHAbkZbeIA",
   "blDbgCAblJbgCAbjXbdUAbjXbdSAbjXbdOBbjTbeIAgMbdOElyAbgFAblHbgFAblMbgFBblHbgCAmcSbgFAbjRbdOBbkB",
   "bdOBbkBbgFpXmsMbfSAmsObfSSmsQbfSbEmuYbfSAmvCbfSAmvAbfScAmwXbfSEmxCbfSCmxFbfSXmyDbfSBmyFbfSbA",
   "mzCbfSCmzJbfSCmzLbfSBmzObfSWcJbfSBnaNbfSKmzTbfSAcIbfSAcKbfSAnaQbfSAnaRbfSCnbEbfSAnbFbfSCnbIbfS",
   "AnbJbfSGnbMbfSAnbNbfSCnbUbfSAnbVbfSCnbYbfSAnbZbfSbIndAbfSAndGbfSAndHbfSAndJbfSbWnbObfSAnbPbfSA",
   "ncJbfSAncKbfSGndQbfSAndRbfSAndSbfSAndTbfSfbQshNskNBshPskNBshRskNBshTskNBshVskNBshXskNBshZskNB",
   "siBskNBsiDskNBsiFskNBsiHskNBsiJskNCsiMskNBsiOskNBsiQskNGsiXskNAsiXskOBsjAskNAsjAskOBsjDskNAsjD",
   "skOBsjGskNAsjGskOBsjJskNAsjJskOWshIskNJskRskNNslFskNBslHskNBslJskNBslLskNBslNskNBslPskNBslRskN",
   "BslTskNBslVskNBslXskNBslZskNBsmBskNCsmEskNBsmGskNBsmIskNGsmPskNAsmPskOBsmSskNAsmSskOBsmVskNA",
   "smVskOBsmYskNAsmYskOBsnBskNAsnBskOWslAskNCsnVskNAsnWskNAsnXskNAsnYskNDsoJskNdcpEdvdYbdVbAdveG",
   "bdVebLdzgBdzhIBdzgDdzhIOdzgNdzhIfAdzlXdzlNAdzlYdzlNuTeagLeagCAeagLeahBcCeaiSealLBeaiUeakXIeajB",
   "ealECeajGealLbZealEealEBealEeakUAealEealLjIeauReauSAeauReauIBeauReauVjRebeMebeDAebeNebeDbiI",
   "ecmVecmQbbgAfdsWfdsWAfdsWfdtHAfdsWfdsXAfdtHfdsXAfdsWfdsYAfdsZfdsXAfdtAfdsXAfdsZfdsYeqPfijVfijV",
   "AfijRfijVAfijXfijV"]

/-- The composites that some numbers give, from code point `n` on. -/
def readComposites (n : Nat) : List Nat → List (Nat × Nat × Nat)
  | gap :: first :: second :: rest =>
    (n + gap, first, second) :: readComposites (n + gap + 1) rest
  | _ => []

/-- The composite characters, each with the two that it is composed of. -/
def composites : List (Nat × Nat × Nat) :=
  readComposites 0 (compositeNumbers.flatMap fun line => CharSet.numbers 0 line.toList)

/-! ### Syllables of Hangul -/

/-- Where the syllables, the leading consonants, the vowels and the trailing consonants start; the
last ones are counted from 1. -/
def syllableBase : Nat := 0xAC00
def leadingBase : Nat := 0x1100
def vowelBase : Nat := 0x1161
def trailingBase : Nat := 0x11A7

/-- The syllable of two characters. -/
def syllable? (a b : Nat) : Option Nat :=
  if leadingBase ≤ a ∧ a < leadingBase + 19 ∧ vowelBase ≤ b ∧ b < vowelBase + 21 then
    some (syllableBase + ((a - leadingBase) * 21 + (b - vowelBase)) * 28)
  else if syllableBase ≤ a ∧ a < syllableBase + 11172 ∧ (a - syllableBase) % 28 = 0 ∧
      trailingBase < b ∧ b < trailingBase + 28 then
    some (a + (b - trailingBase))
  else none

/-- The two characters of a syllable. -/
def syllableParts? (n : Nat) : Option (Nat × Nat) :=
  if n < syllableBase ∨ syllableBase + 11172 ≤ n then none
  else
    let i := n - syllableBase
    if i % 28 = 0 then some (leadingBase + i / 28 / 21, vowelBase + i / 28 % 21)
    else some (n - i % 28, trailingBase + i % 28)

/-! ### Decomposition -/

/-- The two characters that a character is composed of. -/
def parts? (c : Char) : Option (Char × Char) :=
  ((syllableParts? c.toNat).or
    ((composites.find? (·.1 == c.toNat)).map fun (_, first, second) => (first, second))).map
    fun (first, second) => (Char.ofNat first, Char.ofNat second)

/-- The characters that a character is composed of, down to a given depth. -/
def decompose : Nat → Char → List Char
  | 0, c => [c]
  | depth + 1, c =>
    match if c.toNat < 128 then none else parts? c with
    | some (first, second) => decompose depth first ++ [second]
    | none => [c]

/-- No character is composed of characters in more levels. -/
def maxLevels : Nat := 4

/-- Put the marks after each letter in the order of their classes. -/
def orderMarks (cs : List Char) : List Char :=
  (cs.splitBy fun _ c => combiningClass c != 0).flatMap fun group =>
    group.mergeSort fun a b => combiningClass a ≤ combiningClass b

/-! ### Composing -/

/-- The character that two characters compose. -/
def composite? (a b : Char) : Option Char :=
  ((syllable? a.toNat b.toNat).or
    ((composites.find? fun (_, first, second) => first == a.toNat && second == b.toNat).map
      (·.1))).map Char.ofNat

/-- Compose the letter `a` with the marks that follow it, given in reverse the marks that stay
between; a mark does not pass one of the same class. -/
def composeFrom (a : Char) (between : List Char) : List Char → List Char
  | [] => a :: between.reverse
  | c :: rest =>
    let reachable := between.all fun b => combiningClass b < combiningClass c
    match if reachable then composite? a c else none with
    | some composite => composeFrom composite between rest
    | none =>
      if combiningClass c = 0 then (a :: between.reverse) ++ composeFrom c [] rest
      else composeFrom a (c :: between) rest

/-- The composed form of a text. -/
def composed (cs : List Char) : List Char :=
  match orderMarks (cs.flatMap (decompose maxLevels)) with
  | [] => []
  | c :: rest => composeFrom c [] rest

end Rollout.Text
