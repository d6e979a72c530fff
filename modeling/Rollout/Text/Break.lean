import Rollout.Text.Property
import Rollout.Text.Script

/-!
# Breaks

How characters act where text is broken into user-perceived characters (`grapheme?`), words
(`word?`) and sentences (`sentence?`). Each function gives the set of the characters of one kind by
its name or abbreviation, in lower case and in one word. Sets are those of the last version of the
standard with a given first number.
-/

namespace Rollout.Text.Break

open Property (points ofListed ofCategories graphemeExtend alphabetic)

/-- What a version knows of some ranges. -/
def known (major : Nat) (l : List (Nat × Nat)) : CharSet :=
  (CharSet.ofRanges l).diff (Age.after major)

/-- Zero-width joiner and non-joiner. -/
def joiners : CharSet := ⟨[(0x200C, 0x200D)]⟩

/-- Joins the symbols around it. -/
def joiner : CharSet := ⟨[(0x200D, 0x200D)]⟩

def carriageReturn : CharSet := ⟨[(0xD, 0xD)]⟩

def lineFeed : CharSet := ⟨[(0xA, 0xA)]⟩

def regionalIndicator (major : Nat) : CharSet := ofListed major ["regionalindicator"]

/-! ### User-perceived characters -/

/-- Signs that go with what follows them. -/
def prependSet (major : Nat) : CharSet :=
  known major [(0x600, 0x605), (0x6DD, 0x6DD), (0x70F, 0x70F), (0x890, 0x891), (0x8E2, 0x8E2),
    (0xD4E, 0xD4E), (0x110BD, 0x110BD), (0x110CD, 0x110CD), (0x111C2, 0x111C3), (0x113D1, 0x113D1),
    (0x1193F, 0x1193F), (0x11941, 0x11941), (0x11A3A, 0x11A3A), (0x11A84, 0x11A89),
    (0x11D46, 0x11D46), (0x11F02, 0x11F02)]

/-- Controls, and unassigned code points that are to be ignored. -/
def controlSet (major : Nat) : CharSet :=
  let controls := ofCategories major [.lineSeparator, .paragraphSeparator, .control, .format]
  let ignored := (ofCategories major [.unassigned]).inter (Property.defaultIgnorable major)
  (((controls.union ignored).diff
    (.unions [carriageReturn, lineFeed, joiners])).diff
    (ofListed major ["prependedconcatenationmark"])).diff (graphemeExtend major)

/-- Marks and modifiers that extend what precedes them. -/
def graphemeExtender (major : Nat) : CharSet :=
  (graphemeExtend major).union (ofListed major ["emojimodifier"])

/-- Marks that take room of their own and still belong to what precedes them. -/
def spacingMark (major : Nat) : CharSet :=
  let apart : List (Nat × Nat) :=
    [(0x102B, 0x102C), (0x1038, 0x1038), (0x1062, 0x1064), (0x1067, 0x106D), (0x1083, 0x1083),
     (0x1087, 0x108C), (0x108F, 0x108F), (0x109A, 0x109C), (0x1A61, 0x1A61), (0x1A63, 0x1A64),
     (0xAA7B, 0xAA7B), (0xAA7D, 0xAA7D), (0x11720, 0x11721)]
  (((ofCategories major [.spacingMark]).diff (graphemeExtend major)).union
    (points major [0xE33, 0xEB3])).diff (.ofSorted apart)

/-- Hangul syllables without a final consonant. -/
def openSyllable : CharSet :=
  .ofSorted ((List.range 399).map fun i => (0xAC00 + 28 * i, 0xAC00 + 28 * i))

/-- Hangul syllables with a final consonant. -/
def closedSyllable : CharSet := CharSet.diff ⟨[(0xAC00, 0xD7A3)]⟩ openSyllable

/-- The kinds of characters, where user-perceived characters are told apart. -/
def graphemeKinds : List (List String × (Nat → CharSet)) :=
  [(["cr"], fun _ => carriageReturn), (["lf"], fun _ => lineFeed),
   (["control", "cn"], controlSet), (["extend", "ex"], graphemeExtender),
   (["prepend", "pp"], prependSet), (["spacingmark", "sm"], spacingMark),
   (["regionalindicator", "ri"], regionalIndicator), (["zwj"], fun _ => joiner),
   (["l"], fun _ => ⟨[(0x1100, 0x115F), (0xA960, 0xA97C)]⟩),
   (["v"], fun major => known major
     [(0x1160, 0x11A7), (0xD7B0, 0xD7C6), (0x16D63, 0x16D63), (0x16D67, 0x16D6A)]),
   (["t"], fun _ => ⟨[(0x11A8, 0x11FF), (0xD7CB, 0xD7FB)]⟩),
   (["lv"], fun _ => openSyllable), (["lvt"], fun _ => closedSyllable)]

/-! ### Words -/

/-- Letters of scripts in which words are not set apart by spaces. -/
def unspaced : CharSet :=
  .ofSorted [(0xE01, 0xE3A), (0xE40, 0xE4E), (0xE81, 0xE82), (0xE84, 0xE84), (0xE86, 0xE8A),
    (0xE8C, 0xEA3), (0xEA5, 0xEA5), (0xEA7, 0xEBD), (0xEC0, 0xEC4), (0xEC6, 0xEC6),
    (0xEC8, 0xECE), (0xEDC, 0xEDF), (0x1000, 0x103F), (0x1050, 0x108F), (0x109A, 0x109F),
    (0x1780, 0x17D3), (0x17D7, 0x17D7), (0x17DC, 0x17DD), (0x1950, 0x196D), (0x1970, 0x1974),
    (0x1980, 0x19AB), (0x19B0, 0x19C9), (0x19DA, 0x19DA), (0x19DE, 0x19DF), (0x1A20, 0x1A5E),
    (0x1A60, 0x1A7C), (0x1AA0, 0x1AAD), (0xA9E0, 0xA9EF), (0xA9FA, 0xA9FE), (0xAA60, 0xAAC2),
    (0xAADB, 0xAADF), (0x11700, 0x1171A), (0x1171D, 0x1172B), (0x1173A, 0x1173B),
    (0x1173F, 0x11746)]

/-- Symbols that are parts of words like letters. -/
def letterlike : CharSet :=
  .ofSorted [(0x2C2, 0x2C5), (0x2D2, 0x2D7), (0x2DE, 0x2DF), (0x2E5, 0x2EB), (0x2ED, 0x2ED),
    (0x2EF, 0x2FF), (0x55A, 0x55C), (0x55E, 0x55E), (0x58A, 0x58A), (0x5F3, 0x5F3),
    (0x70F, 0x70F), (0xA708, 0xA716), (0xA720, 0xA721), (0xA789, 0xA78A), (0xAB5B, 0xAB5B)]

/-- The characters of a script. -/
def script (major : Nat) (name : String) : CharSet :=
  ((Script.named? name).getD {}).diff (Age.after major)

def wordExtender (major : Nat) : CharSet :=
  (.unions [graphemeExtender major, ofCategories major [.spacingMark]] : CharSet).diff joiner

def katakanaLetter (major : Nat) : CharSet :=
  (script major "katakana").union
    (.ofSorted [(0x3031, 0x3035), (0x309B, 0x309C), (0x30A0, 0x30A0), (0x30FC, 0x30FC),
      (0xFF70, 0xFF70)])

def hebrewLetter (major : Nat) : CharSet :=
  (script major "hebrew").inter (ofCategories major [.otherLetter])

/-- Letters of scripts that set words apart, other than Hebrew. -/
def wordLetter (major : Nat) : CharSet :=
  (((alphabetic major).union letterlike).diff unspaced).diff
    (.unions [ofListed major ["ideographic"], katakanaLetter major, script major "hiragana",
      wordExtender major, hebrewLetter major])

def wordFormat (major : Nat) : CharSet :=
  (ofCategories major [.format]).diff
    (.unions [⟨[(0x200B, 0x200D)]⟩, prependSet major, graphemeExtend major])

/-- Digits, and signs that are parts of numbers. -/
def numeric (major : Nat) (signs : List Nat) : CharSet :=
  .unions [ofCategories major [.decimalNumber], points major signs,
    (ofListed major ["prependedconcatenationmark"]).diff ⟨[(0x70F, 0x70F)]⟩]

/-- The kinds of characters, where words are told apart. -/
def wordKinds : List (List String × (Nat → CharSet)) :=
  [(["cr"], fun _ => carriageReturn), (["lf"], fun _ => lineFeed),
   (["newline", "nl"], fun _ => .ofSorted [(0xB, 0xC), (0x85, 0x85), (0x2028, 0x2029)]),
   (["extend"], wordExtender), (["zwj"], fun _ => joiner), (["format", "fo"], wordFormat),
   (["regionalindicator", "ri"], regionalIndicator), (["katakana", "ka"], katakanaLetter),
   (["hebrewletter", "hl"], hebrewLetter),
   (["aletter", "le"], wordLetter), (["numeric", "nu"], fun major => numeric major [0x66B]),
   (["extendnumlet", "ex"], fun major =>
     (ofCategories major [.connectorPunctuation]).union (points major [0x202F])),
   (["singlequote", "sq"], fun _ => ⟨[(0x27, 0x27)]⟩),
   (["doublequote", "dq"], fun _ => ⟨[(0x22, 0x22)]⟩),
   (["midletter", "ml"], fun major =>
     points major [0x3A, 0xB7, 0x387, 0x55F, 0x5F4, 0x2027, 0xFE13, 0xFE55, 0xFF1A]),
   (["midnumlet", "mb"], fun major =>
     points major [0x2E, 0x2018, 0x2019, 0x2024, 0xFE52, 0xFF07, 0xFF0E]),
   (["midnum", "mn"], fun major =>
     points major [0x2C, 0x3B, 0x37E, 0x589, 0x60C, 0x60D, 0x66C, 0x7F8, 0x2044, 0xFE10, 0xFE14,
       0xFE50, 0xFE54, 0xFF0C, 0xFF1B]),
   (["wsegspace"], fun major =>
     (ofCategories major [.spaceSeparator]).diff (points major [0xA0, 0x2007, 0x202F]))]

/-! ### Sentences -/

/-- Georgian letters, which start no sentence by their case. -/
def georgian : CharSet := .ofSorted [(0x10D0, 0x10FA), (0x10FD, 0x10FF)]

/-- Georgian capitals, which do not either. -/
def georgianCapital : CharSet := .ofSorted [(0x1C90, 0x1CBA), (0x1CBD, 0x1CBF)]

def sentenceExtender (major : Nat) : CharSet :=
  .unions [graphemeExtend major, joiner, ofCategories major [.spacingMark]]

def sentenceLower (major : Nat) : CharSet :=
  ((Property.lowercase major).diff (graphemeExtend major)).diff georgian

def sentenceUpper (major : Nat) : CharSet :=
  ((Property.uppercase major).diff georgianCapital).union (ofCategories major [.titlecaseLetter])

/-- Letters without case. -/
def sentenceLetter (major : Nat) : CharSet :=
  ((alphabetic major).union (points major [0x5F3])).diff
    (.unions [sentenceLower major, sentenceUpper major, sentenceExtender major])

def sentenceNumeric (major : Nat) : CharSet := numeric major [0x66B, 0x66C]

def sentenceFormat (major : Nat) : CharSet :=
  (ofCategories major [.format]).diff
    (.unions [joiners, graphemeExtend major, sentenceNumeric major])

/-- Full stops, which may also end an abbreviation. -/
def fullStop (major : Nat) : CharSet := points major [0x2E, 0x2024, 0xFE52, 0xFF0E]

/-- What ends sentences, full stops apart. -/
def sentenceEnd (major : Nat) : CharSet :=
  (ofListed major ["sentenceterminal"]).diff (fullStop major)

/-- Quotes and brackets. -/
def sentenceClose (major : Nat) : CharSet :=
  (.unions [ofCategories major
      [.openPunctuation, .closePunctuation, .initialPunctuation, .finalPunctuation],
    .ofSorted [(0x22, 0x22), (0x27, 0x27), (0x275B, 0x2760), (0x2E00, 0x2E01), (0x2E06, 0x2E08),
      (0x2E0B, 0x2E0B), (0x1F676, 0x1F678)]] : CharSet).diff
    ((sentenceEnd major).union (fullStop major))

/-- Commas and the like, after which a sentence goes on. -/
def sentenceContinue (major : Nat) : CharSet :=
  points major [0x2C, 0x2D, 0x3A, 0x3B, 0x37E, 0x55D, 0x60C, 0x60D, 0x7F8, 0x1802, 0x1808, 0x2013,
    0x2014, 0x3001, 0xFE10, 0xFE11, 0xFE13, 0xFE14, 0xFE31, 0xFE32, 0xFE50, 0xFE51, 0xFE54, 0xFE55,
    0xFE58, 0xFE63, 0xFF0C, 0xFF0D, 0xFF1A, 0xFF1B, 0xFF64]

/-- The kinds of characters, where sentences are told apart. -/
def sentenceKinds : List (List String × (Nat → CharSet)) :=
  let separators : CharSet := .ofSorted [(0x85, 0x85), (0x2028, 0x2029)]
  [(["cr"], fun _ => carriageReturn), (["lf"], fun _ => lineFeed),
   (["sep", "se"], fun _ => separators),
   (["sp"], fun major => (ofListed major ["whitespace"]).diff
     (.unions [carriageReturn, lineFeed, separators])),
   (["extend", "ex"], sentenceExtender), (["format", "fo"], sentenceFormat),
   (["lower", "lo"], sentenceLower), (["upper", "up"], sentenceUpper),
   (["oletter", "le"], sentenceLetter), (["numeric", "nu"], sentenceNumeric),
   (["aterm", "at"], fullStop), (["sterm", "st"], sentenceEnd), (["close", "cl"], sentenceClose),
   (["scontinue", "sc"], sentenceContinue)]

/-! ### Names -/

/-- The set of the kind with a given name. -/
def find? (kinds : List (List String × (Nat → CharSet))) (major : Nat) (name : String) :
    Option CharSet :=
  (kinds.find? fun (names, _) => names.contains name).map fun (_, set) => set major

def grapheme? (major : Nat) (name : String) : Option CharSet := find? graphemeKinds major name

def word? (major : Nat) (name : String) : Option CharSet := find? wordKinds major name

def sentence? (major : Nat) (name : String) : Option CharSet := find? sentenceKinds major name

end Rollout.Text.Break
