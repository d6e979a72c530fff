import Rollout.Text.Category

/-!
# Lower case

The full lower-case mapping of text (`lowercase`), in which one letter becomes two characters and a
sigma at the end of a word has a form of its own, and the characters that are equal when case is
ignored (`casePairs`, `ignoringCase`).
-/

namespace Rollout.Text

/-- Letters beyond ASCII with a lower case of one character, as `(first, count, step, shift)`: the
code points `first`, `first + step`, … (`count` of them) each move by `shift`. -/
def lowercaseRuns : List (Nat × Nat × Nat × Int) :=
  [(192, 23, 1, 32), (216, 7, 1, 32), (256, 24, 2, 1), (306, 3, 2, 1), (313, 8, 2, 1),
   (330, 23, 2, 1), (376, 1, 1, -121), (377, 3, 2, 1), (385, 1, 1, 210), (386, 2, 2, 1),
   (390, 1, 1, 206), (391, 1, 1, 1), (393, 2, 1, 205), (395, 1, 1, 1), (398, 1, 1, 79),
   (399, 1, 1, 202), (400, 1, 1, 203), (401, 1, 1, 1), (403, 1, 1, 205), (404, 1, 1, 207),
   (406, 1, 1, 211), (407, 1, 1, 209), (408, 1, 1, 1), (412, 1, 1, 211), (413, 1, 1, 213),
   (415, 1, 1, 214), (416, 3, 2, 1), (422, 1, 1, 218), (423, 1, 1, 1), (425, 1, 1, 218),
   (428, 1, 1, 1), (430, 1, 1, 218), (431, 1, 1, 1), (433, 2, 1, 217), (435, 2, 2, 1),
   (439, 1, 1, 219), (440, 1, 1, 1), (444, 1, 1, 1), (452, 1, 1, 2), (453, 1, 1, 1),
   (455, 1, 1, 2), (456, 1, 1, 1), (458, 1, 1, 2), (459, 9, 2, 1), (478, 9, 2, 1), (497, 1, 1, 2),
   (498, 2, 2, 1), (502, 1, 1, -97), (503, 1, 1, -56), (504, 20, 2, 1), (544, 1, 1, -130),
   (546, 9, 2, 1), (570, 1, 1, 10795), (571, 1, 1, 1), (573, 1, 1, -163), (574, 1, 1, 10792),
   (577, 1, 1, 1), (579, 1, 1, -195), (580, 1, 1, 69), (581, 1, 1, 71), (582, 5, 2, 1),
   (880, 2, 2, 1), (886, 1, 1, 1), (895, 1, 1, 116), (902, 1, 1, 38), (904, 3, 1, 37),
   (908, 1, 1, 64), (910, 2, 1, 63), (913, 17, 1, 32), (931, 9, 1, 32), (975, 1, 1, 8),
   (984, 12, 2, 1), (1012, 1, 1, -60), (1015, 1, 1, 1), (1017, 1, 1, -7), (1018, 1, 1, 1),
   (1021, 3, 1, -130), (1024, 16, 1, 80), (1040, 32, 1, 32), (1120, 17, 2, 1), (1162, 27, 2, 1),
   (1216, 1, 1, 15), (1217, 7, 2, 1), (1232, 48, 2, 1), (1329, 38, 1, 48), (4256, 38, 1, 7264),
   (4295, 1, 1, 7264), (4301, 1, 1, 7264), (5024, 80, 1, 38864), (5104, 6, 1, 8), (7305, 1, 1, 1),
   (7312, 43, 1, -3008), (7357, 3, 1, -3008), (7680, 75, 2, 1), (7838, 1, 1, -7615),
   (7840, 48, 2, 1), (7944, 8, 1, -8), (7960, 6, 1, -8), (7976, 8, 1, -8), (7992, 8, 1, -8),
   (8008, 6, 1, -8), (8025, 4, 2, -8), (8040, 8, 1, -8), (8072, 8, 1, -8), (8088, 8, 1, -8),
   (8104, 8, 1, -8), (8120, 2, 1, -8), (8122, 2, 1, -74), (8124, 1, 1, -9), (8136, 4, 1, -86),
   (8140, 1, 1, -9), (8152, 2, 1, -8), (8154, 2, 1, -100), (8168, 2, 1, -8), (8170, 2, 1, -112),
   (8172, 1, 1, -7), (8184, 2, 1, -128), (8186, 2, 1, -126), (8188, 1, 1, -9),
   (8486, 1, 1, -7517), (8490, 1, 1, -8383), (8491, 1, 1, -8262), (8498, 1, 1, 28),
   (8544, 16, 1, 16), (8579, 1, 1, 1), (9398, 26, 1, 26), (11264, 48, 1, 48), (11360, 1, 1, 1),
   (11362, 1, 1, -10743), (11363, 1, 1, -3814), (11364, 1, 1, -10727), (11367, 3, 2, 1),
   (11373, 1, 1, -10780), (11374, 1, 1, -10749), (11375, 1, 1, -10783), (11376, 1, 1, -10782),
   (11378, 1, 1, 1), (11381, 1, 1, 1), (11390, 2, 1, -10815), (11392, 50, 2, 1), (11499, 2, 2, 1),
   (11506, 1, 1, 1), (42560, 23, 2, 1), (42624, 14, 2, 1), (42786, 7, 2, 1), (42802, 31, 2, 1),
   (42873, 2, 2, 1), (42877, 1, 1, -35332), (42878, 5, 2, 1), (42891, 1, 1, 1),
   (42893, 1, 1, -42280), (42896, 2, 2, 1), (42902, 10, 2, 1), (42922, 1, 1, -42308),
   (42923, 1, 1, -42319), (42924, 1, 1, -42315), (42925, 1, 1, -42305), (42926, 1, 1, -42308),
   (42928, 1, 1, -42258), (42929, 1, 1, -42282), (42930, 1, 1, -42261), (42931, 1, 1, 928),
   (42932, 8, 2, 1), (42948, 1, 1, -48), (42949, 1, 1, -42307), (42950, 1, 1, -35384),
   (42951, 2, 2, 1), (42955, 1, 1, -42343), (42956, 8, 2, 1), (42972, 1, 1, -42561),
   (42997, 1, 1, 1), (65313, 26, 1, 32), (66560, 40, 1, 40), (66736, 36, 1, 40),
   (66928, 11, 1, 39), (66940, 15, 1, 39), (66956, 7, 1, 39), (66964, 2, 1, 39),
   (68736, 51, 1, 64), (68944, 22, 1, 32), (71840, 32, 1, 32), (93760, 32, 1, 32),
   (93856, 25, 1, 27), (125184, 34, 1, 34)]

/-- The shift of code point `n`, if one of `runs` holds it. -/
def shift? (n : Nat) (runs : List (Nat × Nat × Nat × Int)) : Option Int :=
  (runs.find? fun (first, count, step, _) =>
    first ≤ n ∧ n < first + count * step ∧ (n - first) % step = 0).map (·.2.2.2)

/-- The lower case of a character, where it is a single character. -/
def lowercaseChar (c : Char) : Char :=
  if c.toNat < 128 then c.toLower
  else match shift? c.toNat lowercaseRuns with
    | some d => Char.ofNat (c.toNat + d).toNat
    | none => c

/-- Punctuation that can stand inside a word. -/
def ignorablePunctuation : List Nat :=
  [0x27, 0x2E, 0x3A, 0xB7, 0x387, 0x55F, 0x5F4, 0x2018, 0x2019, 0x2024, 0x2027, 0xFE13, 0xFE52,
   0xFE55, 0xFF07, 0xFF0E, 0xFF1A]

/-- Whether case distinguishes forms of the character. -/
def isCased (c : Char) : Bool :=
  let n := c.toNat
  (match Category.of c with
    | .uppercaseLetter | .lowercaseLetter | .titlecaseLetter => true
    | _ => false) ||
  [(0xAA, 0xAA), (0xBA, 0xBA), (0x2B0, 0x2B8), (0x2C0, 0x2C1), (0x2E0, 0x2E4), (0x345, 0x345),
    (0x37A, 0x37A), (0x10FC, 0x10FC), (0x1D2C, 0x1D6A), (0x1D78, 0x1D78), (0x1D9B, 0x1DBF),
    (0x2071, 0x2071), (0x207F, 0x207F), (0x2090, 0x209C), (0x2160, 0x217F), (0x24B6, 0x24E9),
    (0x2C7C, 0x2C7D), (0xA69C, 0xA69D), (0xA770, 0xA770), (0xA7F1, 0xA7F4), (0xA7F8, 0xA7F9),
    (0xAB5C, 0xAB5F), (0xAB69, 0xAB69), (0x10780, 0x10780), (0x10783, 0x10785),
    (0x10787, 0x107B0), (0x107B2, 0x107BA), (0x1E030, 0x1E06D), (0x1F130, 0x1F149),
    (0x1F150, 0x1F169), (0x1F170, 0x1F189)].any fun (lo, hi) => lo ≤ n ∧ n ≤ hi

/-- Whether the character is passed over when the letters next to a sigma are looked for. -/
def isCaseIgnorable (c : Char) : Bool :=
  (match Category.of c with
    | .nonspacingMark | .enclosingMark | .format | .modifierLetter | .modifierSymbol => true
    | _ => false) ||
  ignorablePunctuation.contains c.toNat

/-- Whether a cased letter comes first once ignorable characters are passed over. -/
def startsCased (cs : List Char) : Bool :=
  match cs.dropWhile isCaseIgnorable with
  | c :: _ => isCased c
  | [] => false

/-- Lower-case `cs`, of which `before` is what precedes, nearest character first. -/
def lowercaseFrom (before : List Char) : List Char → List Char
  | [] => []
  | c :: rest =>
    let lower :=
      if c = 'Σ' then [if startsCased before && !startsCased rest then 'ς' else 'σ']
      else if c = 'İ' then ['i', '\u0307']
      else [lowercaseChar c]
    lower ++ lowercaseFrom (c :: before) rest

/-- The lower case of a text. -/
def lowercase (s : String) : String := String.ofList (lowercaseFrom [] s.toList)

/-- Whether two texts are equal when the case of ASCII letters is ignored. -/
def equalIgnoringAsciiCase (s t : String) : Bool :=
  s.toList.map Char.toLower == t.toList.map Char.toLower

/-- Characters that fold to a letter other than their lower case. -/
def foldExceptions : List (Nat × Nat) :=
  [(181, 956), (383, 115), (837, 953), (962, 963), (976, 946), (977, 952), (981, 966), (982, 960),
   (1008, 954), (1009, 961), (1013, 949), (7296, 1074), (7297, 1076), (7298, 1086), (7299, 1089),
   (7300, 1090), (7301, 1090), (7302, 1098), (7303, 1123), (7304, 42571), (7835, 7777),
   (8126, 953), (8147, 912), (8163, 944), (64262, 64261)]

/-! ### Case variants -/

/-- Every character with a lower case of one character, and that. -/
def lowercasePairs : List (Nat × Nat) :=
  (List.range 26).map (fun i => (65 + i, 97 + i)) ++
  lowercaseRuns.flatMap fun (first, count, step, shift) =>
    (List.range count).map fun i => (first + i * step, (first + i * step + shift).toNat)

/-- Pair every character of a list of equal ones with each of the others. -/
def pairs (variants : List Nat) : List (Nat × Nat) :=
  variants.flatMap fun x => (variants.filter (· != x)).map fun y => (x, y)

/-- All pairs of different characters that are equal when case is ignored, in order. -/
def casePairs : List (Nat × Nat) :=
  let folds := (lowercasePairs ++ foldExceptions).mergeSort fun p q => p.2 ≤ q.2
  let classes := folds.splitBy fun p q => p.2 == q.2
  (classes.flatMap fun l => pairs ((l.map (·.2)).take 1 ++ l.map (·.1))).mergeSort
    fun p q => p.1 ≤ q.1

/-- The pairs in order whose first parts are in ranges in order. -/
def pairsFrom : List (Nat × Nat) → List (Nat × Nat) → List (Nat × Nat)
  | [], _ => []
  | _, [] => []
  | (x, y) :: rest, (lo, hi) :: ranges =>
    if hi < x then pairsFrom ((x, y) :: rest) ranges
    else if x < lo then pairsFrom rest ((lo, hi) :: ranges)
    else (x, y) :: pairsFrom rest ((lo, hi) :: ranges)
termination_by pairs ranges => pairs.length + ranges.length

/-- The set with all characters that are equal to one of its own when case is ignored, in the last
version of the standard with a given first number. -/
def ignoringCase (major : Nat) (s : CharSet) : CharSet :=
  let later := Age.after major
  let variants := (pairsFrom casePairs s.ranges).filter fun (x, y) =>
    !later.holds x && !later.holds y
  s.union (.ofRanges (variants.map fun (_, y) => (y, y)))

end Rollout.Text
