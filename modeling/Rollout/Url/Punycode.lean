/-!
# Punycode

Labels of domain names that are not ASCII are written in letters, digits and hyphens
(`Punycode.encode`), and read back (`Punycode.decode?`). The ASCII characters come first; then it is
written how far it is from each inserted character to the next, with more digits for larger
distances.
-/

namespace Rollout.Url.Punycode

/-- The digit for a value below 36. -/
def digit (n : Nat) : Char := "abcdefghijklmnopqrstuvwxyz0123456789".toList.getD n 'a'

/-- Scale the difference down until the bias can be read off. -/
def scaleDelta (k delta : Nat) : Nat :=
  if h : 455 < delta then scaleDelta (k + 36) (delta / 35) else k + 36 * delta / (delta + 38)
termination_by delta
decreasing_by omega

/-- The bias after a difference was written. -/
def adapt (delta count : Nat) (isFirst : Bool) : Nat :=
  let delta := if isFirst then delta / 700 else delta / 2
  scaleDelta 0 (delta + delta / count)

/-- The threshold at a digit position. -/
def threshold (k bias : Nat) : Nat := max 1 (min 26 (k - bias))

/-! ### Writing -/

/-- Write a difference in digits with thresholds, given one more than the digits it may need. -/
def writeDelta (bias : Nat) : Nat → Nat → Nat → List Char
  | 0, _, q => [digit q]
  | fuel + 1, k, q =>
    let t := threshold k bias
    if q < t then [digit q]
    else digit (t + (q - t) % (36 - t)) :: writeDelta bias fuel (k + 36) ((q - t) / (36 - t))

/-- The state of an encoder. -/
structure State where
  delta : Nat := 0
  bias : Nat := 72
  handled : Nat
  output : List Char

/-- Take account of one character when the code point `n` is written. -/
def visit (basic n : Nat) (s : State) (c : Char) : State :=
  if c.toNat < n then { s with delta := s.delta + 1 }
  else if c.toNat = n then
    { delta := 0, bias := adapt s.delta (s.handled + 1) (s.handled == basic),
      handled := s.handled + 1,
      output := s.output ++ writeDelta s.bias (s.delta + 1) 36 s.delta }
  else s

/-- Write the code points of a list, which increases, given the last one written. -/
def encodePoints (cs : List Char) (basic : Nat) : List Nat → Nat → State → State
  | [], _, s => s
  | n :: rest, last, s =>
    let s := { s with delta := s.delta + (n - last) * (s.handled + 1) }
    let s := cs.foldl (visit basic n) s
    encodePoints cs basic rest (n + 1) { s with delta := s.delta + 1 }

/-- Encode a label. -/
def encode (cs : List Char) : List Char :=
  let basic := cs.filter (·.toNat < 128)
  let points := ((cs.map Char.toNat).filter (128 ≤ ·)).mergeSort.eraseDups
  let start := if basic.isEmpty then [] else basic ++ ['-']
  (encodePoints cs basic.length points 128 { handled := basic.length, output := start }).output

/-! ### Reading -/

/-- The value of a digit. -/
def digitValue? (c : Char) : Option Nat :=
  if c.isLower then some (c.toNat - 'a'.toNat)
  else if c.isDigit then some (c.toNat - '0'.toNat + 26)
  else none

/-- The largest number of a reader. -/
def maxNumber : Nat := Nat.pow 2 32 - 1

/-- Read a difference and add it to `i`, given the value of the next digit in units. -/
def readDelta? (bias k unit i : Nat) : List Char → Option (Nat × List Char)
  | [] => none
  | c :: rest =>
    (digitValue? c).bind fun d =>
      let i := i + d * unit
      let t := threshold k bias
      if maxNumber < i then none
      else if d < t then some (i, rest)
      else if maxNumber < unit * (36 - t) then none
      else readDelta? bias (k + 36) (unit * (36 - t)) i rest

/-- Insert the characters that some digits give. The last one that was inserted is that of code
point `n`, before position `i`. No more characters are inserted than `fuel`. -/
def insertAll? : Nat → List Char → Nat → Nat → Nat → List Char → Option (List Char)
  | _, cs, _, _, _, [] => some cs
  | 0, _, _, _, _, _ => none
  | fuel + 1, cs, n, bias, i, digits =>
    (readDelta? bias 36 1 i digits).bind fun (j, rest) =>
      let count := cs.length + 1
      let n := n + j / count
      let position := j % count
      if n.isValidChar then
        insertAll? fuel (cs.insertIdx position (Char.ofNat n)) n (adapt (j - i) count (i == 0))
          (position + 1) rest
      else none

/-- Decode a label. There is no hyphen unless it follows ASCII characters. -/
def decode? (cs : List Char) : Option (List Char) :=
  let digits := (cs.reverse.takeWhile (· != '-')).reverse
  let basic := cs.take (cs.length - digits.length - 1)
  if digits.length < cs.length && basic.isEmpty then none
  else insertAll? cs.length basic 128 72 0 digits

end Rollout.Url.Punycode
