/-!
# Sets of characters

A set of code points as the list of its ranges, which are in order and apart from each other:
membership (`CharSet.contains`), the operations on sets, and a compact written form for the sets
that standards list (`CharSet.ofRuns`).
-/

namespace Rollout.Text

/-- A set of code points: the first and the last one of each range, in order, with code points
between the ranges. -/
structure CharSet where
  ranges : List (Nat × Nat) := []
  deriving Repr, DecidableEq, Inhabited

namespace CharSet

/-- The last code point. -/
def last : Nat := 0x10FFFF

/-- Whether a code point is in the set. -/
def holds (s : CharSet) (n : Nat) : Bool := (s.ranges.find? (n ≤ ·.2)).any (·.1 ≤ n)

/-- Whether a character is in the set. -/
def contains (s : CharSet) (c : Char) : Bool := s.holds c.toNat

/-- Extend the range from `lo` to `hi` by the ranges after it that overlap or touch it, in order of
where they start; then do so with the rest. -/
def joinFrom (lo hi : Nat) : List (Nat × Nat) → List (Nat × Nat)
  | [] => [(lo, hi)]
  | (a, b) :: rest =>
    if a ≤ hi + 1 then joinFrom lo (max hi b) rest else (lo, hi) :: joinFrom a b rest

/-- The set of ranges in order of where they start, which may overlap or touch. -/
def ofSorted : List (Nat × Nat) → CharSet
  | [] => {}
  | (lo, hi) :: rest => ⟨joinFrom lo hi rest⟩

/-- The set of ranges in any order. -/
def ofRanges (l : List (Nat × Nat)) : CharSet := ofSorted (l.mergeSort fun r t => r.1 ≤ t.1)

/-- The characters from `lo` to `hi`. -/
def range (lo hi : Char) : CharSet := ⟨[(lo.toNat, hi.toNat)]⟩

/-- One character. -/
def single (c : Char) : CharSet := range c c

/-- All code points. -/
def any : CharSet := ⟨[(0, last)]⟩

/-- What is in either set. -/
def union (s t : CharSet) : CharSet :=
  ofSorted (s.ranges.merge t.ranges fun r u => r.1 ≤ u.1)

/-- What is in any set of a list. -/
def unions (l : List CharSet) : CharSet := ofRanges (l.flatMap (·.ranges))

/-- The code points from `n` on that the ranges leave out. -/
def gapsFrom (n : Nat) : List (Nat × Nat) → List (Nat × Nat)
  | [] => if n ≤ last then [(n, last)] else []
  | (lo, hi) :: rest =>
    if n < lo then (n, lo - 1) :: gapsFrom (hi + 1) rest else gapsFrom (hi + 1) rest

/-- What is not in the set. -/
def complement (s : CharSet) : CharSet := ⟨gapsFrom 0 s.ranges⟩

/-- All characters: the code points that are not surrogates. -/
def characters : CharSet := ⟨[(0, 0xD7FF), (0xE000, last)]⟩

/-- What is in both sets. -/
def inter (s t : CharSet) : CharSet := (s.complement.union t.complement).complement

/-- What is in `s` and not in `t`. -/
def diff (s t : CharSet) : CharSet := (s.complement.union t).complement

/-- The characters that are not in the set. -/
def negate (s : CharSet) : CharSet := characters.diff s

/-- What is in one of `s` and `t` and not in both. -/
def symmetricDiff (s t : CharSet) : CharSet := (s.diff t).union (t.diff s)

/-- The code points of the set, in order. -/
def toList (s : CharSet) : List Nat :=
  s.ranges.flatMap fun (lo, hi) => (List.range (hi + 1 - lo)).map (lo + ·)

/-- Whether the set has no characters beyond ASCII. -/
def isAscii (s : CharSet) : Bool := s.ranges.all (·.2 < 128)

/-! ### Written form -/

/-- The numbers of a text: in base 26, the digits being letters, of which the last one is a capital;
`n` is the value of the digits before. -/
def numbers (n : Nat) : List Char → List Nat
  | [] => []
  | c :: rest =>
    if c.isUpper then (26 * n + (c.toNat - 'A'.toNat)) :: numbers 0 rest
    else numbers (26 * n + (c.toNat - 'a'.toNat)) rest

/-- The ranges given by the distance and the length of each run, from code point `n` on. -/
def runs (n : Nat) : List Nat → List (Nat × Nat)
  | gap :: length :: rest => (n + gap, n + gap + length - 1) :: runs (n + gap + length) rest
  | _ => []

/-- The set whose runs are written as numbers: how far each one is from the one before, and how
long it is. A number does not go on in the next line. -/
def ofRuns (lines : List String) : CharSet :=
  ⟨runs 0 (lines.flatMap fun line => numbers 0 line.toList)⟩

end CharSet

end Rollout.Text
