/-!
# Damaged UTF-8

The text of bytes that need not be UTF-8 (`ofDamagedUtf8`): the longest starts of sequences that are
not finished, and bytes that start none, each give one replacement character.
-/

namespace Rollout.Text

/-- Stands for bytes that are no character. -/
def replacement : Char := '\ufffd'

/-- What follows the first byte of a sequence: the bits that it gives, the number of bytes to come,
and where the next one of them starts and ends. -/
def sequenceStart? (b : UInt8) : Option (Nat × Nat × UInt8 × UInt8) :=
  let n := b.toNat
  if n < 0x80 then some (n, 0, 0x80, 0xBF)
  else if n < 0xC2 then none
  else if n < 0xE0 then some (n - 0xC0, 1, 0x80, 0xBF)
  else if n < 0xF0 then
    some (n - 0xE0, 2, if n = 0xE0 then 0xA0 else 0x80, if n = 0xED then 0x9F else 0xBF)
  else if n < 0xF5 then
    some (n - 0xF0, 3, if n = 0xF0 then 0x90 else 0x80, if n = 0xF4 then 0x8F else 0xBF)
  else none

/-- Read the rest of a sequence, given the value so far; there is no value if it is not finished. -/
def readSequence (value : Nat) (lo hi : UInt8) : Nat → List UInt8 → Option Nat × List UInt8
  | 0, rest => (some value, rest)
  | _ + 1, [] => (none, [])
  | n + 1, b :: rest =>
    if lo ≤ b ∧ b ≤ hi then readSequence (64 * value + (b.toNat - 0x80)) 0x80 0xBF n rest
    else (none, b :: rest)

theorem length_readSequence_le (value : Nat) (lo hi : UInt8) (n : Nat) (bytes : List UInt8) :
    (readSequence value lo hi n bytes).2.length ≤ bytes.length := by
  induction n generalizing value lo hi bytes with
  | zero => simp [readSequence]
  | succ n ih =>
    cases bytes with
    | nil => simp [readSequence]
    | cons b rest =>
      rw [readSequence]
      split
      · exact Nat.le_succ_of_le (ih _ _ _ _)
      · simp

/-- The characters of bytes that need not be UTF-8. -/
def ofDamagedUtf8 (bytes : List UInt8) : List Char :=
  match bytes with
  | [] => []
  | b :: rest =>
    match sequenceStart? b with
    | none => replacement :: ofDamagedUtf8 rest
    | some (value, n, lo, hi) =>
      let sequence := readSequence value lo hi n rest
      (sequence.1.map Char.ofNat).getD replacement :: ofDamagedUtf8 sequence.2
termination_by bytes.length
decreasing_by
  · simp
  · have := length_readSequence_le value lo hi n rest
    simp only [List.length_cons]
    omega

end Rollout.Text
