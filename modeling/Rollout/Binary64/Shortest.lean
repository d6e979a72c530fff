import Rollout.Binary64

/-!
# The shortest decimal of a binary64 number

`Binary64.shortest` finds the decimal with the fewest digits among those that round to a given
number, and of these the nearest. Two layouts write it down: `Binary64.toText` always shows a point
or an exponent, and `Binary64.toPlainText` never uses an exponent.
-/

namespace Rollout.Binary64

/-- Which of two equally near decimals is taken. -/
inductive Tie where
  | toEven
  | up
  deriving Repr, DecidableEq

/-- The numbers that round to `u` units, in quarters of a unit: from the first to the second
bound. -/
def roundingBounds (u : Nat) : Nat × Nat :=
  let step := Nat.pow 2 (spacing u)
  let below := if spacing u = 0 || u != Nat.pow 2 (Nat.log2 u) then 2 * step else step
  (4 * u - below, 4 * u + 2 * step)

/-- The bounds themselves round to `u` units. -/
def boundsIncluded (u : Nat) : Bool := (u / Nat.pow 2 (spacing u)) % 2 == 0

/-- A multiple `c * 10 ^ p` as a fraction of quarter units. -/
def gridPoint (c : Nat) (p : Int) : Nat × Nat :=
  if 0 ≤ p then (c * Nat.pow 10 p.toNat * (4 * one), 1) else (c * (4 * one), Nat.pow 10 (-p).toNat)

/-- Whether `c * 10 ^ p` rounds to `u` units. -/
def roundsTo (u c : Nat) (p : Int) : Bool :=
  let (lo, hi) := roundingBounds u
  let (num, den) := gridPoint c p
  if boundsIncluded u then decide (lo * den ≤ num) && decide (num ≤ hi * den)
  else decide (lo * den < num) && decide (num < hi * den)

/-- The multiple of `10 ^ p` that rounds to `u` units, the nearer one of the two neighbours if both
do. -/
def onGrid (tie : Tie) (u : Nat) (p : Int) : Option Nat :=
  let (num, den) :=
    if 0 ≤ p then (u, one * Nat.pow 10 p.toNat) else (u * Nat.pow 10 (-p).toNat, one)
  let c := num / den
  match roundsTo u c p, roundsTo u (c + 1) p with
  | false, false => none
  | true, false => some c
  | false, true => some (c + 1)
  | true, true =>
    let r := 2 * (num % den)
    if r < den then some c
    else if den < r then some (c + 1)
    else match tie with
      | .up => some (c + 1)
      | .toEven => some (c + c % 2)

/-- The first grid, from step `10 ^ p` on to finer ones, with a decimal for `u` units. -/
def searchGrids (tie : Tie) (u : Nat) (p : Int) : Nat → Nat × Int
  | 0 => (0, 0)
  | fuel + 1 =>
    match onGrid tie u p with
    | some c => (c, p)
    | none => searchGrids tie u (p - 1) fuel

/-- The shortest decimal `c * 10 ^ p` of a positive number of `u` units, as `(c, p)`. The search
starts at a power of ten above the number, and 17 digits always suffice. -/
def shortest (tie : Tie) (u : Nat) : Nat × Int :=
  searchGrids tie u (((Nat.log2 u : Int) - 1073) * 30103 / 100000 + 1) 22

/-- `n` zeros. -/
def zeros (n : Nat) : String := String.ofList (List.replicate n '0')

def signText (negative : Bool) : String := if negative then "-" else ""

/-- The text of a number with a point or an exponent: positional while the point stands within the
first sixteen digits or at most four zeros follow it, else with an exponent. -/
def toText : Binary64 → String
  | .nan => "NaN"
  | .infinite s => signText s ++ "inf"
  | .finite s 0 => signText s ++ "0.0"
  | .finite s u =>
    let (c, p) := shortest .toEven u
    let digits := toString c
    let n := digits.length
    let point := (n : Int) + p
    signText s ++
      if 0 ≤ p ∧ point ≤ 16 then digits ++ zeros p.toNat ++ ".0"
      else if 0 < point ∧ point ≤ 16 then
        (digits.take point.toNat).toString ++ "." ++ (digits.drop point.toNat).toString
      else if -5 < point ∧ point ≤ 0 then "0." ++ zeros (-point).toNat ++ digits
      else
        let exponent := "e" ++ toString (point - 1)
        if n = 1 then digits ++ exponent
        else (digits.take 1).toString ++ "." ++ (digits.drop 1).toString ++ exponent

/-- The text of a number without an exponent. -/
def toPlainText : Binary64 → String
  | .nan => "NaN"
  | .infinite s => signText s ++ "inf"
  | .finite s 0 => signText s ++ "0"
  | .finite s u =>
    let (c, p) := shortest .up u
    let digits := toString c
    let point := (digits.length : Int) + p
    signText s ++
      if 0 ≤ p then digits ++ zeros p.toNat
      else if 0 < point then
        (digits.take point.toNat).toString ++ "." ++ (digits.drop point.toNat).toString
      else "0." ++ zeros (-point).toNat ++ digits

end Rollout.Binary64
