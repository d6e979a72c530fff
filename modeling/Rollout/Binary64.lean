/-!
# Binary64 numbers

A finite number is a whole number of *units* of 2⁻¹⁰⁷⁴, the smallest positive value of the format,
with a sign of its own (zero has one too). Arithmetic is exact on units and then rounded once, to
the nearest value of the format and on a tie to the even one (`Binary64.roundUnits`).
-/

namespace Rollout

/-- A number of the binary64 format. -/
inductive Binary64 where
  /-- Not a number. -/
  | nan
  | infinite (negative : Bool)
  /-- The number of magnitude `units * 2 ^ (-1074)`. -/
  | finite (negative : Bool) (units : Nat)
  deriving Repr, DecidableEq, Inhabited

namespace Binary64

/-- The units in the number one. -/
def one : Nat := Nat.pow 2 1074

/-- The units of the largest finite number. -/
def largest : Nat := (Nat.pow 2 53 - 1) * Nat.pow 2 2045

/-! ### Rounding -/

/-- The whole number nearest to `num / den`, the even one on a tie. -/
def roundDiv (num den : Nat) : Nat :=
  let q := num / den
  let r := num % den
  if 2 * r < den then q else if den < 2 * r then q + 1 else q + q % 2

/-- Numbers of at least `u` units lie `2 ^ spacing u` units apart, so that 53 binary digits name
each of them. -/
def spacing (u : Nat) : Nat := Nat.log2 u - 52

/-- The units of the number nearest to `num / den` units, were there no largest number. -/
def roundUnits (num den : Nat) : Nat :=
  let step := Nat.pow 2 (spacing (num / den))
  roundDiv num (den * step) * step

/-- The number nearest to `num / den` units, infinite past the largest one. -/
def ofUnits (negative : Bool) (num den : Nat) : Binary64 :=
  let u := roundUnits num den
  if largest < u then .infinite negative else .finite negative u

/-- The number nearest to an integer. -/
def ofInt (n : Int) : Binary64 := ofUnits (n < 0) (n.natAbs * one) 1

/-- The number nearest to `digits * 10 ^ exponent`, with a sign. Exponents that leave the range of
the format are answered without computing the power. -/
def ofDecimal (negative : Bool) (digits : Nat) (exponent : Int) : Binary64 :=
  if digits = 0 then .finite negative 0
  else if 310 < exponent then .infinite negative
  else if exponent + (Nat.log2 digits : Int) / 3 + 1 < -330 then .finite negative 0
  else if 0 ≤ exponent then ofUnits negative (digits * Nat.pow 10 exponent.toNat * one) 1
  else ofUnits negative (digits * one) (Nat.pow 10 (-exponent).toNat)

/-! ### Arithmetic -/

/-- The number with the other sign. -/
def neg : Binary64 → Binary64
  | .nan => .nan
  | .infinite s => .infinite !s
  | .finite s u => .finite (!s) u

instance : Neg Binary64 := ⟨neg⟩

/-- The rounded product. -/
def mul : Binary64 → Binary64 → Binary64
  | .finite s u, .finite t v => ofUnits (s != t) (u * v) one
  | .nan, _ | _, .nan => .nan
  | .infinite s, .infinite t => .infinite (s != t)
  | .infinite s, .finite t v => if v = 0 then .nan else .infinite (s != t)
  | .finite s u, .infinite t => if u = 0 then .nan else .infinite (s != t)

instance : Mul Binary64 := ⟨mul⟩

/-- The rounded quotient. -/
def div : Binary64 → Binary64 → Binary64
  | .finite s u, .finite t v =>
    if v = 0 then if u = 0 then .nan else .infinite (s != t)
    else ofUnits (s != t) (u * one) v
  | .nan, _ | _, .nan | .infinite _, .infinite _ => .nan
  | .infinite s, .finite t _ => .infinite (s != t)
  | .finite s _, .infinite t => .finite (s != t) 0

instance : Div Binary64 := ⟨div⟩

/-! ### Order -/

/-- A finite number in units, with its sign. -/
def signedUnits (negative : Bool) (units : Nat) : Int := if negative then -units else units

/-- How two numbers compare; `none` if one of them is not a number. -/
def compare? : Binary64 → Binary64 → Option Ordering
  | .nan, _ | _, .nan => none
  | .finite s u, .finite t v => some (compare (signedUnits s u) (signedUnits t v))
  | .infinite s, .infinite t => some (if s = t then .eq else if s then .lt else .gt)
  | .infinite s, .finite _ _ => some (if s then .lt else .gt)
  | .finite _ _, .infinite t => some (if t then .gt else .lt)

/-- Whether two numbers are equal; the two zeros are, and nothing equals `nan`. -/
def equal (a b : Binary64) : Bool := compare? a b == some .eq

def less (a b : Binary64) : Bool := compare? a b == some .lt

def atMost (a b : Binary64) : Bool := less a b || equal a b

/-! ### Whole numbers -/

/-- Whether the number is finite and whole. -/
def isWhole : Binary64 → Bool
  | .finite _ u => u % one == 0
  | _ => false

/-- The whole part, kept between `lo` and `hi`; `nan` gives zero. -/
def truncate (lo hi : Int) : Binary64 → Int
  | .nan => 0
  | .infinite s => if s then lo else hi
  | .finite s u => max lo (min hi (signedUnits s (u / one)))

end Binary64

end Rollout
