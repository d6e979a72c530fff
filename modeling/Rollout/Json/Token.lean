import Rollout.Json
import Rollout.Binary64.Reading

/-!
# Tokens of JSON text

`Token.scan` cuts JSON text into tokens. A number or a string may be well written and still stand
for nothing (a number out of range, half of a surrogate pair); such a token carries `none`, and it
is for the reader of the document to refuse it where the value is wanted.
-/

namespace Rollout

/-! ### Numbers -/

namespace Number

/-- Take decimal digits onto `significand` while it stays below 2⁶⁴; the digits from the first one
that does not fit are returned. -/
def accumulate (significand : Nat) : List Char → Nat × List Char
  | [] => (significand, [])
  | c :: rest =>
    let next := 10 * significand + (c.toNat - '0'.toNat)
    if next < Nat.pow 2 64 then accumulate next rest else (significand, c :: rest)

/-- `f * 10 ^ exponent` by a product or quotient with one power of ten up to 10³⁰⁸, where smaller
exponents take a division by 10³⁰⁸ first; `none` past the largest number. -/
def scale (f : Binary64) (exponent : Int) : Nat → Option Binary64
  | 0 => some f
  | fuel + 1 =>
    if exponent.natAbs ≤ 308 then
      let power := Binary64.ofDecimal false 1 exponent.natAbs
      if 0 ≤ exponent then
        match f * power with
        | .infinite _ => none
        | g => some g
      else some (f / power)
    else if f.equal (.finite false 0) then some f
    else if 0 ≤ exponent then none
    else scale (f / Binary64.ofDecimal false 1 308) (exponent + 308) fuel

/-- The binary64 number of a significand and a power of ten. -/
def ofParts? (negative : Bool) (significand : Nat) (exponent : Int) : Option Number :=
  (scale (Binary64.ofInt significand) exponent 4).map fun f =>
    .double (if negative then -f else f)

/-- The number that is written with these digits. Without fraction and exponent it is an integer if
it fits 64 bits; otherwise the first 64 bits of digits count, and `none` means out of range. -/
def ofDigits? (negative : Bool) (whole : List Char) (fraction : Option (List Char))
    (exponent : Option (Bool × List Char)) : Option Number :=
  let (significand, extra) := accumulate 0 whole
  match fraction, exponent with
  | none, none =>
    if !extra.isEmpty then ofParts? negative significand extra.length
    else if !negative then some (.int significand)
    else if significand = 0 ∨ Nat.pow 2 63 < significand then
      some (.double (-Binary64.ofInt significand))
    else some (.int (-significand))
  | fraction, exponent =>
    let digits := fraction.getD []
    let (significand, unread) := accumulate significand digits
    let point : Int := (extra.length : Int) - ((digits.length - unread.length : Nat) : Int)
    match exponent with
    | none => ofParts? negative significand point
    | some (downward, e) =>
      let n := Binary64.digitsValue e
      if Nat.pow 2 31 ≤ n then
        if significand ≠ 0 ∧ !downward then none
        else some (.double (.finite negative 0))
      else ofParts? negative significand (if downward then point - n else point + n)

end Number

namespace Json

/-- A token of JSON text. -/
inductive Token where
  | beginArray
  | endArray
  | beginObject
  | endObject
  | comma
  | colon
  | null
  | bool (b : Bool)
  | number (n : Option Number)
  | text (s : Option String)
  deriving Repr, DecidableEq, Inhabited

namespace Token

/-- A piece of a quoted text: a character, or a 16-bit unit written as four hexadecimal digits. -/
inductive Piece where
  | char (c : Char)
  | unit (n : Nat)
  deriving Repr

/-- The value of a hexadecimal digit. -/
def hexValue? (c : Char) : Option Nat :=
  if c.isDigit then some (c.toNat - '0'.toNat)
  else if 'a' ≤ c ∧ c ≤ 'f' then some (c.toNat - 'a'.toNat + 10)
  else if 'A' ≤ c ∧ c ≤ 'F' then some (c.toNat - 'A'.toNat + 10)
  else none

/-- The character that a backslash and the given character stand for. -/
def escape? : Char → Option Char
  | '"' => some '"'
  | '\\' => some '\\'
  | '/' => some '/'
  | 'b' => some '\x08'
  | 'f' => some '\x0c'
  | 'n' => some '\n'
  | 'r' => some '\r'
  | 't' => some '\t'
  | _ => none

/-- The pieces up to the closing quote, and what follows it. -/
def scanText : List Char → Option (List Piece × List Char)
  | [] => none
  | '"' :: rest => some ([], rest)
  | '\\' :: 'u' :: a :: b :: c :: d :: rest =>
    match hexValue? a, hexValue? b, hexValue? c, hexValue? d with
    | some a, some b, some c, some d =>
      (scanText rest).map fun (ps, r) => (.unit (4096 * a + 256 * b + 16 * c + d) :: ps, r)
    | _, _, _, _ => none
  | '\\' :: e :: rest =>
    match escape? e with
    | some c => (scanText rest).map fun (ps, r) => (.char c :: ps, r)
    | none => none
  | c :: rest =>
    if c.toNat < 32 then none else (scanText rest).map fun (ps, r) => (.char c :: ps, r)

/-- The characters of pieces; a high surrogate must be followed by a low one. -/
def joinPieces : List Piece → Option (List Char)
  | [] => some []
  | .char c :: rest => (joinPieces rest).map (c :: ·)
  | .unit hi :: .unit lo :: rest =>
    if 0xD800 ≤ hi ∧ hi < 0xDC00 then
      if 0xDC00 ≤ lo ∧ lo < 0xE000 then
        (joinPieces rest).map (Char.ofNat (0x10000 + (hi - 0xD800) * 0x400 + (lo - 0xDC00)) :: ·)
      else none
    else if 0xDC00 ≤ hi ∧ hi < 0xE000 then none
    else (joinPieces (.unit lo :: rest)).map (Char.ofNat hi :: ·)
  | .unit n :: rest =>
    if 0xD800 ≤ n ∧ n < 0xE000 then none else (joinPieces rest).map (Char.ofNat n :: ·)

/-- The exponent at the start of a text, if there is one: its direction and digits, and the rest. -/
def scanExponent : List Char → Option (Option (Bool × List Char) × List Char)
  | c :: rest =>
    if c = 'e' ∨ c = 'E' then
      let (downward, rest) := match rest with
        | '-' :: r => (true, r)
        | '+' :: r => (false, r)
        | r => (false, r)
      let digits := rest.takeWhile Char.isDigit
      if digits.isEmpty then none else some (some (downward, digits), rest.dropWhile Char.isDigit)
    else some (none, c :: rest)
  | [] => some (none, [])

/-- The number that starts a text (after its sign, if any), and the rest. -/
def scanNumber (negative : Bool) (cs : List Char) : Option (Option Number × List Char) :=
  let whole := match cs with
    | '0' :: _ => ['0']
    | cs => cs.takeWhile Char.isDigit
  let rest := cs.drop whole.length
  if whole.isEmpty then none
  else match rest with
    | '.' :: r =>
      let fraction := r.takeWhile Char.isDigit
      if fraction.isEmpty then none
      else (scanExponent (r.dropWhile Char.isDigit)).map fun (e, tail) =>
        (Number.ofDigits? negative whole (some fraction) e, tail)
    | r => (scanExponent r).map fun (e, tail) => (Number.ofDigits? negative whole none e, tail)

/-- The token at the start of a text that starts with no blank, and the rest. -/
def scanOne : List Char → Option (Token × List Char)
  | '[' :: rest => some (.beginArray, rest)
  | ']' :: rest => some (.endArray, rest)
  | '\x7b' :: rest => some (.beginObject, rest)
  | '\x7d' :: rest => some (.endObject, rest)
  | ',' :: rest => some (.comma, rest)
  | ':' :: rest => some (.colon, rest)
  | 'n' :: 'u' :: 'l' :: 'l' :: rest => some (.null, rest)
  | 't' :: 'r' :: 'u' :: 'e' :: rest => some (.bool true, rest)
  | 'f' :: 'a' :: 'l' :: 's' :: 'e' :: rest => some (.bool false, rest)
  | '"' :: rest => (scanText rest).map fun (ps, r) => (.text ((joinPieces ps).map String.ofList), r)
  | '-' :: rest => (scanNumber true rest).map fun (n, r) => (.number n, r)
  | cs => (scanNumber false cs).map fun (n, r) => (.number n, r)

/-- Whether a character may stand between tokens. -/
def isSpace (c : Char) : Bool := c == ' ' || c == '\n' || c == '\r' || c == '\t'

/-- At most `fuel` tokens of a text, which must be all of them. -/
def scanAll : Nat → List Char → Option (List Token)
  | 0, cs => if (cs.dropWhile isSpace).isEmpty then some [] else none
  | fuel + 1, cs =>
    match cs.dropWhile isSpace with
    | [] => some []
    | c :: rest => (scanOne (c :: rest)).bind fun (t, r) => (scanAll fuel r).map (t :: ·)

/-- The tokens of a text; every token takes a character at least. -/
def scan (s : String) : Option (List Token) := scanAll s.length s.toList

end Token

end Json

end Rollout
