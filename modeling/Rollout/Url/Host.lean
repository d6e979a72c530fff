import Rollout.Url.Domain
import Rollout.Url.Encoding

/-!
# Hosts

The host of a URL: a domain name, an address, or text of a scheme with rules of its own. Domain
names are in ASCII.
-/

namespace Rollout

/-- A host. -/
inductive Url.Host where
  | domain (name : String)
  | ipv4 (address : Nat)
  /-- The eight pieces of an address. -/
  | ipv6 (pieces : List Nat)
  /-- A host of a scheme with rules of its own. -/
  | verbatim (text : String)
  deriving Repr, DecidableEq

namespace Url

/-! ### Addresses -/

/-- The value of digits in a base, if all of them are digits of that base. -/
def digitsValue? (base : Nat) (cs : List Char) : Option Nat :=
  cs.foldlM (fun n c => (hexValue? c).bind fun d =>
    if d < base then some (base * n + d) else none) 0

/-- A number in an address: hexadecimal after `0x`, octal after `0`. -/
def addressNumber? : List Char → Option Nat
  | [] => none
  | '0' :: 'x' :: rest | '0' :: 'X' :: rest => digitsValue? 16 rest
  | '0' :: d :: rest => digitsValue? 8 (d :: rest)
  | cs => digitsValue? 10 cs

/-- The labels of a domain, without an empty last one. -/
def labels (cs : List Char) : List (List Char) :=
  match (Text.splitList (· == '.') cs).reverse with
  | [] :: label :: rest => (label :: rest).reverse
  | ls => ls.reverse

/-- Whether the last label is a number, so that the domain must be an address. -/
def endsInNumber (cs : List Char) : Bool :=
  match (labels cs).getLast? with
  | none | some [] => false
  | some last => last.all Char.isDigit || (addressNumber? last).isSome

/-- An address of four numbers; fewer numbers leave the last one more room. -/
def ipv4? (cs : List Char) : Option Nat := do
  let parts := labels cs
  guard (parts.length ≤ 4)
  let numbers ← parts.mapM addressNumber?
  let last ← numbers.getLast?
  let init := numbers.dropLast
  guard (init.all (· < 256) && last < Nat.pow 256 (4 - init.length))
  return init.foldl (fun n d => 256 * n + d) 0 * Nat.pow 256 (4 - init.length) + last

/-- A piece of an address of eight pieces. -/
def piece? (cs : List Char) : Option Nat :=
  if cs.isEmpty || 4 < cs.length then none else digitsValue? 16 cs

/-- A byte in decimal digits without leading zeros. -/
def decimalByte? (cs : List Char) : Option Nat :=
  if cs.isEmpty || (1 < cs.length && cs.head? == some '0') then none
  else (digitsValue? 10 cs).filter (· < 256)

/-- Pieces between colons. Where `last` is set the last one may be an address of four bytes. -/
def pieces? (last : Bool) (cs : List Char) : Option (List Nat) :=
  if cs.isEmpty then some []
  else
    let parts := Text.splitList (· == ':') cs
    match parts.reverse with
    | tail :: init =>
      if last && tail.contains '.' then do
        match ← (Text.splitList (· == '.') tail).mapM decimalByte? with
        | [a, b, c, d] => return (← init.reverse.mapM piece?) ++ [256 * a + b, 256 * c + d]
        | _ => none
      else parts.mapM piece?
    | [] => none

/-- Split at the first double colon. -/
def splitDoubleColon : List Char → Option (List Char × List Char)
  | [] => none
  | ':' :: ':' :: rest => some ([], rest)
  | c :: rest => (splitDoubleColon rest).map fun (a, b) => (c :: a, b)

/-- An address of eight pieces, where a double colon stands for zeros. -/
def ipv6? (cs : List Char) : Option (List Nat) :=
  match splitDoubleColon cs with
  | none => (pieces? true cs).filter (·.length = 8)
  | some (a, b) => do
    let before ← pieces? false a
    let after ← pieces? true b
    guard (before.length + after.length ≤ 7)
    return before ++ List.replicate (8 - before.length - after.length) 0 ++ after

/-! ### Hosts -/

namespace Host

/-- Read the host of a special URL. -/
def ofSpecial? (cs : List Char) : Option Host :=
  match cs with
  | '[' :: rest =>
    match rest.reverse with
    | ']' :: inner => (ipv6? inner.reverse).map .ipv6
    | _ => none
  | _ => do
    let domain ← domainToAscii? (← decode? cs)
    guard !domain.isEmpty
    if endsInNumber domain then (ipv4? domain).map .ipv4
    else return .domain (String.ofList domain)

/-- Read the host of any other URL. -/
def ofOther? (cs : List Char) : Option Host :=
  match cs with
  | '[' :: rest =>
    match rest.reverse with
    | ']' :: inner => (ipv6? inner.reverse).map .ipv6
    | _ => none
  | _ =>
    if cs.any isForbiddenInHost then none
    else some (.verbatim (String.ofList (encode isControl cs)))

/-- A number in lower-case hexadecimal digits. -/
def hexText (n : Nat) : String := String.ofList (Nat.toDigits 16 n)

/-- The length of the run of zeros at the start. -/
def zeros : List Nat → Nat
  | 0 :: rest => zeros rest + 1
  | _ => 0

/-- The longest run of zeros: where it starts and how long it is. The first one wins. -/
def longestZeros : Nat → List Nat → Nat × Nat
  | _, [] => (0, 0)
  | i, n :: rest =>
    let here := zeros (n :: rest)
    let later := longestZeros (i + 1) rest
    if later.2 ≤ here then (i, here) else later

/-- The text of eight pieces; the longest run of two zeros or more is left out. -/
def piecesText (pieces : List Nat) : String :=
  let text (l : List Nat) := ":".intercalate (l.map hexText)
  let (start, count) := longestZeros 0 pieces
  if count < 2 then text pieces
  else text (pieces.take start) ++ "::" ++ text (pieces.drop (start + count))

/-- The text of a host. -/
def toText : Host → String
  | .domain name => name
  | .ipv4 n => ".".intercalate
    ([n / 256 / 256 / 256, n / 256 / 256 % 256, n / 256 % 256, n % 256].map toString)
  | .ipv6 pieces => "[" ++ piecesText pieces ++ "]"
  | .verbatim text => text

end Host

end Url

end Rollout
