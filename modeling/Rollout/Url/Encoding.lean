/-!
# Percent-encoding

Characters that a part of a URL cannot hold are written as the bytes of their UTF-8 form, each as a
percent sign and two hexadecimal digits.
-/

namespace Rollout.Url

/-- An upper-case hexadecimal digit. -/
def hexDigit (n : Nat) : Char := "0123456789ABCDEF".toList.getD n '0'

/-- The value of a hexadecimal digit. -/
def hexValue? (c : Char) : Option Nat :=
  if c.isDigit then some (c.toNat - '0'.toNat)
  else if 'a' ≤ c ∧ c ≤ 'f' then some (c.toNat - 'a'.toNat + 10)
  else if 'A' ≤ c ∧ c ≤ 'F' then some (c.toNat - 'A'.toNat + 10)
  else none

/-- A byte as a percent sign and two digits. -/
def encodeByte (b : UInt8) : List Char := ['%', hexDigit (b.toNat / 16), hexDigit (b.toNat % 16)]

/-- Encode the characters of a set. -/
def encode (isEncoded : Char → Bool) (cs : List Char) : List Char :=
  cs.flatMap fun c => if isEncoded c then (String.utf8EncodeChar c).flatMap encodeByte else [c]

/-- The bytes of a text in which percent signs with two digits stand for bytes. -/
def decodeBytes : List Char → List UInt8
  | [] => []
  | '%' :: a :: b :: rest =>
    match hexValue? a, hexValue? b with
    | some x, some y => UInt8.ofNat (16 * x + y) :: decodeBytes rest
    | _, _ => String.utf8EncodeChar '%' ++ decodeBytes (a :: b :: rest)
  | c :: rest => String.utf8EncodeChar c ++ decodeBytes rest

/-- Decode a text, if the bytes are UTF-8. -/
def decode? (cs : List Char) : Option (List Char) :=
  (String.fromUTF8? ⟨(decodeBytes cs).toArray⟩).map String.toList

/-! ### What is encoded where -/

/-- Control characters and everything beyond ASCII. -/
def isControl (c : Char) : Bool := c < ' ' || '~' < c

/-- What is encoded in fragments. -/
def inFragment (c : Char) : Bool := isControl c || " \"<>\x60".toList.contains c

/-- What is encoded in queries. -/
def inQuery (c : Char) : Bool := isControl c || " \"#<>".toList.contains c

/-- What is encoded in the queries of special URLs: the apostrophe (39) too. -/
def inSpecialQuery (c : Char) : Bool := inQuery c || c.toNat == 39

/-- What is encoded in paths. -/
def inPath (c : Char) : Bool := inFragment c || "#?\x7b\x7d".toList.contains c

/-- What is encoded in names and passwords. -/
def inUserInfo (c : Char) : Bool := inPath c || "/:;=@[\\]^|".toList.contains c

end Rollout.Url
