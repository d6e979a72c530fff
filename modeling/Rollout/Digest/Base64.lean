/-!
# Base64

Three bytes are written as four characters of 6 bits each, the last group padded with `=`.
-/

namespace Rollout.Digest.Base64

/-- The 64 characters. -/
def alphabet : List Char :=
  "ABCDEFGHIJKLMNOPQRSTUVWXYZabcdefghijklmnopqrstuvwxyz0123456789+/".toList

/-- The character of six bits of `n`, counted from bit `shift`. -/
def character (n shift : Nat) : Char := alphabet.getD ((n >>> shift) % 64) '='

/-- The characters of a list of bytes. -/
def encodeList : List UInt8 → List Char
  | [] => []
  | [a] =>
    let n := a.toNat <<< 16
    [character n 18, character n 12, '=', '=']
  | [a, b] =>
    let n := (a.toNat <<< 16) + (b.toNat <<< 8)
    [character n 18, character n 12, character n 6, '=']
  | a :: b :: c :: rest =>
    let n := (a.toNat <<< 16) + (b.toNat <<< 8) + c.toNat
    [character n 18, character n 12, character n 6, character n 0] ++ encodeList rest

/-- The base64 text of a list of bytes. -/
def encode (bytes : List UInt8) : String := String.ofList (encodeList bytes)

end Rollout.Digest.Base64
