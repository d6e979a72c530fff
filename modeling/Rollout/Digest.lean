import Rollout.Digest.Sha256
import Rollout.Digest.Base64

/-!
# Hashes of names and ids

The hashes by which users are spread over buckets, ids are looked up in id lists, and names are
hidden from clients.
-/

namespace Rollout.Digest

/-- The number that decides buckets: the first eight bytes of the SHA-256 digest. -/
def bucketHash (s : String) : Nat :=
  ((Sha256.ofText s).take 8).foldl (fun n b => 256 * n + b.toNat) 0

/-- The base64 text of the SHA-256 digest. -/
def sha256Text (s : String) : String := Base64.encode (Sha256.ofText s)

/-- The form in which id lists hold an id: the first eight characters of `sha256Text`. -/
def idHash (id : String) : String := ((sha256Text id).take 8).toString

/-- The djb2 hash over characters, in 32 bits, as a decimal. -/
def djb2Text (s : String) : String :=
  toString (s.toList.foldl (fun (h : UInt32) c => (h <<< 5) - h + c.val) 0).toNat

/-- The hash that hides a name. -/
inductive NameHash where
  | sha256
  | djb2
  /-- Names stay as they are. -/
  | identity
  deriving Repr, DecidableEq, Inhabited

namespace NameHash

/-- The name of the algorithm. -/
def name : NameHash → String
  | .sha256 => "sha256"
  | .djb2 => "djb2"
  | .identity => "none"

/-- The algorithm of a given name. -/
def ofName? : String → Option NameHash
  | "sha256" => some .sha256
  | "djb2" => some .djb2
  | "none" => some .identity
  | _ => none

/-- The hash of a name. -/
def apply : NameHash → String → String
  | .sha256 => sha256Text
  | .djb2 => djb2Text
  | .identity => id

end NameHash

end Rollout.Digest
