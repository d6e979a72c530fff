import Rollout.Text.Blank
import Rollout.Text.Composition
import Rollout.Text.Direction
import Rollout.Text.Joining
import Rollout.Url.Mapping
import Rollout.Url.Punycode

/-!
# Domain names

Domain names can be written in all scripts; servers are asked for the form in ASCII, in which the
labels that are not ASCII are encoded (`domainToAscii?`). Names that can be mistaken for others are
refused: in a name no label starts with a mark, joiners stand only where they make a difference, and
no label reads differently because of the direction of another one.
-/

namespace Rollout.Url

open Text

/-- Characters that no host holds. -/
def isForbiddenInHost (c : Char) : Bool :=
  c.toNat == 0 || "\t\n\x0d #/:<>?@[\\]^|".toList.contains c

/-- Characters that no domain name holds. -/
def isForbiddenInDomain (c : Char) : Bool :=
  isForbiddenInHost c || c < ' ' || c == '%' || c.toNat == 127

/-- Whether all characters are ASCII. -/
def isAscii (cs : List Char) : Bool := cs.all (·.toNat < 128)

/-- What labels that are encoded start with. -/
def encodedMark : List Char := "xn--".toList

/-- Longer labels are not encoded. -/
def maxEncodable : Nat := 1000

/-- Longer labels are not decoded. -/
def maxDecodable : Nat := 2000

/-! ### Joiners -/

/-- Whether a joiner makes a difference after the characters `before`, nearest character first, and
before `after`: after a virama it does, and a non-joiner also does between letters that join. -/
def isJoinerUsed (before : List Char) (c : Char) (after : List Char) : Bool :=
  before.head?.any (combiningClass · == viramaClass) ||
    (c == '\u200c' && (before.dropWhile isTransparent).head?.any joinsForward &&
      (after.dropWhile isTransparent).head?.any joinsBackward)

/-- Whether all joiners make a difference, given what precedes in reverse. -/
def areJoinersUsed (before : List Char) : List Char → Bool
  | [] => true
  | c :: rest =>
    (!(c == '\u200c' || c == '\u200d') || isJoinerUsed before c rest) &&
      areJoinersUsed (c :: before) rest

/-! ### Labels -/

/-- Whether a label can stand in a domain name. -/
def isLabel (cs : List Char) : Bool :=
  !cs.any isForbiddenInDomain &&
    (isAscii cs || (!cs.head?.any (fun c => (Category.of c).group == 'M') && areJoinersUsed [] cs))

/-- What a label means: itself, or what it encodes. -/
def label? (cs : List Char) : Option (List Char) :=
  if encodedMark.isPrefixOf cs then do
    let digits := cs.drop encodedMark.length
    guard (isAscii digits && digits.length ≤ maxDecodable)
    guard (digits.getLast?.any (· != '-'))
    let label ← Punycode.decode? digits
    guard (label.all (Mapping.of · == .kept) && composed label == label && isLabel label)
    return label
  else if isLabel cs then some cs
  else none

/-- A label in ASCII. -/
def labelToAscii? (cs : List Char) : Option (List Char) :=
  if isAscii cs then some cs
  else if maxEncodable < cs.length then none
  else some (encodedMark ++ Punycode.encode cs)

/-- Whether none of some labels reads differently because of another one. -/
def areUnambiguous (labels : List (List Char)) : Bool :=
  let directions := labels.map (·.map Direction.of)
  !directions.any hasRightToLeft || directions.all isUnambiguous

/-- A domain name in ASCII. -/
def domainToAscii? (cs : List Char) : Option (List Char) := do
  let labels := splitList (· == '.') (composed (← Mapping.mapped? cs))
  guard (areUnambiguous (← labels.mapM label?))
  return (['.'] : List Char).intercalate (← labels.mapM labelToAscii?)

end Rollout.Url
