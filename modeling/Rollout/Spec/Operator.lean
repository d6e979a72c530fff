import Rollout.Attribute
import Rollout.IdList
import Rollout.Instant
import Rollout.Pattern
import Rollout.Spec.Condition
import Rollout.Text.Casing

/-!
# What operators test

`Operator.test` applies an operator to a value of the user, which may be missing, and the target of
the condition. An operator that cannot be applied does not hold, in its negated form either.
-/

namespace Rollout

/-! ### Targets as texts, numbers and times -/

/-- The number of a target. Texts are read as numbers. -/
def Json.toBinary64? : Json → Option Binary64
  | .number n => some n.toBinary64
  | .text s => Binary64.ofText? (Text.trim s)
  | _ => none

/-- The text of a target. -/
def Json.comparableText? : Json → Option String
  | .text s => some s
  | .bool b => some (if b then "true" else "false")
  | .number n => match n.toInt64? with
    | some i => some (toString i)
    | none => some n.toBinary64.comparableText
  | _ => none

/-- The texts of a target: those of the items of an array, or of a single value. -/
def Json.comparableTexts? : Json → Option (List String)
  | .array items => some (items.filterMap Json.comparableText?)
  | j => j.comparableText?.map fun s => [s]

/-- Whether two values are equal, where top-level numbers are compared as binary64 numbers. -/
def Json.looselyEqual (a b : Json) : Bool :=
  match a, b with
  | .number m, .number n => m.toBinary64.equal n.toBinary64
  | a, b => a.equal b

/-- A 64-bit integer in decimal, with an optional sign. -/
def int64OfText? (s : String) : Option Int :=
  let (negative, digits) := match s.toList with
    | '-' :: r => (true, r)
    | '+' :: r => (false, r)
    | r => (false, r)
  let n := Binary64.digitsValue digits
  if digits.isEmpty || !digits.all Char.isDigit then none
  else if negative then if n ≤ Nat.pow 2 63 then some (-n) else none
  else if n < Nat.pow 2 63 then some n else none

/-- The time that a text names: milliseconds since 1970, or a date and time. -/
def Instant.ofText? (s : String) : Option Instant :=
  match int64OfText? (Text.trim s) with
  | some ms => ofMilliseconds? ms
  | none => ofRfc3339? (Text.trim s)

/-- The time of a number of milliseconds, of which only the whole part counts. -/
def Instant.ofBinary64? (x : Binary64) : Option Instant :=
  ofMilliseconds? (x.truncate (-Nat.pow 2 63) (Nat.pow 2 63 - 1))

/-- The time of a value. -/
def Attribute.toInstant? : Attribute → Option Instant
  | .int n => Instant.ofMilliseconds? n
  | .double x => Instant.ofBinary64? x
  | .text s => Instant.ofText? s
  | _ => none

/-- The time of a target. -/
def Json.toInstant? : Json → Option Instant
  | .number n => match n.toInt64? with
    | some i => Instant.ofMilliseconds? i
    | none => Instant.ofBinary64? n.toBinary64
  | .text s => Instant.ofText? s
  | _ => none

/-! ### Versions -/

/-- A version: its numeric components, the most significant one first. -/
abbrev Version := List Nat

namespace Version

/-- A component: decimal digits of a number below 2⁶⁴. -/
def component? (cs : List Char) : Option Nat :=
  let n := Binary64.digitsValue cs
  if cs.isEmpty || !cs.all Char.isDigit || Nat.pow 2 64 ≤ n then none else some n

/-- Read a version: blanks around it and one leading `v` are dropped, and the text counts up to the
first hyphen or plus sign. -/
def ofText? (s : String) : Option Version :=
  let cs := Text.trimList Text.isBlank s.toList
  let cs := match cs with
    | 'v' :: r => r
    | r => r
  let cs := cs.takeWhile fun c => c != '-' && c != '+'
  if cs.isEmpty then none else (Text.splitList (· == '.') cs).mapM component?

/-- Compare component by component; missing components count as zero. -/
def order : Version → Version → Ordering
  | [], [] => .eq
  | a :: as, [] => (compare a 0).then (order as [])
  | [], b :: bs => (compare 0 b).then (order [] bs)
  | a :: as, b :: bs => (compare a b).then (order as bs)

end Version

/-! ### Tests -/

/-- Whether `part` occurs in `cs`. -/
def Text.containsPart (part : List Char) : List Char → Bool
  | [] => part.isEmpty
  | c :: rest => part.isPrefixOf (c :: rest) || containsPart part rest

namespace NumberTest

/-- Whether the test holds of a value and a target. -/
def holds (t : NumberTest) (value target : Binary64) : Bool :=
  match t with
  | .greater => target.less value
  | .atLeast => target.atMost value
  | .less => value.less target
  | .atMost => value.atMost target

end NumberTest

namespace VersionTest

/-- Whether the test holds of how a value compares with the target. -/
def holds : VersionTest → Ordering → Bool
  | .greater, o => o == .gt
  | .atLeast, o => o != .lt
  | .less, o => o == .lt
  | .atMost, o => o != .gt
  | .same, o => o == .eq
  | .different, o => o != .eq

end VersionTest

namespace TimeTest

/-- Whether the test holds of a value and a target. -/
def holds (t : TimeTest) (value target : Instant) : Bool :=
  match t with
  | .before => value.order target == .lt
  | .after => value.order target == .gt
  | .sameDay => value.day == target.day

end TimeTest

namespace Operator

/-- Whether one of the targets is found, for a test of texts. A missing value finds none. -/
def found? (value : Option Attribute) (target : Option Json) (normalize : String → String)
    (test : String → String → Bool) : Option Bool :=
  (target.bind Json.comparableTexts?).map fun targets =>
    match value.bind Attribute.comparableText? with
    | some v => targets.any fun t => test (normalize v) (normalize t)
    | none => false

/-- How the items of an array and the targets lie to each other, if the value is an array. -/
def items? (value : Option Attribute) (target : Option Json)
    (test : List String → List String → Bool) : Option Bool :=
  match value with
  | some (.array items) =>
    (target.bind Json.comparableTexts?).map (test (items.filterMap Attribute.comparableText?))
  | _ => none

/-- Whether the value is in the id list that the target names. -/
def isListed (value : Option Attribute) (target : Option Json) (idLists : Dict IdList) : Bool :=
  match (target.bind Json.text?).bind idLists.get?, value.bind Attribute.comparableText? with
  | some list, some v => list.containsHash (Digest.idHash v)
  | _, _ => false

/-- Whether the operator holds; `none` if it cannot be applied. -/
def test? (o : Operator) (value : Option Attribute) (target : Option Json)
    (idLists : Dict IdList) : Option Bool :=
  match o with
  | .number t => do
    return t.holds (← value.bind Attribute.toBinary64?) (← target.bind Json.toBinary64?)
  | .version t => do
    let v ← (value.bind Attribute.comparableText?).bind Version.ofText?
    let w ← (target.bind Json.comparableText?).bind Version.ofText?
    return t.holds (v.order w)
  | .oneOf caseSensitive negated =>
    (found? value target (if caseSensitive then id else Text.lowercase) (· == ·)).map (· != negated)
  | .startsWithOneOf =>
    found? value target Text.lowercase fun v t => t.toList.isPrefixOf v.toList
  | .endsWithOneOf =>
    found? value target Text.lowercase fun v t => t.toList.isSuffixOf v.toList
  | .containsOneOf negated =>
    (found? value target Text.lowercase fun v t => Text.containsPart t.toList v.toList).map
      (· != negated)
  | .matchesPattern => do
    let v ← value.bind Attribute.comparableText?
    let pattern ← (target.bind Json.text?).bind Pattern.ofText?
    return pattern.matchesIn v
  | .equals negated =>
    let v := ((value.map Attribute.toJson).getD .null)
    some (v.looselyEqual (target.getD .null) != negated)
  | .time t => do
    return t.holds (← value.bind Attribute.toInstant?) (← target.bind Json.toInstant?)
  | .inIdList negated => some (isListed value target idLists != negated)
  | .holdsOneOf negated =>
    (items? value target fun items targets => targets.any items.contains).map (· != negated)
  | .holdsAllOf negated =>
    (items? value target fun items targets => targets.all items.contains).map (· != negated)
  | .unknown => none

/-- Whether the operator can be applied and holds. -/
def test (o : Operator) (value : Option Attribute) (target : Option Json)
    (idLists : Dict IdList) : Bool :=
  (o.test? value target idLists).getD false

end Operator

end Rollout
