import Rollout.Binary64.Reading
import Rollout.Json.Reading
import Rollout.Text.Blank

/-!
# User attributes

The values a user attribute can hold, with the two forms in which conditions look at them: a text
(`Attribute.comparableText?`) and a number (`Attribute.toBinary64?`).
-/

namespace Rollout

/-- The value of a user attribute. -/
inductive Attribute where
  | bool (b : Bool)
  | int (n : Int)
  | double (x : Binary64)
  | text (s : String)
  | array (items : List Attribute)
  deriving Repr, Inhabited

/-- The text of a number in comparisons: a whole number below 10¹⁵ has no point, so that it equals
the text of the integer. -/
def Binary64.comparableText (x : Binary64) : String :=
  if x.isWhole then
    let limit := Nat.pow 10 15
    let n := x.truncate (-limit) limit
    if n.natAbs < limit then toString n else x.toPlainText
  else x.toPlainText

namespace Attribute

/-- The text, if the value is one. -/
def text? : Attribute → Option String
  | .text s => some s
  | _ => none

/-- The text used by text comparisons. Arrays have none. -/
def comparableText? : Attribute → Option String
  | .bool b => some (if b then "true" else "false")
  | .int n => some (toString n)
  | .double x => some x.comparableText
  | .text s => some s
  | .array _ => none

/-- The number used by numeric comparisons. Texts are read as numbers. -/
def toBinary64? : Attribute → Option Binary64
  | .int n => some (Binary64.ofInt n)
  | .double x => some x
  | .text s => Binary64.ofText? (Text.trim s)
  | .bool _ | .array _ => none

mutual

/-- The value as JSON. -/
def toJson : Attribute → Json
  | .bool b => .bool b
  | .int n => .int n
  | .double x => match x with
    | .finite _ _ => .number (.double x)
    | _ => .null
  | .text s => .text s
  | .array items => .array (itemsToJson items)

def itemsToJson : List Attribute → List Json
  | [] => []
  | a :: rest => toJson a :: itemsToJson rest

end

mutual

/-- Read a value; `null` and objects are none. -/
def ofDocument? : Json.Document → Option Attribute
  | .bool b => some (.bool b)
  | .number n => match n.toInt64? with
    | some n => some (.int n)
    | none => some (.double n.toBinary64)
  | .text s => some (.text s)
  | .array items => (itemsOfDocuments? items).map .array
  | .unreadable | .null | .object _ => none

def itemsOfDocuments? : List Json.Document → Option (List Attribute)
  | [] => some []
  | d :: rest => (ofDocument? d).bind fun a => (itemsOfDocuments? rest).map (a :: ·)

end

end Attribute

end Rollout
