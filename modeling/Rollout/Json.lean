import Rollout.Binary64.Shortest
import Rollout.Dict

/-!
# JSON values

A JSON value as it is passed through decisions: numbers are integers or binary64 numbers, which
stay apart, and the members of an object stand by increasing name, each name once.
-/

namespace Rollout

/-- A number: an integer, or a binary64 number where the text has a point, an exponent, or more than
64 bits. -/
inductive Number where
  | int (n : Int)
  | double (x : Binary64)
  deriving Repr, DecidableEq, Inhabited

namespace Number

/-- The number as a binary64 number. -/
def toBinary64 : Number → Binary64
  | .int n => Binary64.ofInt n
  | .double x => x

/-- The integer, if it fits 64 bits with a sign. -/
def toInt64? : Number → Option Int
  | .int n => if n < Nat.pow 2 63 then some n else none
  | .double _ => none

/-- Whether two numbers are equal and both integers or both binary64. -/
def equal : Number → Number → Bool
  | .int m, .int n => m == n
  | .double x, .double y => x.equal y
  | _, _ => false

/-- The text of a number. -/
def toText : Number → String
  | .int n => toString n
  | .double x => x.toText

end Number

/-- A JSON value. -/
inductive Json where
  | null
  | bool (b : Bool)
  | number (n : Number)
  | text (s : String)
  | array (items : List Json)
  | object (members : List (String × Json))
  deriving Repr, Inhabited

namespace Json

/-- The value of an integer. -/
def int (n : Int) : Json := .number (.int n)

/-- The object of a map. -/
def ofDict (d : Dict Json) : Json := .object d.entries

/-- The object of a list of members. -/
def obj (members : List (String × Json)) : Json := ofDict (Dict.ofList members)

/-- The value, or `null` if there is none. -/
def ofOption {α : Type} (f : α → Json) : Option α → Json
  | some a => f a
  | none => .null

/-- An array of texts. -/
def texts (l : List String) : Json := .array (l.map .text)

/-- The text, if the value is one. -/
def text? : Json → Option String
  | .text s => some s
  | _ => none

/-- The boolean, if the value is one. -/
def bool? : Json → Option Bool
  | .bool b => some b
  | _ => none

/-- The number, if the value is an integer that is not negative. -/
def nat? : Json → Option Nat
  | .number (.int n) => if 0 ≤ n then some n.toNat else none
  | _ => none

/-- The items, if the value is an array. -/
def items? : Json → Option (List Json)
  | .array items => some items
  | _ => none

/-- The members, if the value is an object. -/
def dict? : Json → Option (Dict Json)
  | .object members => some (Dict.ofList members)
  | _ => none

/-- The first member of a name, if the value is an object that has one. -/
def member? (j : Json) (name : String) : Option Json :=
  match j with
  | .object members => members.lookup name
  | _ => none

mutual

/-- Whether two values are equal: numbers as `Number.equal` has it, all else part by part. -/
def equal : Json → Json → Bool
  | .null, .null => true
  | .bool a, .bool b => a == b
  | .number m, .number n => m.equal n
  | .text s, .text t => s == t
  | .array xs, .array ys => equalItems xs ys
  | .object xs, .object ys => equalMembers xs ys
  | _, _ => false

def equalItems : List Json → List Json → Bool
  | [], [] => true
  | x :: xs, y :: ys => equal x y && equalItems xs ys
  | _, _ => false

def equalMembers : List (String × Json) → List (String × Json) → Bool
  | [], [] => true
  | (k, x) :: xs, (l, y) :: ys => k == l && equal x y && equalMembers xs ys
  | _, _ => false

end

/-! ### Text -/

/-- The lower-case hexadecimal digit of a number below 16. -/
def hexDigit (n : Nat) : Char := "0123456789abcdef".toList.getD n '0'

/-- How one character is written inside quotes: quotes, backslashes and control characters are
escaped, and nothing else is. -/
def quoteChar (c : Char) : List Char :=
  if c = '"' then ['\\', '"']
  else if c = '\\' then ['\\', '\\']
  else if c = '\n' then ['\\', 'n']
  else if c = '\r' then ['\\', 'r']
  else if c = '\t' then ['\\', 't']
  else if c = '\x08' then ['\\', 'b']
  else if c = '\x0c' then ['\\', 'f']
  else if c.toNat < 32 then ['\\', 'u', '0', '0', hexDigit (c.toNat / 16), hexDigit (c.toNat % 16)]
  else [c]

/-- A text in quotes. -/
def quote (s : String) : List Char := '"' :: s.toList.flatMap quoteChar ++ ['"']

mutual

/-- The characters of the compact text of a value. -/
def chars : Json → List Char
  | .null => "null".toList
  | .bool b => (if b then "true" else "false").toList
  | .number n => n.toText.toList
  | .text s => quote s
  | .array items => '[' :: itemsChars items ++ [']']
  | .object members => '\x7b' :: membersChars members ++ ['\x7d']

def itemsChars : List Json → List Char
  | [] => []
  | [x] => chars x
  | x :: y :: rest => chars x ++ ',' :: itemsChars (y :: rest)

def membersChars : List (String × Json) → List Char
  | [] => []
  | [(k, x)] => quote k ++ ':' :: chars x
  | (k, x) :: m :: rest => quote k ++ ':' :: chars x ++ ',' :: membersChars (m :: rest)

end

/-- The compact text of a value. -/
def render (j : Json) : String := String.ofList j.chars

end Json

end Rollout
