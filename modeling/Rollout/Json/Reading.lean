import Rollout.Json.Document

/-!
# Reading typed values from documents

Readers of the common types, and of records: a record is an object with named members, of which
unknown ones are ignored and none may repeat, or an array of its members in their declared order.
-/

namespace Rollout.Json.Document

/-! ### Single values -/

def bool? : Document → Option Bool
  | .bool b => some b
  | _ => none

def text? : Document → Option String
  | .text s => some s
  | _ => none

/-- An integer from `lo` up to but not including `hi`; `1.0` is none. -/
def int? (lo hi : Int) : Document → Option Int
  | .number (.int n) => if lo ≤ n ∧ n < hi then some n else none
  | _ => none

/-- A natural number below `bound`. -/
def nat? (bound : Nat) (d : Document) : Option Nat := (d.int? 0 bound).map Int.toNat

/-- A natural number of 16 bits. -/
def nat16? : Document → Option Nat := nat? (Nat.pow 2 16)

/-- A natural number of 32 bits. -/
def nat32? : Document → Option Nat := nat? (Nat.pow 2 32)

/-- A natural number of 64 bits. -/
def nat64? : Document → Option Nat := nat? (Nat.pow 2 64)

/-- An integer of 64 bits with a sign. -/
def int64? : Document → Option Int := int? (-Nat.pow 2 63) (Nat.pow 2 63)

/-- Any number, as a binary64 number. -/
def double? : Document → Option Binary64
  | .number n => some n.toBinary64
  | _ => none

/-- `null`, or what `read` accepts. -/
def nullable? {α : Type} (read : Document → Option α) : Document → Option (Option α)
  | .null => some none
  | d => (read d).map some

/-- An array of what `read` accepts. -/
def list? {α : Type} (read : Document → Option α) : Document → Option (List α)
  | .array items => items.mapM read
  | _ => none

/-- An object whose members are all what `read` accepts; of repeated members the last counts. -/
def dict? {α : Type} (read : Document → Option α) : Document → Option (Dict α)
  | .object members =>
    (members.mapM fun e => (read e.2).map (Prod.mk e.1)).map Dict.ofList
  | _ => none

/-- The name of a variant without members: a text, or an object that maps it to `null`. -/
def variant? : Document → Option String
  | .text s => some s
  | .object [(k, .null)] => some k
  | _ => none

/-! ### Records -/

/-- A declared member of a record, with further names under which it may be written. -/
structure Member where
  name : String
  aliases : List String := []

namespace Member

/-- Whether the member may be written under the name `k`. -/
def isNamed (m : Member) (k : String) : Bool := m.name == k || m.aliases.contains k

end Member

/-- The members of a record that are present, by their primary names. -/
abbrev Record := List (String × Document)

/-- The record that a document holds. -/
def record? (declared : List Member) : Document → Option Record
  | .object members =>
    declared.foldr (fun m rest =>
      match members.filter (fun e => m.isNamed e.1) with
      | [] => rest
      | [e] => rest.map ((m.name, e.2) :: ·)
      | _ => none) (some [])
  | .array items =>
    if declared.length < items.length then none
    else some ((declared.map (·.name)).zip items)
  | _ => none

namespace Record

/-- A member that must be present. -/
def required? {α : Type} (r : Record) (name : String) (read : Document → Option α) : Option α :=
  (r.lookup name).bind read

/-- A member that may be left out. -/
def withDefault? {α : Type} (r : Record) (name : String) (default : α)
    (read : Document → Option α) : Option α :=
  match r.lookup name with
  | some d => read d
  | none => some default

/-- A member that may be left out or `null`. -/
def optional? {α : Type} (r : Record) (name : String) (read : Document → Option α) :
    Option (Option α) :=
  r.withDefault? name none (nullable? read)

end Record

end Rollout.Json.Document
