import Rollout.Json.Reading

/-!
# Conditions of rules

A rule holds a tree of conditions (`ConditionNode`). A leaf tests one value of the user, chosen by
`ConditionKind`, with an `Operator`. Kinds and operators of other versions read as `unknown`.
-/

namespace Rollout

/-- The value that a condition tests. -/
inductive ConditionKind where
  /-- Holds for everyone. -/
  | everyone
  | passGate
  | failGate
  | userField
  | ipBased
  | userAgentBased
  | environmentField
  | currentTime
  | userBucket
  | unitId
  | unknown
  deriving Repr, DecidableEq, Inhabited

namespace ConditionKind

/-- The kinds by name. -/
def named : List (String × ConditionKind) :=
  [("public", .everyone), ("pass_gate", .passGate), ("fail_gate", .failGate),
   ("user_field", .userField), ("ip_based", .ipBased), ("ua_based", .userAgentBased),
   ("environment_field", .environmentField), ("current_time", .currentTime),
   ("user_bucket", .userBucket), ("unit_id", .unitId)]

/-- The kind of a name. -/
def ofName (s : String) : ConditionKind := (named.lookup s).getD .unknown

/-- The name of a kind. -/
def name (k : ConditionKind) : String := ((named.find? (·.2 == k)).map (·.1)).getD "unknown"

end ConditionKind

/-- How two numbers are compared. -/
inductive NumberTest where
  | greater
  | atLeast
  | less
  | atMost
  deriving Repr, DecidableEq

/-- How two versions are compared. -/
inductive VersionTest where
  | greater
  | atLeast
  | less
  | atMost
  | same
  | different
  deriving Repr, DecidableEq

/-- How two times are compared. -/
inductive TimeTest where
  | before
  | after
  /-- On the same day. -/
  | sameDay
  deriving Repr, DecidableEq

/-- The test of a condition. Where a test has a negated form, `negated` tells them apart. -/
inductive Operator where
  | number (test : NumberTest)
  | version (test : VersionTest)
  /-- The value is one of the targets. -/
  | oneOf (caseSensitive negated : Bool)
  | startsWithOneOf
  | endsWithOneOf
  | containsOneOf (negated : Bool)
  /-- The value matches a pattern. -/
  | matchesPattern
  | equals (negated : Bool)
  | time (test : TimeTest)
  /-- The hash of the value is in an id list. -/
  | inIdList (negated : Bool)
  /-- An array holds one of the targets. -/
  | holdsOneOf (negated : Bool)
  /-- An array holds all of the targets. -/
  | holdsAllOf (negated : Bool)
  | unknown
  deriving Repr, DecidableEq, Inhabited

namespace Operator

/-- The operators by name. -/
def named : List (String × Operator) :=
  [("gt", .number .greater), ("gte", .number .atLeast), ("lt", .number .less),
   ("lte", .number .atMost), ("version_gt", .version .greater), ("version_gte", .version .atLeast),
   ("version_lt", .version .less), ("version_lte", .version .atMost),
   ("version_eq", .version .same), ("version_neq", .version .different),
   ("any", .oneOf false false), ("none", .oneOf false true),
   ("any_case_sensitive", .oneOf true false), ("none_case_sensitive", .oneOf true true),
   ("str_starts_with_any", .startsWithOneOf), ("str_ends_with_any", .endsWithOneOf),
   ("str_contains_any", .containsOneOf false), ("str_contains_none", .containsOneOf true),
   ("str_matches", .matchesPattern), ("eq", .equals false), ("neq", .equals true),
   ("before", .time .before), ("after", .time .after), ("on", .time .sameDay),
   ("in_segment_list", .inIdList false), ("not_in_segment_list", .inIdList true),
   ("array_contains_any", .holdsOneOf false), ("array_contains_none", .holdsOneOf true),
   ("array_contains_all", .holdsAllOf false), ("not_array_contains_all", .holdsAllOf true)]

/-- The operator of a name. -/
def ofName (s : String) : Operator := (named.lookup s).getD .unknown

/-- The name of an operator. -/
def name (o : Operator) : String := ((named.find? (·.2 == o)).map (·.1)).getD "unknown"

end Operator

/-- The id type of entities, rules and conditions that name none. -/
def defaultIdType : String := "userID"

/-- A test of one value. -/
structure Condition where
  kind : ConditionKind
  operator : Option Operator := none
  /-- The name of the field to test. -/
  field : Option String := none
  target : Option Json := none
  /-- Further settings, such as the salt of a bucket. -/
  additional : Option (Dict Json) := none
  idType : String := defaultIdType
  deriving Repr, Inhabited

/-- A node in the tree of conditions of a rule. -/
inductive ConditionNode where
  /-- Passes when every child does. -/
  | all (children : List ConditionNode)
  /-- Passes when one child does. -/
  | any (children : List ConditionNode)
  /-- The shared condition of a given key. -/
  | ref (key : String)
  | leaf (condition : Condition)
  deriving Repr, Inhabited

open Json Document

namespace Condition

/-- The condition as JSON. -/
def toJson (c : Condition) : Json := .obj
  [("type", .text c.kind.name), ("operator", .ofOption (.text ·.name) c.operator),
   ("field", .ofOption .text c.field), ("targetValue", .ofOption id c.target),
   ("additionalValues", .ofOption .ofDict c.additional), ("idType", .text c.idType)]

/-- The members of a condition in their declared order. -/
def declared : List Member :=
  [⟨"type", []⟩, ⟨"operator", []⟩, ⟨"field", []⟩, ⟨"targetValue", []⟩, ⟨"additionalValues", []⟩,
   ⟨"idType", []⟩]

/-- Read a condition. -/
def ofDocument? (d : Document) : Option Condition := do
  let r ← record? declared d
  return {
    kind := ← r.required? "type" fun d => d.variant?.map ConditionKind.ofName
    operator := ← r.optional? "operator" fun d => d.variant?.map Operator.ofName
    field := ← r.optional? "field" text?
    target := ← r.optional? "targetValue" toJson?
    additional := ← r.optional? "additionalValues" (dict? toJson?)
    idType := ← r.withDefault? "idType" defaultIdType text? }

end Condition

namespace ConditionNode

mutual

/-- The node as JSON. -/
def toJson : ConditionNode → Json
  | .all children => .object [("all", .array (listToJson children))]
  | .any children => .object [("any", .array (listToJson children))]
  | .ref key => .text key
  | .leaf c => c.toJson

def listToJson : List ConditionNode → List Json
  | [] => []
  | n :: rest => toJson n :: listToJson rest

end

/-- The only reading in a list of one. -/
def single {α : Type} : List (Option α) → Option α
  | [a] => a
  | _ => none

mutual

/-- Read a node: an object with exactly one readable member `all`, else with one `any`, else the
key of a shared condition, else a condition. -/
def ofDocument? : Document → Option ConditionNode
  | .object members =>
    match single (children "all" members) with
    | some nodes => some (.all nodes)
    | none =>
      match single (children "any" members) with
      | some nodes => some (.any nodes)
      | none => (Condition.ofDocument? (.object members)).map .leaf
  | .text key => some (.ref key)
  | d => (Condition.ofDocument? d).map .leaf

/-- The readings of the members of a given name as lists of nodes. -/
def children (name : String) : List (String × Document) → List (Option (List ConditionNode))
  | [] => []
  | (k, d) :: rest =>
    if k = name then arrayOfDocument? d :: children name rest else children name rest

def arrayOfDocument? : Document → Option (List ConditionNode)
  | .array items => listOfDocuments? items
  | _ => none

def listOfDocuments? : List Document → Option (List ConditionNode)
  | [] => some []
  | d :: rest => (ofDocument? d).bind fun n => (listOfDocuments? rest).map (n :: ·)

end

end ConditionNode

end Rollout
