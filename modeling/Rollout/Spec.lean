import Rollout.Spec.Condition

/-!
# Specs of gates, configs, experiments and layers

All entities that carry rules have the same form, a `Spec`. Entries of a payload are read one by
one: an entry that is no spec is kept as it is (`Entry.failed`) and spoils no other.
-/

namespace Rollout

/-- The value of a rule or the default of an entity: gates have booleans, all else has objects. -/
inductive ReturnValue where
  | bool (b : Bool)
  | object (members : Dict Json)
  | other (value : Json)
  deriving Repr, Inhabited

namespace ReturnValue

/-- The value of a gate whose rule passes: only an explicit `false` does not hold. -/
def passing : ReturnValue → Bool
  | .bool b => b
  | _ => true

/-- The value of a gate that falls back to its default: only an explicit `true` holds. -/
def fallback : ReturnValue → Bool
  | .bool b => b
  | _ => false

/-- The members of an object, and none for any other value. -/
def members : ReturnValue → Dict Json
  | .object ms => ms
  | _ => ∅

/-- The value as JSON. -/
def toJson : ReturnValue → Json
  | .bool b => .bool b
  | .object ms => .ofDict ms
  | .other j => j

/-- The return value that a JSON value stands for. -/
def ofJson : Json → ReturnValue
  | .bool b => .bool b
  | .object ms => .object (.ofList ms)
  | j => .other j

/-- Read a return value. -/
def ofDocument? (d : Json.Document) : Option ReturnValue := d.toJson?.map ofJson

end ReturnValue

/-- A rule: users who meet its conditions are let in up to a percentage. -/
structure Rule where
  name : String := ""
  id : String
  /-- The salt of the bucket, the id of the rule if there is none. -/
  salt : Option String := none
  /-- The share of users that pass, in percent. -/
  passPercentage : Binary64
  returnValue : ReturnValue
  idType : String := defaultIdType
  /-- All of these must hold. -/
  conditions : List ConditionNode := []
  groupName : Option String := none
  /-- The experiment that the rule of a layer allocates users to. -/
  delegate : Option String := none
  isExperimentGroup : Option Bool := none
  deriving Repr, Inhabited

/-- An entity with rules. -/
structure Spec where
  specType : String := ""
  /-- What the entity is: `feature_gate`, `dynamic_config`, `experiment`, `layer`, `segment`,
  `holdout`, and so on. -/
  entity : String := ""
  salt : String
  defaultValue : ReturnValue
  enabled : Bool
  rules : List Rule := []
  idType : String := defaultIdType
  isActive : Option Bool := none
  hasSharedParams : Option Bool := none
  explicitParameters : Option (List String) := none
  version : Option Nat := none
  /-- Assignments are stored and used again. -/
  isSticky : Bool := false
  deriving Repr, Inhabited

/-- An entry of a payload: what it was read as, or its value if it could not be read. -/
inductive Entry (α : Type) where
  | parsed (value : α)
  | failed (raw : Json)
  deriving Repr

namespace Entry

variable {α : Type}

/-- What the entry was read as. -/
def get? : Entry α → Option α
  | .parsed a => some a
  | .failed _ => none

/-- The entry as JSON. -/
def toJson (f : α → Json) : Entry α → Json
  | .parsed a => f a
  | .failed raw => raw

/-- Read an entry; only what is no value at all is refused. -/
def ofDocument? (read : Json.Document → Option α) (d : Json.Document) : Option (Entry α) :=
  d.toJson?.map fun raw =>
    match read d with
    | some a => .parsed a
    | none => .failed raw

end Entry

open Json Document

namespace Rule

/-- The rule as JSON. -/
def toJson (r : Rule) : Json := .obj
  [("name", .text r.name), ("id", .text r.id), ("salt", .ofOption .text r.salt),
   ("passPercentage", .number (.double r.passPercentage)), ("returnValue", r.returnValue.toJson),
   ("idType", .text r.idType), ("conditions", .array (r.conditions.map ConditionNode.toJson)),
   ("groupName", .ofOption .text r.groupName), ("configDelegate", .ofOption .text r.delegate),
   ("isExperimentGroup", .ofOption .bool r.isExperimentGroup)]

/-- The members of a rule in their declared order. -/
def declared : List Member :=
  [⟨"name", []⟩, ⟨"id", []⟩, ⟨"salt", []⟩, ⟨"passPercentage", []⟩, ⟨"returnValue", []⟩,
   ⟨"idType", []⟩, ⟨"conditions", []⟩, ⟨"groupName", []⟩, ⟨"configDelegate", []⟩,
   ⟨"isExperimentGroup", []⟩]

/-- Read a rule. -/
def ofDocument? (d : Document) : Option Rule := do
  let r ← record? declared d
  return {
    name := ← r.withDefault? "name" "" text?
    id := ← r.required? "id" text?
    salt := ← r.optional? "salt" text?
    passPercentage := ← r.required? "passPercentage" double?
    returnValue := ← r.required? "returnValue" ReturnValue.ofDocument?
    idType := ← r.withDefault? "idType" defaultIdType text?
    conditions := ← r.withDefault? "conditions" [] (list? ConditionNode.ofDocument?)
    groupName := ← r.optional? "groupName" text?
    delegate := ← r.optional? "configDelegate" text?
    isExperimentGroup := ← r.optional? "isExperimentGroup" bool? }

end Rule

namespace Spec

/-- The spec as JSON. -/
def toJson (s : Spec) : Json := .obj
  [("type", .text s.specType), ("entity", .text s.entity), ("salt", .text s.salt),
   ("defaultValue", s.defaultValue.toJson), ("enabled", .bool s.enabled),
   ("rules", .array (s.rules.map Rule.toJson)), ("idType", .text s.idType),
   ("isActive", .ofOption .bool s.isActive), ("hasSharedParams", .ofOption .bool s.hasSharedParams),
   ("explicitParameters", .ofOption .texts s.explicitParameters),
   ("version", .ofOption (fun n => .int n) s.version), ("isSticky", .bool s.isSticky)]

/-- The members of a spec in their declared order. -/
def declared : List Member :=
  [⟨"type", []⟩, ⟨"entity", []⟩, ⟨"salt", []⟩, ⟨"defaultValue", []⟩, ⟨"enabled", []⟩,
   ⟨"rules", []⟩, ⟨"idType", []⟩, ⟨"isActive", []⟩, ⟨"hasSharedParams", []⟩,
   ⟨"explicitParameters", []⟩, ⟨"version", []⟩, ⟨"isSticky", []⟩]

/-- Read a spec. -/
def ofDocument? (d : Document) : Option Spec := do
  let r ← record? declared d
  return {
    specType := ← r.withDefault? "type" "" text?
    entity := ← r.withDefault? "entity" "" text?
    salt := ← r.required? "salt" text?
    defaultValue := ← r.required? "defaultValue" ReturnValue.ofDocument?
    enabled := ← r.required? "enabled" bool?
    rules := ← r.withDefault? "rules" [] (list? Rule.ofDocument?)
    idType := ← r.withDefault? "idType" defaultIdType text?
    isActive := ← r.optional? "isActive" bool?
    hasSharedParams := ← r.optional? "hasSharedParams" bool?
    explicitParameters := ← r.optional? "explicitParameters" (list? text?)
    version := ← r.optional? "version" nat32?
    isSticky := ← r.withDefault? "isSticky" false bool? }

end Spec

end Rollout
