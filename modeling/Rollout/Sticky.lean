import Rollout.Entity
import Rollout.Json.Reading

/-!
# Sticky assignments

An assignment is stored so that a later decision can use it again although the rules have changed.
`StickyStorage` is a storage in memory that can be made to fail.
-/

namespace Rollout

/-- A stored assignment. -/
structure StickyValues where
  value : Bool
  members : Option (Dict Json) := none
  ruleId : String
  groupName : Option String := none
  exposures : List SecondaryExposure := []
  undelegatedExposures : Option (List SecondaryExposure) := none
  /-- The experiment that a layer had allocated the user to. -/
  delegate : Option String := none
  explicitParameters : Option (List String) := none
  /-- When the assignment was stored, in milliseconds. -/
  time : Nat
  configVersion : Option Nat := none
  deriving Repr

/-- The stored assignments of one storage key, by entity name. -/
abbrev StickyAssignments := Dict StickyValues

open Json Document

namespace SecondaryExposure

/-- The exposure as JSON. -/
def toJson (e : SecondaryExposure) : Json := .obj
  [("gate", .text e.gate), ("gateValue", .text e.gateValue), ("ruleID", .text e.ruleId)]

/-- Read an exposure. -/
def ofDocument? (d : Document) : Option SecondaryExposure := do
  let r ← record? [⟨"gate", []⟩, ⟨"gateValue", []⟩, ⟨"ruleID", []⟩] d
  return {
    gate := ← r.required? "gate" text?
    gateValue := ← r.required? "gateValue" text?
    ruleId := ← r.required? "ruleID" text? }

end SecondaryExposure

namespace StickyValues

/-- An array of exposures. -/
def exposuresJson (l : List SecondaryExposure) : Json := .array (l.map SecondaryExposure.toJson)

/-- The assignment as JSON. -/
def toJson (v : StickyValues) : Json := .obj
  [("value", .bool v.value), ("jsonValue", .ofOption .ofDict v.members), ("ruleID", .text v.ruleId),
   ("groupName", .ofOption .text v.groupName), ("secondaryExposures", exposuresJson v.exposures),
   ("undelegatedSecondaryExposures", .ofOption exposuresJson v.undelegatedExposures),
   ("configDelegate", .ofOption .text v.delegate),
   ("explicitParameters", .ofOption .texts v.explicitParameters), ("time", .int v.time),
   ("configVersion", .ofOption (fun n => .int n) v.configVersion)]

/-- The members of an assignment in their declared order. -/
def declared : List Member :=
  [⟨"value", []⟩, ⟨"jsonValue", []⟩, ⟨"ruleID", []⟩, ⟨"groupName", []⟩, ⟨"secondaryExposures", []⟩,
   ⟨"undelegatedSecondaryExposures", []⟩, ⟨"configDelegate", []⟩, ⟨"explicitParameters", []⟩,
   ⟨"time", []⟩, ⟨"configVersion", []⟩]

/-- Read an assignment. -/
def ofDocument? (d : Document) : Option StickyValues := do
  let r ← record? declared d
  let exposures? := list? SecondaryExposure.ofDocument?
  return {
    value := ← r.required? "value" bool?
    members := ← r.optional? "jsonValue" (dict? toJson?)
    ruleId := ← r.required? "ruleID" text?
    groupName := ← r.optional? "groupName" text?
    exposures := ← r.withDefault? "secondaryExposures" [] exposures?
    undelegatedExposures := ← r.optional? "undelegatedSecondaryExposures" exposures?
    delegate := ← r.optional? "configDelegate" text?
    explicitParameters := ← r.optional? "explicitParameters" (list? text?)
    time := ← r.required? "time" nat64?
    configVersion := ← r.optional? "configVersion" nat32? }

end StickyValues

/-- A storage of assignments in memory; each operation can be made to fail. -/
structure StickyStorage where
  users : Dict StickyAssignments := ∅
  loadFails : Bool := false
  saveFails : Bool := false
  deleteFails : Bool := false
  deriving Repr

namespace StickyStorage

/-- The assignments under a key. -/
def load (s : StickyStorage) (key : String) : Except Unit (Option StickyAssignments) :=
  if s.loadFails then .error () else .ok (s.users.get? key)

/-- Store an assignment; `false` if that failed. -/
def save (s : StickyStorage) (key entity : String) (values : StickyValues) : Bool × StickyStorage :=
  if s.saveFails then (false, s)
  else (true, { s with
    users := s.users.insert key (((s.users.get? key).getD ∅).insert entity values) })

/-- Forget an assignment, and the key with its last one; `false` if that failed. -/
def delete (s : StickyStorage) (key entity : String) : Bool × StickyStorage :=
  if s.deleteFails then (false, s)
  else match s.users.get? key with
    | none => (true, s)
    | some assignments =>
      let rest := assignments.erase entity
      (true, { s with
        users := if rest.isEmpty then s.users.erase key else s.users.insert key rest })

end StickyStorage

end Rollout
