import Rollout.Decision
import Rollout.Settings

/-!
# Events

What is reported: events of the host, and exposures, which say that a user was shown a value. An
exposure carries a key; of exposures with one key only the first is reported.
-/

namespace Rollout

open Json Document

/-- A reported event. -/
structure Event where
  name : String
  user : User
  value : Option Json := none
  metadata : Option (Dict String) := none
  /-- When it happened, in milliseconds. -/
  time : Nat
  exposures : Option (List SecondaryExposure) := none
  deriving Repr

/-- What reports say of the reporting side. -/
structure Reporter where
  sdkType : String
  sdkVersion : String
  os : String
  arch : String
  sessionId : String
  deriving Repr, DecidableEq

/-- Events that are reported together. -/
structure EventBatch where
  events : List Event
  reporter : Reporter
  deriving Repr

/-- An event that reports what a user was shown. -/
structure Exposure where
  /-- What makes exposures repetitions of each other. -/
  key : String
  event : Event
  deriving Repr

/-- The name of this kind of engine, as servers know it. -/
def sdkType : String := "switchyard-rust"

/-- The version of this engine. -/
def sdkVersion : String := "0.1.0"

namespace Event

/-- The event as JSON. Private attributes of the user are left out. -/
def toJson (e : Event) : Json := .obj <|
  [("eventName", .text e.name), ("user", e.user.toJson), ("time", .int e.time)] ++
  e.value.toList.map (fun v => ("value", v)) ++
  e.metadata.toList.map (fun m => ("metadata", .ofDict (m.map .text))) ++
  e.exposures.toList.map (fun l => ("secondaryExposures", StickyValues.exposuresJson l))

/-- The members of an event in their declared order. -/
def declared : List Member :=
  [⟨"eventName", []⟩, ⟨"user", []⟩, ⟨"value", []⟩, ⟨"metadata", []⟩, ⟨"time", []⟩,
   ⟨"secondaryExposures", []⟩]

/-- Read an event. -/
def ofDocument? (d : Document) : Option Event := do
  let r ← record? declared d
  return {
    name := ← r.required? "eventName" text?
    user := ← r.required? "user" User.ofDocument?
    value := ← r.optional? "value" toJson?
    metadata := ← r.optional? "metadata" (dict? text?)
    time := ← r.required? "time" nat64?
    exposures := ← r.optional? "secondaryExposures" (list? SecondaryExposure.ofDocument?) }

end Event

namespace Reporter

/-- This engine as a reporter. It says nothing of its machine and its session. -/
def this : Reporter :=
  { sdkType := Rollout.sdkType, sdkVersion := Rollout.sdkVersion, os := "", arch := "",
    sessionId := "" }

/-- The headers by which servers know who is asking. What cannot be sent in a header is left out. -/
def headers (r : Reporter) (sdkKey : String) : List (String × String) :=
  [("statsig-api-key", sdkKey), ("statsig-sdk-type", r.sdkType),
   ("statsig-sdk-version", r.sdkVersion), ("statsig-server-session-id", r.sessionId)].filter
    fun h => Settings.isHeaderText h.2

/-- The reporter as JSON. -/
def toJson (r : Reporter) : Json := .obj
  [("sdkType", .text r.sdkType), ("sdkVersion", .text r.sdkVersion), ("os", .text r.os),
   ("arch", .text r.arch), ("sessionID", .text r.sessionId)]

/-- The members of a reporter in their declared order. -/
def declared : List Member :=
  [⟨"sdkType", []⟩, ⟨"sdkVersion", []⟩, ⟨"os", []⟩, ⟨"arch", []⟩, ⟨"sessionID", []⟩]

/-- Read a reporter. -/
def ofDocument? (d : Document) : Option Reporter := do
  let r ← record? declared d
  return {
    sdkType := ← r.required? "sdkType" text?
    sdkVersion := ← r.required? "sdkVersion" text?
    os := ← r.required? "os" text?
    arch := ← r.required? "arch" text?
    sessionId := ← r.required? "sessionID" text? }

end Reporter

namespace EventBatch

/-- The batch as JSON. -/
def toJson (b : EventBatch) : Json := .obj
  [("events", .array (b.events.map Event.toJson)), ("statsigMetadata", b.reporter.toJson)]

/-- Read a batch. -/
def ofDocument? (d : Document) : Option EventBatch := do
  let r ← record? [⟨"events", []⟩, ⟨"statsigMetadata", []⟩] d
  return {
    events := ← r.required? "events" (list? Event.ofDocument?)
    reporter := ← r.required? "statsigMetadata" Reporter.ofDocument? }

/-- Read a batch from JSON text. -/
def ofText? (s : String) : Option EventBatch := (Document.ofText? s).bind ofDocument?

end EventBatch

namespace Exposure

/-- The text of a boolean. -/
def boolText (b : Bool) : String := if b then "true" else "false"

/-- The key of an exposure: the entity, the rule, the ids of the user, and further parts that tell
outcomes apart. -/
def keyOf (user : User) (name ruleId : String) (parts : List String) : String :=
  "|".intercalate <|
    [name, ruleId, user.userId.getD ""] ++
    (user.customIds.toList.map fun e => e.1 ++ ":" ++ e.2) ++ parts

/-- What exposures of all kinds say of an outcome. -/
def detailsMetadata (o : Outcome) : List (String × String) :=
  [("reason", o.details.reason.label), ("ruleID", o.ruleId)] ++
  o.details.lcut.toList.map (fun n => ("lcut", toString n)) ++
  o.details.receivedAt.toList.map (fun n => ("receivedAt", toString n)) ++
  o.version.toList.map (fun n => ("configVersion", toString n))

/-- An exposure of an outcome. -/
def make (eventName : String) (user : User) (name : String) (o : Outcome) (now : Nat)
    (keyParts : List String) (metadata : List (String × String))
    (exposures : List SecondaryExposure) : Exposure :=
  { key := keyOf user name o.ruleId keyParts
    event :=
      { name := eventName, user, metadata := some (.ofList (detailsMetadata o ++ metadata)),
        time := now, exposures := some exposures } }

/-- The exposure of a gate. -/
def ofGate (user : User) (gate : String) (o : Outcome) (now : Nat) : Exposure :=
  make "statsig::gate_exposure" user gate o now [boolText o.value]
    [("gate", gate), ("gateValue", boolText o.value)] o.exposures

/-- The exposure of a dynamic config or an experiment. -/
def ofConfig (user : User) (config : String) (o : Outcome) (now : Nat) : Exposure :=
  make "statsig::config_exposure" user config o now []
    [("config", config), ("rulePassed", boolText o.value)] o.exposures

/-- The exposure of a parameter of a layer. Only an explicit parameter is put down to the experiment
that the user was allocated to. -/
def ofLayer (user : User) (layer parameter : String) (o : Outcome) (now : Nat) : Exposure :=
  let isExplicit := o.explicitParameters.contains parameter
  let experiment := if isExplicit then o.delegate.getD "" else ""
  let exposures := if isExplicit then o.exposures else o.undelegatedExposures.getD o.exposures
  make "statsig::layer_exposure" user layer o now [experiment, parameter, boolText isExplicit]
    [("config", layer), ("allocatedExperiment", experiment), ("parameterName", parameter),
     ("isExplicitParameter", boolText isExplicit)] exposures

end Exposure

namespace LayerDecision

/-- Read a parameter: its value, and the exposure that reading it makes. -/
def read (d : LayerDecision) (parameter : String) (now : Nat) : Option Json × Option Exposure :=
  match d.members.get? parameter with
  | none => (none, none)
  | some value =>
    (some value, d.exposes.map fun (u, o) => Exposure.ofLayer u d.name parameter o now)

end LayerDecision

end Rollout
