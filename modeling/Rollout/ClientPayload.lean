import Rollout.Event

/-!
# Payloads for clients

A client that decides locally, without ever seeing the rules, is given the outcomes of all entities
for its user. Names are hashed, and segments and holdouts are kept back.
-/

namespace Rollout

open Digest (NameHash)

/-- What goes into a payload for a client. A filter keeps the named entities of its kind. -/
structure ClientPayloadOptions where
  hash : NameHash := .sha256
  gates : Option (List String) := none
  dynamicConfigs : Option (List String) := none
  experiments : Option (List String) := none
  layers : Option (List String) := none
  /-- Leave the id types of gates and configs out. -/
  removeIdType : Bool := false

/-- A gate for a client. -/
structure ClientGate where
  name : String
  value : Bool
  ruleId : String
  exposures : List SecondaryExposure
  idType : Option String

/-- What only experiments tell a client. -/
structure ClientExperimentPart where
  isInLayer : Bool
  explicitParameters : List String
  groupName : Option String
  isActive : Bool
  isUserIn : Bool

/-- A dynamic config or an experiment for a client. -/
structure ClientConfig where
  name : String
  members : Dict Json
  ruleId : String
  /-- Whether ids belong to devices. -/
  isDeviceBased : Bool
  exposures : List SecondaryExposure
  idType : Option String
  /-- Whether a rule of a dynamic config passed, or what experiments have instead. -/
  kind : Bool ⊕ ClientExperimentPart

/-- A layer for a client. -/
structure ClientLayer where
  name : String
  members : Dict Json
  ruleId : String
  isDeviceBased : Bool
  exposures : List SecondaryExposure
  undelegatedExposures : List SecondaryExposure
  explicitParameters : List String
  /-- The hashed name of the experiment that the user was allocated to. -/
  allocatedExperiment : Option String
  groupName : Option String
  isExperimentActive : Bool
  isUserInExperiment : Bool

/-- Everything that a client needs for one user, by hashed name. -/
structure ClientPayload where
  gates : Dict ClientGate := ∅
  configs : Dict ClientConfig := ∅
  layers : Dict ClientLayer := ∅
  /-- The time of the specs, zero if there are none. -/
  time : Nat := 0
  hasUpdates : Bool := false
  hash : NameHash
  user : User

namespace ClientPayloadOptions

/-- Whether the filters keep an entity, given what its spec says that it is. -/
def keeps (o : ClientPayloadOptions) (entity name : String) : Bool :=
  let filter := match entity with
    | "feature_gate" => o.gates
    | "dynamic_config" => o.dynamicConfigs
    | "experiment" => o.experiments
    | "layer" => o.layers
    | _ => none
  (filter.map (·.contains name)).getD true

/-- The specs that a client is told of. -/
def visible (o : ClientPayloadOptions) (specs : Dict (Entry Spec)) : List (String × Spec) :=
  specs.toList.filterMap fun (name, entry) => entry.get?.bind fun spec =>
    if spec.entity = "segment" ∨ spec.entity = "holdout" then none
    else if o.keeps spec.entity name then some (name, spec)
    else none

/-- Exposures for a client: later repetitions are dropped and gate names hashed. -/
def clientExposures (o : ClientPayloadOptions) (l : List SecondaryExposure) :
    List SecondaryExposure :=
  (l.foldl (fun kept e => if kept.contains e then kept else kept ++ [e]) []).map fun e =>
    { e with gate := o.hash.apply e.gate }

/-- Whether ids of a type belong to devices. -/
def isDeviceBased (idType : String) : Bool := Text.equalIgnoringAsciiCase idType "stableid"

/-- The id type of a spec, unless it is left out. -/
def idType? (o : ClientPayloadOptions) (spec : Spec) : Option String :=
  if o.removeIdType then none else some spec.idType

/-- The outcome of a gate for a client. -/
def gate (o : ClientPayloadOptions) (name : String) (spec : Spec) (r : Outcome) : ClientGate :=
  { name := o.hash.apply name, value := r.value, ruleId := r.ruleId,
    exposures := o.clientExposures r.exposures, idType := o.idType? spec }

/-- Which kind of entity a config is: an experiment unless its spec says that it is none. -/
def configKind (spec : Spec) : EntityKind :=
  if spec.entity = "dynamic_config" then .dynamicConfig else .experiment

/-- The outcome of a dynamic config or experiment for a client. -/
def config (o : ClientPayloadOptions) (name : String) (spec : Spec) (r : Outcome) : ClientConfig :=
  { name := o.hash.apply name, members := r.members, ruleId := r.ruleId,
    isDeviceBased := isDeviceBased spec.idType, exposures := o.clientExposures r.exposures,
    idType := o.idType? spec
    kind :=
      if configKind spec = .experiment then
        .inr { isInLayer := r.isInLayer, explicitParameters := r.explicitParameters,
               groupName := r.groupName, isActive := r.isExperimentActive,
               isUserIn := r.isExperimentGroup }
      else .inl r.value }

/-- The outcome of a layer for a client. -/
def layer (o : ClientPayloadOptions) (name : String) (spec : Spec) (r : Outcome) : ClientLayer :=
  { name := o.hash.apply name, members := r.members, ruleId := r.ruleId,
    isDeviceBased := isDeviceBased spec.idType, exposures := o.clientExposures r.exposures,
    undelegatedExposures := o.clientExposures (r.undelegatedExposures.getD []),
    explicitParameters := r.explicitParameters,
    allocatedExperiment := r.delegate.map o.hash.apply, groupName := r.groupName,
    isExperimentActive := r.isExperimentActive, isUserInExperiment := r.isExperimentGroup }

end ClientPayloadOptions

namespace ClientPayload

/-- The entries for a list of specs, each evaluated in turn. -/
def entries {m : Type → Type} [Monad m] {α : Type} (specs : List (String × Spec))
    (hash : NameHash) (entry : String → Spec → m α) : m (Dict α) := do
  return .ofList (← specs.mapM fun (name, spec) => do return (hash.apply name, ← entry name spec))

/-- The payload for a user. Outcomes come from `evaluate`, which may have effects on stored
assignments. -/
def make {m : Type → Type} [Monad m] (snapshot : Option Snapshot) (user : User)
    (o : ClientPayloadOptions) (evaluate : EntityKind → String → m Outcome) : m ClientPayload := do
  match snapshot with
  | none => return { hash := o.hash, user }
  | some s =>
    return {
      gates := ← entries (o.visible s.payload.featureGates) o.hash fun name spec => do
        return o.gate name spec (← evaluate .gate name)
      configs := ← entries (o.visible s.payload.dynamicConfigs) o.hash fun name spec => do
        return o.config name spec (← evaluate (ClientPayloadOptions.configKind spec) name)
      layers := ← entries (o.visible s.payload.layers) o.hash fun name spec => do
        return o.layer name spec (← evaluate .layer name)
      time := s.lcut
      hasUpdates := true
      hash := o.hash
      user }

end ClientPayload

/-! ### As JSON -/

/-- A member that is left out if there is none. -/
def optionalMember (name : String) {α : Type} (f : α → Json) (a : Option α) :
    List (String × Json) :=
  a.toList.map fun v => (name, f v)

namespace ClientGate

/-- The gate as JSON. -/
def toJson (g : ClientGate) : Json := .obj <|
  [("name", .text g.name), ("value", .bool g.value), ("rule_id", .text g.ruleId),
   ("secondary_exposures", StickyValues.exposuresJson g.exposures)] ++
  optionalMember "id_type" .text g.idType

end ClientGate

namespace ClientConfig

/-- The members that tell dynamic configs from experiments. -/
def kindMembers : Bool ⊕ ClientExperimentPart → List (String × Json)
  | .inl passed => [("passed", .bool passed)]
  | .inr e =>
    (if e.isInLayer then [("is_in_layer", .bool true)] else []) ++
    [("explicit_parameters", .texts e.explicitParameters),
     ("is_experiment_active", .bool e.isActive), ("is_user_in_experiment", .bool e.isUserIn)] ++
    optionalMember "group_name" .text e.groupName

/-- The config as JSON. -/
def toJson (c : ClientConfig) : Json := .obj <|
  [("name", .text c.name), ("value", .ofDict c.members), ("rule_id", .text c.ruleId),
   ("group", .text c.ruleId), ("is_device_based", .bool c.isDeviceBased),
   ("secondary_exposures", StickyValues.exposuresJson c.exposures)] ++
  optionalMember "id_type" .text c.idType ++ kindMembers c.kind

end ClientConfig

namespace ClientLayer

/-- The layer as JSON. -/
def toJson (l : ClientLayer) : Json := .obj <|
  [("name", .text l.name), ("value", .ofDict l.members), ("rule_id", .text l.ruleId),
   ("group", .text l.ruleId), ("is_device_based", .bool l.isDeviceBased),
   ("secondary_exposures", StickyValues.exposuresJson l.exposures),
   ("undelegated_secondary_exposures", StickyValues.exposuresJson l.undelegatedExposures),
   ("explicit_parameters", .texts l.explicitParameters),
   ("is_experiment_active", .bool l.isExperimentActive),
   ("is_user_in_experiment", .bool l.isUserInExperiment)] ++
  optionalMember "allocated_experiment_name" .text l.allocatedExperiment ++
  optionalMember "group_name" .text l.groupName

end ClientLayer

namespace ClientPayload

/-- The payload as JSON. -/
def toJson (p : ClientPayload) : Json := .obj
  [("feature_gates", .ofDict (p.gates.map ClientGate.toJson)),
   ("dynamic_configs", .ofDict (p.configs.map ClientConfig.toJson)),
   ("layer_configs", .ofDict (p.layers.map ClientLayer.toJson)),
   ("time", .int p.time), ("has_updates", .bool p.hasUpdates), ("hash_used", .text p.hash.name),
   ("user", p.user.toJson),
   ("evaluated_keys", .obj <| User.textMember "userID" p.user.userId ++
     User.mapMember "customIDs" p.user.customIds .text),
   ("sdkInfo", .obj [("sdkType", .text sdkType), ("sdkVersion", .text sdkVersion)])]

end ClientPayload

end Rollout
