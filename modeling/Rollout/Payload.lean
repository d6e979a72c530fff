import Rollout.Spec.Parameter

/-!
# Payloads

A payload holds everything that decisions are made from, as it is delivered.
-/

namespace Rollout

/-- What a payload says of an id list: that it exists, or the hashes of its ids. -/
inductive IdListRef where
  | declared (present : Bool)
  | inline (hashes : List String)
  deriving Repr

/-- The content of a payload. -/
structure Payload where
  featureGates : Dict (Entry Spec) := ∅
  /-- Dynamic configs and experiments. -/
  dynamicConfigs : Dict (Entry Spec) := ∅
  layers : Dict (Entry Spec) := ∅
  parameterStores : Dict ParameterStoreSpec := ∅
  /-- Conditions that rules refer to by key. -/
  conditions : Dict Condition := ∅
  experimentToLayer : Dict String := ∅
  idLists : Dict IdListRef := ∅
  /-- When the specs were last changed; this orders payloads. -/
  time : Option Nat := none
  hasUpdates : Bool := true
  deriving Repr

open Json Document

namespace IdListRef

/-- The entry as JSON. -/
def toJson : IdListRef → Json
  | .declared b => .bool b
  | .inline hashes => .texts hashes

/-- Read an entry. -/
def ofDocument? : Document → Option IdListRef
  | .bool b => some (.declared b)
  | d => (d.list? text?).map .inline

end IdListRef

namespace Payload

/-- The payload as JSON, with all members under their primary names. -/
def toJson (p : Payload) : Json := .obj
  [("feature_gates", .ofDict (p.featureGates.map (Entry.toJson Spec.toJson))),
   ("dynamic_configs", .ofDict (p.dynamicConfigs.map (Entry.toJson Spec.toJson))),
   ("layers", .ofDict (p.layers.map (Entry.toJson Spec.toJson))),
   ("parameter_stores", .ofDict (p.parameterStores.map ParameterStoreSpec.toJson)),
   ("condition_map", .ofDict (p.conditions.map Condition.toJson)),
   ("experiment_to_layer", .ofDict (p.experimentToLayer.map .text)),
   ("id_lists", .ofDict (p.idLists.map IdListRef.toJson)),
   ("time", .ofOption (fun n => .int n) p.time), ("has_updates", .bool p.hasUpdates)]

/-- The members of a payload in their declared order. -/
def declared : List Member :=
  [⟨"feature_gates", []⟩, ⟨"dynamic_configs", []⟩, ⟨"layers", ["layer_configs"]⟩,
   ⟨"parameter_stores", ["param_stores"]⟩, ⟨"condition_map", []⟩, ⟨"experiment_to_layer", []⟩,
   ⟨"id_lists", []⟩, ⟨"time", ["lcut"]⟩, ⟨"has_updates", []⟩]

/-- Read a map of specs. -/
def specs? : Document → Option (Dict (Entry Spec)) := dict? (Entry.ofDocument? Spec.ofDocument?)

/-- Read a payload. -/
def ofDocument? (d : Document) : Option Payload := do
  let r ← record? declared d
  return {
    featureGates := ← r.withDefault? "feature_gates" ∅ specs?
    dynamicConfigs := ← r.withDefault? "dynamic_configs" ∅ specs?
    layers := ← r.withDefault? "layers" ∅ specs?
    parameterStores := ← r.withDefault? "parameter_stores" ∅ (dict? ParameterStoreSpec.ofDocument?)
    conditions := ← r.withDefault? "condition_map" ∅ (dict? Condition.ofDocument?)
    experimentToLayer := ← r.withDefault? "experiment_to_layer" ∅ (dict? text?)
    idLists := ← r.withDefault? "id_lists" ∅ (dict? IdListRef.ofDocument?)
    time := ← r.optional? "time" nat64?
    hasUpdates := ← r.withDefault? "has_updates" true bool? }

/-- Read a payload from its text. -/
def ofText? (s : String) : Option Payload := (Document.ofText? s).bind ofDocument?

end Payload

end Rollout
