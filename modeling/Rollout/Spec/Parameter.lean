import Rollout.Spec

/-!
# Parameters of parameter stores

A parameter is a value of its own or is read from a gate, config, experiment or layer.
-/

namespace Rollout

/-- A parameter. -/
inductive Parameter where
  | static (value : Json)
  /-- One of two values, as the gate decides. -/
  | gate (name : String) (passValue failValue : Json)
  | dynamicConfig (name parameter : String)
  | experiment (name parameter : String)
  | layer (name parameter : String)
  deriving Repr

/-- The parameters of a store by name. -/
structure ParameterStoreSpec where
  parameters : Dict (Entry Parameter) := ∅
  deriving Repr

open Json Document

namespace Parameter

/-- The parameter as JSON. -/
def toJson : Parameter → Json
  | .static value => .obj [("ref_type", .text "static"), ("value", value)]
  | .gate name passValue failValue => .obj
    [("ref_type", .text "gate"), ("gate_name", .text name), ("pass_value", passValue),
     ("fail_value", failValue)]
  | .dynamicConfig name parameter => .obj
    [("ref_type", .text "dynamic_config"), ("config_name", .text name),
     ("param_name", .text parameter)]
  | .experiment name parameter => .obj
    [("ref_type", .text "experiment"), ("experiment_name", .text name),
     ("param_name", .text parameter)]
  | .layer name parameter => .obj
    [("ref_type", .text "layer"), ("layer_name", .text name), ("param_name", .text parameter)]

/-- The kinds of parameters; a number stands for the kind at that place. -/
def kinds : List String := ["static", "gate", "dynamic_config", "experiment", "layer"]

/-- Read the name or number of a kind. -/
def kind? : Document → Option String
  | .text s => if kinds.contains s then some s else none
  | .number (.int n) => if 0 ≤ n then kinds[n.toNat]? else none
  | _ => none

/-- Read the other members of a parameter of the given kind. -/
def ofKind? (kind : String) (d : Document) : Option Parameter := do
  match kind with
  | "static" =>
    let r ← record? [⟨"value", []⟩] d
    return .static (← r.required? "value" toJson?)
  | "gate" =>
    let r ← record? [⟨"gate_name", []⟩, ⟨"pass_value", []⟩, ⟨"fail_value", []⟩] d
    return .gate (← r.required? "gate_name" text?) (← r.required? "pass_value" toJson?)
      (← r.required? "fail_value" toJson?)
  | "dynamic_config" =>
    let r ← record? [⟨"config_name", []⟩, ⟨"param_name", []⟩] d
    return .dynamicConfig (← r.required? "config_name" text?) (← r.required? "param_name" text?)
  | "experiment" =>
    let r ← record? [⟨"experiment_name", []⟩, ⟨"param_name", []⟩] d
    return .experiment (← r.required? "experiment_name" text?) (← r.required? "param_name" text?)
  | "layer" =>
    let r ← record? [⟨"layer_name", []⟩, ⟨"param_name", []⟩] d
    return .layer (← r.required? "layer_name" text?) (← r.required? "param_name" text?)
  | _ => none

/-- Read a parameter: an object with one member `ref_type`, or an array that starts with it. -/
def ofDocument? : Document → Option Parameter
  | .object members =>
    match members.filter (·.1 == "ref_type") with
    | [(_, k)] => (kind? k).bind fun kind =>
      ofKind? kind (.object (members.filter (·.1 != "ref_type")))
    | _ => none
  | .array (k :: rest) => (kind? k).bind fun kind => ofKind? kind (.array rest)
  | _ => none

end Parameter

namespace ParameterStoreSpec

/-- The store as JSON. -/
def toJson (s : ParameterStoreSpec) : Json :=
  .obj [("parameters", .ofDict (s.parameters.map (Entry.toJson Parameter.toJson)))]

/-- Read a store. -/
def ofDocument? (d : Document) : Option ParameterStoreSpec := do
  let r ← record? [⟨"parameters", []⟩] d
  return {
    parameters :=
      ← r.withDefault? "parameters" ∅ (dict? (Entry.ofDocument? Parameter.ofDocument?)) }

end ParameterStoreSpec

end Rollout
