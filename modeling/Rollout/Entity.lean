/-!
# Kinds of entities
-/

namespace Rollout

/-- What a decision is made about. Dynamic configs and experiments share their names. -/
inductive EntityKind where
  | gate
  | dynamicConfig
  | experiment
  | layer
  deriving Repr, DecidableEq, Inhabited

namespace EntityKind

/-- The kinds of entities. -/
def all : List EntityKind := [.gate, .dynamicConfig, .experiment, .layer]

/-- The kind in words. -/
def label : EntityKind → String
  | .gate => "gate"
  | .dynamicConfig => "dynamic config"
  | .experiment => "experiment"
  | .layer => "layer"

end EntityKind

/-- A gate that was evaluated on the way to a decision, with its outcome. -/
structure SecondaryExposure where
  gate : String
  /-- `true` or `false`. -/
  gateValue : String
  ruleId : String
  deriving Repr, DecidableEq, Inhabited

end Rollout
