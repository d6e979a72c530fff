import Rollout.Evaluation

/-!
# Decisions

What the host is told of an outcome: the part that matters for its kind of entity, with readers for
the members of configs (`Dict.read?`).
-/

namespace Rollout

/-- The member of a given name as a value of another type, if it has that type. -/
def Dict.read? {α : Type} (members : Dict Json) (key : String)
    (read : Json.Document → Option α) : Option α :=
  (members.get? key).bind fun j => read (.ofJson j)

/-- The decision about a gate. -/
structure GateDecision where
  name : String
  value : Bool
  ruleId : String
  idType : String
  details : Details
  deriving Repr, DecidableEq

/-- The decision about a dynamic config. -/
structure ConfigDecision where
  name : String
  members : Dict Json
  ruleId : String
  idType : String
  details : Details
  deriving Repr

/-- The decision about an experiment. -/
structure ExperimentDecision extends ConfigDecision where
  groupName : Option String
  isExperimentActive : Bool
  deriving Repr

/-- The decision about a layer. Reading its parameters exposes them if `exposes` says for whom. -/
structure LayerDecision extends ExperimentDecision where
  /-- The experiment that the user was allocated to. -/
  allocatedExperiment : Option String
  /-- The user and the outcome that exposures are made from. -/
  exposes : Option (User × Outcome)
  deriving Repr

namespace Outcome

/-- The outcome of a gate as a decision. -/
def toGate (o : Outcome) (name : String) : GateDecision :=
  { name, value := o.value, ruleId := o.ruleId, idType := o.idType, details := o.details }

/-- The outcome of a dynamic config as a decision. -/
def toConfig (o : Outcome) (name : String) : ConfigDecision :=
  { name, members := o.members, ruleId := o.ruleId, idType := o.idType, details := o.details }

/-- The outcome of an experiment as a decision. -/
def toExperiment (o : Outcome) (name : String) : ExperimentDecision :=
  { o.toConfig name with groupName := o.groupName, isExperimentActive := o.isExperimentActive }

/-- The outcome of a layer as a decision, which exposes its parameters to the given user. -/
def toLayer (o : Outcome) (name : String) (exposedTo : Option User) : LayerDecision :=
  { o.toExperiment name with
    allocatedExperiment := o.delegate, exposes := exposedTo.map fun u => (u, o) }

end Outcome

namespace GateDecision

/-- The decision as JSON. -/
def toJson (d : GateDecision) : Json := .obj
  [("name", .text d.name), ("value", .bool d.value), ("ruleID", .text d.ruleId),
   ("idType", .text d.idType), ("details", d.details.toJson)]

end GateDecision

namespace ConfigDecision

/-- The members of the decision as JSON. -/
def jsonMembers (d : ConfigDecision) : List (String × Json) :=
  [("name", .text d.name), ("value", .ofDict d.members), ("ruleID", .text d.ruleId),
   ("idType", .text d.idType), ("details", d.details.toJson)]

/-- The decision as JSON. -/
def toJson (d : ConfigDecision) : Json := .obj d.jsonMembers

end ConfigDecision

namespace ExperimentDecision

/-- The members of the decision as JSON. -/
def jsonMembers (d : ExperimentDecision) : List (String × Json) :=
  d.toConfigDecision.jsonMembers ++
    [("groupName", .ofOption .text d.groupName), ("isExperimentActive", .bool d.isExperimentActive)]

/-- The decision as JSON. -/
def toJson (d : ExperimentDecision) : Json := .obj d.jsonMembers

end ExperimentDecision

namespace LayerDecision

/-- The decision as JSON. -/
def toJson (d : LayerDecision) : Json := .obj <|
  d.toExperimentDecision.jsonMembers ++
    [("allocatedExperimentName", .ofOption .text d.allocatedExperiment)]

/-- Whether two decisions about layers say the same, whomever they expose parameters to. -/
def agrees (a b : LayerDecision) : Bool :=
  a.name == b.name && (Json.ofDict a.members).equal (.ofDict b.members) && a.ruleId == b.ruleId &&
    a.idType == b.idType && a.groupName == b.groupName &&
    a.allocatedExperiment == b.allocatedExperiment &&
    a.isExperimentActive == b.isExperimentActive && a.details == b.details

end LayerDecision

end Rollout
