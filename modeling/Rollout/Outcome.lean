import Rollout.Catalog
import Rollout.Override
import Rollout.Sticky

/-!
# Outcomes

The outcome of evaluating one entity for one user. It starts from what the spec says of itself
(`Outcome.ofSpec`); a rule, an override or a stored assignment then fills in the value.
`Outcome.toSticky` is what is stored of an outcome, `Outcome.withSticky` takes it up again.
-/

namespace Rollout

/-- The outcome of evaluating an entity. -/
structure Outcome where
  value : Bool := false
  members : Dict Json := ∅
  ruleId : String := ""
  idType : String := defaultIdType
  groupName : Option String := none
  /-- Whether the user is in a group of an experiment. -/
  isExperimentGroup : Bool := false
  isExperimentActive : Bool := false
  isInLayer : Bool := false
  /-- The experiment that a layer allocated the user to. -/
  delegate : Option String := none
  explicitParameters : List String := []
  exposures : List SecondaryExposure := []
  /-- The exposures of a layer without those of the experiment it delegated to. -/
  undelegatedExposures : Option (List SecondaryExposure) := none
  version : Option Nat := none
  details : Details
  deriving Repr

namespace Outcome

/-- The rule id of a value that no rule brought about. -/
def defaultRuleId : String := "default"

/-- The rule id of an entity that is switched off. -/
def disabledRuleId : String := "disabled"

/-- The rule id of an override. -/
def overrideRuleId : String := "override"

/-- The outcome without any value. -/
def empty (details : Details) : Outcome := { details }

/-- What every outcome of a spec has in common. -/
def ofSpec (spec : Spec) (details : Details) : Outcome :=
  { idType := spec.idType, isExperimentActive := spec.isActive.getD false,
    isInLayer := spec.hasSharedParams.getD false,
    explicitParameters := spec.explicitParameters.getD [], version := spec.version, details }

/-- The default value of the spec. -/
def withDefault (o : Outcome) (spec : Spec) (ruleId : String) : Outcome :=
  { o with value := spec.defaultValue.fallback, members := spec.defaultValue.members, ruleId }

/-- The rule whose group the user is in, which has no say in the value. -/
def withGroup (o : Outcome) (rule : Rule) : Outcome :=
  { o with ruleId := rule.id, groupName := rule.groupName,
           isExperimentGroup := rule.isExperimentGroup.getD false }

/-- The value of a rule that lets the user in. -/
def withRule (o : Outcome) (rule : Rule) : Outcome :=
  { o.withGroup rule with value := rule.returnValue.passing, members := rule.returnValue.members }

/-- The outcome that an override forces. -/
def ofForced (forced : ForcedOutcome) (spec : Option Spec) (details : Details) : Outcome :=
  let base := match spec with
    | some s => ofSpec s details
    | none => empty details
  { base with value := forced.value, members := forced.members, ruleId := overrideRuleId,
              groupName := forced.groupName }

/-- The outcome of a stored assignment. -/
def withSticky (o : Outcome) (v : StickyValues) (details : Details) : Outcome :=
  { o with
    value := v.value, members := v.members.getD ∅, ruleId := v.ruleId,
    isExperimentGroup := v.groupName.isSome, groupName := v.groupName, exposures := v.exposures,
    undelegatedExposures := v.undelegatedExposures, delegate := v.delegate,
    explicitParameters := v.explicitParameters.getD o.explicitParameters, details }

/-- What is stored of an outcome. -/
def toSticky (o : Outcome) (time : Nat) : StickyValues :=
  { value := o.value, members := some o.members, ruleId := o.ruleId, groupName := o.groupName,
    exposures := o.exposures, undelegatedExposures := o.undelegatedExposures,
    delegate := o.delegate, explicitParameters := some o.explicitParameters, time,
    configVersion := o.version }

end Outcome

end Rollout
