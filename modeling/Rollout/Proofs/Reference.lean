import Mathlib.Logic.Relation
import Rollout.Evaluation

/-!
# References

What an entity refers to (`Snapshot.references`): the gates that the conditions of its rules ask
for, and the experiments that its rules name. A tree of conditions counts through its tips alone
(`ConditionNode.tips`), which are conditions of its own and keys of shared ones.
-/

namespace Rollout

/-- An entity by its kind and name. -/
abbrev Entity := EntityKind × String

/-- What stands at an end of a tree of conditions. -/
inductive ConditionTip where
  | shared (key : String)
  | own (condition : Condition)

namespace ConditionNode

mutual

/-- The ends of a tree of conditions, from left to right. -/
def tips : ConditionNode → List ConditionTip
  | .all children => tipsOfAll children
  | .any children => tipsOfAll children
  | .ref key => [.shared key]
  | .leaf condition => [.own condition]

def tipsOfAll : List ConditionNode → List ConditionTip
  | [] => []
  | n :: rest => tips n ++ tipsOfAll rest

end

end ConditionNode

/-- The tips of the conditions of a rule. -/
def Rule.tips (rule : Rule) : List ConditionTip := rule.conditions.flatMap ConditionNode.tips

/-- The tips of the conditions of all rules of a spec. -/
def Spec.tips (spec : Spec) : List ConditionTip := spec.rules.flatMap Rule.tips

namespace Condition

/-- The gate that a condition asks for. -/
def gate? (condition : Condition) : Option String :=
  match condition.kind with
  | .passGate | .failGate => condition.target.bind Json.text?
  | _ => none

/-- The id list that a condition looks into. -/
def idList? (condition : Condition) : Option String :=
  match condition.operator with
  | some (.inIdList _) => condition.target.bind Json.text?
  | _ => none

end Condition

namespace Snapshot

variable (s : Snapshot)

/-- The readable spec of an entity. -/
def spec? (e : Entity) : Option Spec := (s.payload.entry? e.1 e.2).bind Entry.get?

/-- The readable spec of a dynamic config or experiment. -/
def experiment? (name : String) : Option Spec :=
  (s.payload.dynamicConfigs.get? name).bind Entry.get?

/-- The condition at the end of a tree, if there is one. -/
def conditionAt? : ConditionTip → Option Condition
  | .shared key => s.payload.conditions.get? key
  | .own condition => some condition

/-- The gates that the conditions at some tips ask for. -/
def gatesAsked (tips : List ConditionTip) : List String :=
  tips.filterMap fun tip => (s.conditionAt? tip).bind Condition.gate?

/-- What an entity refers to: gates by its conditions, experiments by its rules. -/
def references (e : Entity) : List Entity :=
  match s.spec? e with
  | none => []
  | some spec =>
    (s.gatesAsked spec.tips).map (.gate, ·) ++
      (spec.rules.filterMap (·.delegate)).map (.experiment, ·)

/-- An entity refers to another one. -/
def Refers (e e' : Entity) : Prop := e' ∈ s.references e

instance (e e' : Entity) : Decidable (s.Refers e e') :=
  inferInstanceAs (Decidable (e' ∈ s.references e))

variable {s} {e : Entity} {spec : Spec}

theorem spec?_of_parsed (h : s.payload.entry? e.1 e.2 = some (.parsed spec)) :
    s.spec? e = some spec := by
  unfold spec?
  rw [h]
  rfl

theorem refers_gate (h : s.spec? e = some spec) {rule : Rule} (hrule : rule ∈ spec.rules)
    {tip : ConditionTip} (htip : tip ∈ rule.tips) {condition : Condition}
    (hcondition : s.conditionAt? tip = some condition) {gate : String}
    (hgate : condition.gate? = some gate) : s.Refers e (.gate, gate) := by
  unfold Refers references
  rw [h]
  refine List.mem_append_left _ (List.mem_map_of_mem ?_)
  refine List.mem_filterMap.2 ⟨tip, List.mem_flatMap.2 ⟨rule, hrule, htip⟩, ?_⟩
  rw [hcondition]
  exact hgate

theorem refers_experiment (h : s.spec? e = some spec) {rule : Rule} (hrule : rule ∈ spec.rules)
    {name : String} (hname : rule.delegate = some name) : s.Refers e (.experiment, name) := by
  unfold Refers references
  rw [h]
  exact List.mem_append_right _
    (List.mem_map_of_mem (List.mem_filterMap.2 ⟨rule, hrule, hname⟩))

end Snapshot

namespace Context

variable (c : Context)

/-- Evaluate the condition at an end of a tree. -/
def evaluateTip (nested : NestedEvaluation) (s : Snapshot) (tip : ConditionTip) :
    Except Halt Finding :=
  match s.conditionAt? tip with
  | none => .error .unsupported
  | some condition => c.evaluateCondition nested s condition

end Context

end Rollout
