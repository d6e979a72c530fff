import Rollout.Outcome
import Rollout.Spec.Operator

/-!
# Evaluation

The outcome of an entity for a user. The first rule whose conditions all hold and that lets the user
in decides (`Context.decideRules`); a rule may also hand over to an experiment. Conditions may ask
for other gates, so evaluation is nested. It is bounded by a budget (`Context.evaluateNested`),
which also ends gates that ask for each other.

Stored assignments count only for the entity that was asked for. An evaluation reads them through a
look-up function and makes at most one change to them (`Verdict.change`).
-/

namespace Rollout

/-- Everything that evaluations depend on, apart from stored assignments. -/
structure Context where
  user : User
  snapshot : Option Snapshot
  overrides : Overrides
  /-- The hash that places users in buckets. -/
  hash : String → Nat := Digest.bucketHash
  /-- The current time in milliseconds. -/
  now : Nat

/-- Why an evaluation stops without an outcome. -/
inductive Halt where
  | unsupported
  | depthExceeded
  deriving Repr, DecidableEq

/-- What a condition comes to: whether it holds, and the gates evaluated on the way. -/
structure Finding where
  holds : Bool
  exposures : List SecondaryExposure := []
  deriving Repr, DecidableEq

/-- The evaluation of another entity, from within one. -/
abbrev NestedEvaluation := EntityKind → String → Except Halt Outcome

/-- What comes of looking up an entity, before any rule is tried. -/
inductive Entrance where
  /-- The outcome does not depend on rules. -/
  | settled (outcome : Outcome)
  /-- The entry is no spec. -/
  | unreadable
  /-- The rules of the spec decide. -/
  | rules (snapshot : Snapshot) (spec : Spec)

/-- The outcome of an entity's rules. -/
structure Ruling where
  outcome : Outcome
  /-- Whether a rule of the entity itself let the user in. -/
  isAssignment : Bool := false

/-- A change to the stored assignments. -/
inductive StickyChange where
  | save (key entity : String) (values : StickyValues)
  | delete (key entity : String)
  deriving Repr

/-- The outcome of an evaluation and the change it makes to the stored assignments, if any. -/
structure Verdict where
  outcome : Outcome
  change : Option StickyChange := none
  deriving Repr

namespace Payload

/-- The entry of an entity. -/
def entry? (p : Payload) (kind : EntityKind) (name : String) : Option (Entry Spec) :=
  match kind with
  | .gate => p.featureGates.get? name
  | .dynamicConfig | .experiment => p.dynamicConfigs.get? name
  | .layer => p.layers.get? name

end Payload

/-- How deep evaluations may be nested. -/
def maxNesting : Nat := 64

/-- The number of buckets that pass percentages are parts of. -/
def rolloutBuckets : Nat := 10000

/-- The number of buckets that conditions on buckets see. -/
def userBuckets : Nat := 1000

/-- Gates with this start of their name are parts of other gates, and are not exposed. -/
def segmentStart : String := "segment:"

namespace Finding

/-- Two findings that are both wanted. -/
def and (a b : Finding) : Finding := ⟨a.holds && b.holds, a.exposures ++ b.exposures⟩

end Finding

namespace Context

variable (c : Context)

/-- The user's id of a type, in texts to be hashed. -/
def hashedId (idType : String) : String := (c.user.unitId? idType).getD ""

/-! ### Conditions -/

/-- Whether a gate passes (or fails, if `negated`). The gate counts as exposed after those that it
was decided by itself. -/
def gateFinding (nested : NestedEvaluation) (target : Option Json) (negated : Bool) :
    Except Halt Finding :=
  match target.bind Json.text? with
  | none => .error .unsupported
  | some gate => (nested .gate gate).map fun o =>
    { holds := o.value != negated
      exposures := o.exposures ++
        if segmentStart.isPrefixOf gate then []
        else [⟨gate, if o.value then "true" else "false", o.ruleId⟩] }

/-- The user's bucket under the salt of a condition. -/
def conditionBucket (condition : Condition) : Nat :=
  let salt := (((condition.additional.getD ∅).get? "salt").bind Json.text?).getD ""
  c.hash (salt ++ "." ++ c.hashedId condition.idType) % userBuckets

/-- Apply the operator of a condition to a value. -/
def testFinding (snapshot : Snapshot) (condition : Condition) (value : Option Attribute) :
    Except Halt Finding :=
  match condition.operator with
  | none | some .unknown => .error .unsupported
  | some o => .ok { holds := o.test value condition.target snapshot.idLists }

/-- Evaluate a condition. Nothing is known of addresses and browsers beyond the user's fields. -/
def evaluateCondition (nested : NestedEvaluation) (snapshot : Snapshot) (condition : Condition) :
    Except Halt Finding :=
  match condition.kind with
  | .everyone => .ok { holds := true }
  | .passGate => gateFinding nested condition.target false
  | .failGate => gateFinding nested condition.target true
  | .userField | .ipBased | .userAgentBased =>
    testFinding snapshot condition (condition.field.bind c.user.field?)
  | .environmentField =>
    testFinding snapshot condition (condition.field.bind c.user.environmentField?)
  | .currentTime => testFinding snapshot condition (some (.int c.now))
  | .userBucket => testFinding snapshot condition (some (.int (c.conditionBucket condition)))
  | .unitId => testFinding snapshot condition ((c.user.unitId? condition.idType).map .text)
  | .unknown => .error .unsupported

mutual

/-- Evaluate a tree of conditions. The children of a node are evaluated until one decides. -/
def evaluateNode (nested : NestedEvaluation) (snapshot : Snapshot) :
    ConditionNode → Except Halt Finding
  | .all children => evaluateAll nested snapshot children
  | .any children => evaluateAny nested snapshot children
  | .ref key => match snapshot.payload.conditions.get? key with
    | none => .error .unsupported
    | some condition => c.evaluateCondition nested snapshot condition
  | .leaf condition => c.evaluateCondition nested snapshot condition

def evaluateAll (nested : NestedEvaluation) (snapshot : Snapshot) :
    List ConditionNode → Except Halt Finding
  | [] => .ok { holds := true }
  | n :: rest => do
    let f ← evaluateNode nested snapshot n
    if f.holds then return f.and (← evaluateAll nested snapshot rest) else return f

def evaluateAny (nested : NestedEvaluation) (snapshot : Snapshot) :
    List ConditionNode → Except Halt Finding
  | [] => .ok { holds := false }
  | n :: rest => do
    let f ← evaluateNode nested snapshot n
    if f.holds then return f
    else
      let r ← evaluateAny nested snapshot rest
      return { holds := r.holds, exposures := f.exposures ++ r.exposures }

end

/-- Evaluate the conditions of a rule. All of them are evaluated, so that every gate among them is
exposed. -/
def evaluateEach (nested : NestedEvaluation) (snapshot : Snapshot) :
    List ConditionNode → Except Halt Finding
  | [] => .ok { holds := true }
  | n :: rest => do
    let f ← c.evaluateNode nested snapshot n
    return f.and (← evaluateEach nested snapshot rest)

/-! ### Rules -/

/-- Whether a rule lets the user in: the user's bucket lies below the pass percentage. -/
def passes (spec : Spec) (rule : Rule) : Bool :=
  if (Binary64.ofInt 100).atMost rule.passPercentage then true
  else if rule.passPercentage.atMost (Binary64.ofInt 0) then false
  else
    let salted := spec.salt ++ "." ++ rule.salt.getD rule.id ++ "." ++ c.hashedId rule.idType
    (Binary64.ofInt (c.hash salted % rolloutBuckets : Nat)).less
      (rule.passPercentage.mul (Binary64.ofInt 100))

/-- The outcome of a rule that hands over to an experiment: the experiment's, with its members over
the default ones of the spec. A rule whose experiment is no spec hands nothing over. -/
def delegated? (nested : NestedEvaluation) (snapshot : Snapshot) (spec : Spec) (rule : Rule)
    (exposures : List SecondaryExposure) (base : Outcome) : Except Halt (Option Outcome) :=
  match rule.delegate with
  | none => .ok none
  | some name => match (snapshot.payload.dynamicConfigs.get? name).bind Entry.get? with
    | none => .ok none
    | some experiment => (nested .experiment name).map fun o =>
      some { base with
        value := o.value, members := spec.defaultValue.members.overlay o.members,
        ruleId := o.ruleId, groupName := o.groupName, isExperimentGroup := o.isExperimentGroup,
        isExperimentActive := o.isExperimentActive, delegate := some name,
        explicitParameters := experiment.explicitParameters.getD [],
        exposures := exposures ++ o.exposures, undelegatedExposures := some exposures }

/-- The outcome when no rule decides: the default, in the group of the last rule whose conditions
held. -/
def undecided (spec : Spec) (last : Option Rule) (exposures : List SecondaryExposure)
    (base : Outcome) : Outcome :=
  let o := base.withDefault spec Outcome.defaultRuleId
  { (match last with
    | some rule => o.withGroup rule
    | none => o) with exposures }

/-- Go through rules, given the exposures so far, the last rule whose conditions held, and the
assignment stored for the entity, which decides when its rule is reached. -/
def decideRules (nested : NestedEvaluation) (snapshot : Snapshot) (spec : Spec) (base : Outcome)
    (stored : Option StickyValues) :
    List Rule → List SecondaryExposure → Option Rule → Except Halt Ruling
  | [], exposures, last => .ok { outcome := undecided spec last exposures base }
  | rule :: rest, exposures, last => do
    let found ← c.evaluateEach nested snapshot rule.conditions
    let exposures := exposures ++ found.exposures
    if !found.holds then decideRules nested snapshot spec base stored rest exposures last
    else
      match ← delegated? nested snapshot spec rule exposures base with
      | some outcome => return { outcome }
      | none =>
        match stored.filter (·.ruleId == rule.id) with
        | some values => return { outcome := base.withSticky values (snapshot.details .persisted) }
        | none =>
          if c.passes spec rule then
            return { outcome := { base.withRule rule with exposures }, isAssignment := true }
          else decideRules nested snapshot spec base stored rest exposures (some rule)

/-- Evaluate the rules of a spec. -/
def evaluateRules (nested : NestedEvaluation) (snapshot : Snapshot) (spec : Spec)
    (stored : Option StickyValues) : Except Halt Ruling :=
  let base := Outcome.ofSpec spec (snapshot.details (.recognized snapshot.source))
  c.decideRules nested snapshot spec base stored spec.rules [] none

/-! ### Entities -/

/-- Look up an entity: overrides come first, then whether there is such an entity, and whether it
is switched on. -/
def entrance (kind : EntityKind) (name : String) : Entrance :=
  let entry := c.snapshot.bind (·.payload.entry? kind name)
  let spec := entry.bind Entry.get?
  match c.overrides.resolve? kind name c.user spec with
  | some forced =>
    .settled (.ofForced forced spec (Catalog.detailsBeside c.snapshot .localOverride))
  | none =>
    match c.snapshot with
    | none => .settled (.empty .uninitialized)
    | some snapshot =>
      match entry with
      | none => .settled (.empty (snapshot.details (.unrecognized snapshot.source)))
      | some (.failed _) => .unreadable
      | some (.parsed spec) =>
        if spec.enabled then .rules snapshot spec
        else
          .settled <|
            (Outcome.ofSpec spec (snapshot.details (.recognized snapshot.source))).withDefault spec
              Outcome.disabledRuleId

/-- Evaluate an entity from within another evaluation, with a budget for further nesting. -/
def evaluateNested : Nat → NestedEvaluation
  | 0 => fun _ _ => .error .depthExceeded
  | budget + 1 => fun kind name =>
    match c.entrance kind name with
    | .settled outcome => .ok outcome
    | .unreadable => .error .unsupported
    | .rules snapshot spec =>
      (c.evaluateRules (evaluateNested budget) snapshot spec none).map (·.outcome)

/-- The outcome when an evaluation stops. -/
def halted : Halt → Outcome
  | .unsupported => .empty (Catalog.detailsFor c.snapshot .unsupported)
  | .depthExceeded => .empty (Catalog.detailsBeside c.snapshot .error)

/-- How stored assignments bear on an entity. -/
inductive Stickiness where
  | none
  /-- The entity is not active: its assignment under the key is forgotten. -/
  | forget (key : String)
  | keep (key : String)

/-- Whether assignments of an entity are stored: those of a sticky spec unless it is inactive, and
on request those of an active experiment. -/
def stickiness (requested : Bool) (kind : EntityKind) (spec : Spec) : Stickiness :=
  let wanted := spec.isSticky || (requested && kind = .experiment)
  let active := if spec.isSticky then spec.isActive != some false else spec.isActive == some true
  match c.user.storageKey? spec.idType with
  | some key => if !wanted then .none else if active then .keep key else .forget key
  | Option.none => .none

/-- Evaluate an entity. `load` looks up stored assignments by key, if there are any;
`requested` asks for assignments of experiments to be stored. -/
def evaluate (load : Option (String → Option StickyAssignments)) (requested : Bool)
    (kind : EntityKind) (name : String) : Verdict :=
  let nested := c.evaluateNested maxNesting
  match c.entrance kind name with
  | .settled outcome => { outcome }
  | .unreadable => { outcome := c.halted .unsupported }
  | .rules snapshot spec =>
    let ruling (stored : Option StickyValues) : Ruling :=
      match c.evaluateRules nested snapshot spec stored with
      | .ok r => r
      | .error h => { outcome := c.halted h }
    match load with
    | none => { outcome := (ruling none).outcome }
    | some load =>
      match c.stickiness requested kind spec with
      | .none => { outcome := (ruling none).outcome }
      | .forget key => { outcome := (ruling none).outcome, change := some (.delete key name) }
      | .keep key =>
        let r := ruling ((load key).bind (·.get? name))
        { outcome := r.outcome
          change :=
            if r.isAssignment then some (.save key name (r.outcome.toSticky c.now)) else none }

/-- The outcome of an entity when no assignments are stored. -/
def outcome (kind : EntityKind) (name : String) : Outcome :=
  (c.evaluate none false kind name).outcome

end Context

namespace StickyStorage

/-- Make a change, which may fail. -/
def perform (s : StickyStorage) : StickyChange → StickyStorage
  | .save key entity values => (s.save key entity values).2
  | .delete key entity => (s.delete key entity).2

/-- The assignments under a key, or none if loading fails. -/
def look (s : StickyStorage) (key : String) : Option StickyAssignments :=
  match s.load key with
  | .ok assignments => assignments
  | .error _ => none

end StickyStorage

/-- Evaluate an entity with stored assignments, if there is a storage, and make the change. -/
def Context.evaluateWith (c : Context) (storage : Option StickyStorage) (requested : Bool)
    (kind : EntityKind) (name : String) : Outcome × Option StickyStorage :=
  let v := c.evaluate (storage.map (·.look)) requested kind name
  (v.outcome, storage.map fun s => match v.change with
    | some change => s.perform change
    | none => s)

end Rollout
