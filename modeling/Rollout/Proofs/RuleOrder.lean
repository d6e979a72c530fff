import Rollout.Proofs.Refinement

/-!
# The order of rules

What an entity comes to is said by its rules in order, other entities being evaluated on their own
(`Context.outcome`): the first rule whose conditions hold and that hands over to an experiment or
lets the user in decides, and if there is none, the last rule whose conditions hold names the group
(`outcome_decided_by_rules`).

Conditions are given a meaning apart from how they are evaluated: a tree of conditions holds as a
formula does (`nodeHolds`), and exposes the gates met from left to right until a child decides
(`nodeExposures`).
-/

namespace Rollout

/-- The experiment that a rule hands over to, if the snapshot has it, with its name. -/
def Snapshot.handover? (s : Snapshot) (rule : Rule) : Option (String × Spec) :=
  rule.delegate.bind fun name => (s.experiment? name).map (name, ·)

/-- A rule hands over to the same experiment where this says the same of its parameters. -/
theorem Snapshot.handover?_rel {s s' : Snapshot} {rule : Rule}
    (h : ∀ name, rule.delegate = some name → (s'.experiment? name).map (·.explicitParameters) =
      (s.experiment? name).map (·.explicitParameters)) :
    Option.Rel (fun t t' => t'.1 = t.1 ∧ t'.2.explicitParameters = t.2.explicitParameters)
      (s.handover? rule) (s'.handover? rule) := by
  unfold Snapshot.handover?
  cases hname : rule.delegate with
  | none => exact .none
  | some name =>
    have hp := h name hname
    rw [Option.bind_some, Option.bind_some]
    cases hs : s.experiment? name with
    | none =>
      rw [hs, Option.map_none, Option.map_eq_none_iff] at hp
      rw [hp]
      exact .none
    | some experiment =>
      rw [hs, Option.map_some, Option.map_eq_some_iff] at hp
      obtain ⟨experiment', hs', he⟩ := hp
      rw [hs']
      exact .some ⟨rfl, he⟩

theorem Snapshot.Agrees.handover?_isSome {s s' : Snapshot} (h : s.Agrees s') (rule : Rule) :
    (s'.handover? rule).isSome = (s.handover? rule).isSome := by
  have hrel := Snapshot.handover?_rel fun name (_ : rule.delegate = some name) => h.parameters name
  generalize s.handover? rule = t, s'.handover? rule = t' at hrel ⊢
  cases hrel <;> rfl

namespace Context

variable (c : Context) (s : Snapshot)

/-! ### The meaning of conditions -/

/-- Other entities, each evaluated on its own. -/
def own : NestedEvaluation := fun kind name => .ok (c.outcome kind name)

/-- Whether a condition holds. -/
def conditionHolds (condition : Condition) : Bool :=
  match c.evaluateCondition c.own s condition with
  | .ok f => f.holds
  | .error _ => false

/-- The gates that a condition exposes. -/
def conditionExposures (condition : Condition) : List SecondaryExposure :=
  match c.evaluateCondition c.own s condition with
  | .ok f => f.exposures
  | .error _ => []

mutual

/-- Whether a tree of conditions holds. -/
def nodeHolds : ConditionNode → Bool
  | .all children => allHold children
  | .any children => anyHolds children
  | .ref key => ((s.payload.conditions.get? key).map (c.conditionHolds s)).getD false
  | .leaf condition => c.conditionHolds s condition

def allHold : List ConditionNode → Bool
  | [] => true
  | n :: rest => nodeHolds n && allHold rest

def anyHolds : List ConditionNode → Bool
  | [] => false
  | n :: rest => nodeHolds n || anyHolds rest

end

mutual

/-- The gates that a tree of conditions exposes: of the children, up to the one that decides. -/
def nodeExposures : ConditionNode → List SecondaryExposure
  | .all children => exposuresUntil false children
  | .any children => exposuresUntil true children
  | .ref key => ((s.payload.conditions.get? key).map (c.conditionExposures s)).getD []
  | .leaf condition => c.conditionExposures s condition

def exposuresUntil (decisive : Bool) : List ConditionNode → List SecondaryExposure
  | [] => []
  | n :: rest =>
    nodeExposures n ++ if c.nodeHolds s n = decisive then [] else exposuresUntil decisive rest

end

/-- Whether all conditions of a rule hold. -/
def ruleHolds (rule : Rule) : Bool := rule.conditions.all (c.nodeHolds s)

/-- The gates that a rule exposes, condition by condition. -/
def ruleExposures (rule : Rule) : List SecondaryExposure :=
  rule.conditions.flatMap (c.nodeExposures s)

/-! ### Evaluation gives conditions their meaning -/

/-- The outcome of an entity on its own is what a question for it brings about, or what stops it. -/
theorem outcome_eq (kind : EntityKind) (name : String) :
    c.outcome kind name = match c.evaluateNested (maxNesting + 1) kind name with
      | .ok o => o
      | .error h => c.halted h := by
  unfold outcome evaluate
  rw [evaluateNested_eq]
  cases c.entrance kind name with
  | settled o => rfl
  | unreadable => rfl
  | rules s spec =>
    dsimp only
    cases c.evaluateRules (c.evaluateNested maxNesting) s spec none <;> rfl

/-- What an entity comes to within an evaluation is what it comes to on its own. -/
theorem refines_own {budget : Nat} (h : budget ≤ maxNesting + 1) :
    (c.evaluateNested budget).Refines (fun _ => True) c.own := by
  intro kind name
  refine ((c.evaluateNested_le h kind name).mono fun _ _ => trivial).trans Outcome.Alike.trans ?_
  have ho := c.outcome_eq kind name
  unfold own
  cases hn : c.evaluateNested (maxNesting + 1) kind name with
  | error e => exact .inl trivial
  | ok o =>
    rw [hn] at ho
    rw [ho]
    exact .ok (.refl o)

theorem finding_eq_of_evaluateCondition {condition : Condition} {f : Finding}
    (h : c.evaluateCondition c.own s condition = .ok f) :
    f = ⟨c.conditionHolds s condition, c.conditionExposures s condition⟩ := by
  unfold conditionHolds conditionExposures
  rw [h]

mutual

theorem finding_eq_of_evaluateNode : ∀ (n : ConditionNode) {f : Finding},
    c.evaluateNode c.own s n = .ok f → f = ⟨c.nodeHolds s n, c.nodeExposures s n⟩
  | .all children, f, h => by
    unfold evaluateNode at h
    unfold nodeHolds nodeExposures
    exact finding_eq_of_evaluateAll children h
  | .any children, f, h => by
    unfold evaluateNode at h
    unfold nodeHolds nodeExposures
    exact finding_eq_of_evaluateAny children h
  | .ref key, f, h => by
    unfold evaluateNode at h
    unfold nodeHolds nodeExposures
    cases hk : s.payload.conditions.get? key with
    | none =>
      rw [hk] at h
      cases h
    | some condition =>
      rw [hk] at h
      exact c.finding_eq_of_evaluateCondition s h
  | .leaf condition, f, h => by
    unfold evaluateNode at h
    unfold nodeHolds nodeExposures
    exact c.finding_eq_of_evaluateCondition s h

theorem finding_eq_of_evaluateAll : ∀ (l : List ConditionNode) {f : Finding},
    c.evaluateAll c.own s l = .ok f → f = ⟨c.allHold s l, c.exposuresUntil s false l⟩
  | [], f, h => by
    cases h
    rfl
  | n :: rest, f, h => by
    unfold evaluateAll at h
    unfold allHold exposuresUntil
    obtain ⟨g, hn, h⟩ := bind_eq_ok h
    obtain rfl := finding_eq_of_evaluateNode n hn
    cases hh : c.nodeHolds s n with
    | false =>
      simp only [hh] at h
      cases h
      simp
    | true =>
      simp only [hh, if_true] at h
      obtain ⟨r, hr, h⟩ := bind_eq_ok h
      obtain rfl := finding_eq_of_evaluateAll rest hr
      cases h
      simp [Finding.and]

theorem finding_eq_of_evaluateAny : ∀ (l : List ConditionNode) {f : Finding},
    c.evaluateAny c.own s l = .ok f → f = ⟨c.anyHolds s l, c.exposuresUntil s true l⟩
  | [], f, h => by
    cases h
    rfl
  | n :: rest, f, h => by
    unfold evaluateAny at h
    unfold anyHolds exposuresUntil
    obtain ⟨g, hn, h⟩ := bind_eq_ok h
    obtain rfl := finding_eq_of_evaluateNode n hn
    cases hh : c.nodeHolds s n with
    | true =>
      simp only [hh, if_true] at h
      cases h
      simp
    | false =>
      simp only [hh] at h
      obtain ⟨r, hr, h⟩ := bind_eq_ok h
      obtain rfl := finding_eq_of_evaluateAny rest hr
      cases h
      simp

end

/-- The conditions of a rule come to whether all of them hold, and expose the gates of each. -/
theorem finding_eq_of_evaluateEach {l : List ConditionNode} {f : Finding}
    (h : c.evaluateEach c.own s l = .ok f) :
    f = ⟨l.all (c.nodeHolds s), l.flatMap (c.nodeExposures s)⟩ := by
  induction l generalizing f with
  | nil =>
    cases h
    rfl
  | cons n rest ih =>
    unfold evaluateEach at h
    obtain ⟨g, hn, h⟩ := bind_eq_ok h
    obtain ⟨r, hr, h⟩ := bind_eq_ok h
    obtain rfl := c.finding_eq_of_evaluateNode s n hn
    obtain rfl := ih hr
    cases h
    rfl

/-! ### Runs over rules -/

/-- The outcome of a rule that hands over to an experiment, given the experiment's outcome and the
gates exposed so far. -/
def handedOver (spec : Spec) (base : Outcome) (exposures : List SecondaryExposure)
    (target : String × Spec) (o : Outcome) : Outcome :=
  { base with
    value := o.value, members := spec.defaultValue.members.overlay o.members, ruleId := o.ruleId,
    groupName := o.groupName, isExperimentGroup := o.isExperimentGroup,
    isExperimentActive := o.isExperimentActive, delegate := some target.1,
    explicitParameters := target.2.explicitParameters.getD [],
    exposures := exposures ++ o.exposures, undelegatedExposures := some exposures }

theorem delegated?_eq (N : NestedEvaluation) (s : Snapshot) (spec : Spec) (rule : Rule)
    (exposures : List SecondaryExposure) (base : Outcome) :
    delegated? N s spec rule exposures base = match s.handover? rule with
      | none => .ok none
      | some target =>
        (N .experiment target.1).map fun o => some (handedOver spec base exposures target o) := by
  unfold delegated? Snapshot.handover?
  cases rule.delegate with
  | none => rfl
  | some name =>
    show _ = match (s.experiment? name).map (name, ·) with
      | none => _
      | some target => _
    unfold Snapshot.experiment?
    dsimp only
    cases (s.payload.dynamicConfigs.get? name).bind Entry.get? <;> rfl

variable (N : NestedEvaluation) (spec : Spec) (base : Outcome) (stored : Option StickyValues)

/-- How a run over rules goes, given the exposures so far and the last rule whose conditions held:
each rule is left behind or ends the run. -/
inductive RuleRun : List Rule → List SecondaryExposure → Option Rule → Ruling → Prop
  | exhausted {exposures last} :
    RuleRun [] exposures last { outcome := undecided spec last exposures base }
  | fails {rule rest exposures last f r} (found : c.evaluateEach N s rule.conditions = .ok f)
      (holds : f.holds = false) (next : RuleRun rest (exposures ++ f.exposures) last r) :
    RuleRun (rule :: rest) exposures last r
  | handsOver {rule rest exposures last f target o}
      (found : c.evaluateEach N s rule.conditions = .ok f) (holds : f.holds = true)
      (handover : s.handover? rule = some target) (answer : N .experiment target.1 = .ok o) :
    RuleRun (rule :: rest) exposures last
      { outcome := handedOver spec base (exposures ++ f.exposures) target o }
  | remembers {rule rest exposures last f values}
      (found : c.evaluateEach N s rule.conditions = .ok f) (holds : f.holds = true)
      (handover : s.handover? rule = none)
      (recalled : stored.filter (·.ruleId == rule.id) = some values) :
    RuleRun (rule :: rest) exposures last
      { outcome := base.withSticky values (s.details .persisted) }
  | letsIn {rule rest exposures last f} (found : c.evaluateEach N s rule.conditions = .ok f)
      (holds : f.holds = true) (handover : s.handover? rule = none)
      (recalled : stored.filter (·.ruleId == rule.id) = none) (passes : c.passes spec rule = true) :
    RuleRun (rule :: rest) exposures last
      { outcome := { base.withRule rule with exposures := exposures ++ f.exposures }
        isAssignment := true }
  | turnsAway {rule rest exposures last f r} (found : c.evaluateEach N s rule.conditions = .ok f)
      (holds : f.holds = true) (handover : s.handover? rule = none)
      (recalled : stored.filter (·.ruleId == rule.id) = none)
      (passes : c.passes spec rule = false)
      (next : RuleRun rest (exposures ++ f.exposures) (some rule) r) :
    RuleRun (rule :: rest) exposures last r

variable {c s N spec base stored}

theorem ruleRun_of_decideRules {rules : List Rule} {exposures : List SecondaryExposure}
    {last : Option Rule} {r : Ruling}
    (h : c.decideRules N s spec base stored rules exposures last = .ok r) :
    c.RuleRun s N spec base stored rules exposures last r := by
  induction rules generalizing exposures last with
  | nil =>
    cases h
    exact .exhausted
  | cons rule rest ih =>
    unfold decideRules at h
    obtain ⟨f, found, h⟩ := bind_eq_ok h
    cases holds : f.holds with
    | false =>
      simp only [holds] at h
      exact .fails found holds (ih h)
    | true =>
      simp only [holds] at h
      obtain ⟨d, hd, h⟩ := bind_eq_ok h
      rw [delegated?_eq] at hd
      cases handover : s.handover? rule with
      | some target =>
        rw [handover] at hd
        dsimp only at hd
        cases answer : N .experiment target.1 with
        | error e =>
          rw [answer] at hd
          cases hd
        | ok o =>
          rw [answer] at hd
          cases hd
          cases h
          exact .handsOver found holds handover answer
      | none =>
        rw [handover] at hd
        cases hd
        dsimp only at h
        cases recalled : stored.filter (·.ruleId == rule.id) with
        | some values =>
          rw [recalled] at h
          cases h
          exact .remembers found holds handover recalled
        | none =>
          rw [recalled] at h
          dsimp only at h
          cases passes : c.passes spec rule with
          | true =>
            rw [passes] at h
            cases h
            exact .letsIn found holds handover recalled passes
          | false =>
            rw [passes] at h
            exact .turnsAway found holds handover recalled passes (ih h)

theorem decideRules_of_ruleRun {rules : List Rule} {exposures : List SecondaryExposure}
    {last : Option Rule} {r : Ruling} (h : c.RuleRun s N spec base stored rules exposures last r) :
    c.decideRules N s spec base stored rules exposures last = .ok r := by
  induction h with
  | exhausted => rfl
  | fails found holds _ ih =>
    unfold decideRules
    rw [found]
    simpa [bind, Except.bind, holds] using ih
  | handsOver found holds handover answer =>
    unfold decideRules
    rw [found]
    simp [bind, Except.bind, holds, delegated?_eq, handover, answer, Except.map, pure, Except.pure]
  | remembers found holds handover recalled =>
    unfold decideRules
    rw [found]
    simp [bind, Except.bind, holds, delegated?_eq, handover, recalled, pure, Except.pure]
  | letsIn found holds handover recalled passes =>
    unfold decideRules
    rw [found]
    simp [bind, Except.bind, holds, delegated?_eq, handover, recalled, passes, pure, Except.pure]
  | turnsAway found holds handover recalled passes _ ih =>
    unfold decideRules
    rw [found]
    simpa [bind, Except.bind, holds, delegated?_eq, handover, recalled, passes] using ih

/-- The rules are decided by going through them in order. -/
theorem decideRules_eq_ok_iff {rules : List Rule} {exposures : List SecondaryExposure}
    {last : Option Rule} {r : Ruling} :
    c.decideRules N s spec base stored rules exposures last = .ok r ↔
      c.RuleRun s N spec base stored rules exposures last r :=
  ⟨ruleRun_of_decideRules, decideRules_of_ruleRun⟩

/-! ### Rules in order -/

variable (c s) in
/-- Whether a rule whose conditions hold decides: it hands over to an experiment or lets the user
in. -/
def decides (spec : Spec) (rule : Rule) : Bool := (s.handover? rule).isSome || c.passes spec rule

variable (c s) in
/-- The outcome of a rule that decides, given the gates exposed up to it: the outcome that the
experiment has on its own, or the rule's. -/
def decided (spec : Spec) (base : Outcome) (rule : Rule) (exposures : List SecondaryExposure) :
    Outcome :=
  match s.handover? rule with
  | some target => handedOver spec base exposures target (c.outcome .experiment target.1)
  | none => { base.withRule rule with exposures }

theorem decides_eq_false_iff {rule : Rule} :
    c.decides s spec rule = false ↔ s.handover? rule = none ∧ c.passes spec rule = false := by
  unfold decides
  rw [Bool.or_eq_false_iff, Option.isSome_eq_false_iff, Option.isNone_iff_eq_none]

/-- What a rule's conditions come to is what they mean. -/
theorem finding_eq (hN : N.Refines (fun _ => True) c.own) {rule : Rule} {f : Finding}
    (found : c.evaluateEach N s rule.conditions = .ok f) :
    f = ⟨c.ruleHolds s rule, c.ruleExposures s rule⟩ :=
  c.finding_eq_of_evaluateEach s ((refines_evaluateEach (.refl c) hN (.refl s) _).eq_ok found)

variable (c s spec base) in
/-- The outcome is that of the first rule that holds and decides, or there is none and the last rule
that holds names the group, given the exposures and the last rule from before. -/
def DecidedInOrder (rules : List Rule) (exposures : List SecondaryExposure) (last : Option Rule)
    (o : Outcome) : Prop :=
  (∃ before rule after, rules = before ++ rule :: after ∧ c.ruleHolds s rule = true ∧
    c.decides s spec rule = true ∧
    (∀ x ∈ before, c.ruleHolds s x = true → c.decides s spec x = false) ∧
    o = c.decided s spec base rule
      (exposures ++ (before ++ [rule]).flatMap (c.ruleExposures s))) ∨
  (∀ x ∈ rules, c.ruleHolds s x = true → c.decides s spec x = false) ∧
    o = undecided spec (((rules.filter (c.ruleHolds s)).getLast?).or last)
      (exposures ++ rules.flatMap (c.ruleExposures s)) base

theorem DecidedInOrder.head {rule : Rule} {rest : List Rule} {exposures : List SecondaryExposure}
    {last : Option Rule} (holds : c.ruleHolds s rule = true)
    (decides : c.decides s spec rule = true) :
    c.DecidedInOrder s spec base (rule :: rest) exposures last
      (c.decided s spec base rule (exposures ++ c.ruleExposures s rule)) :=
  .inl ⟨[], rule, rest, rfl, holds, decides, by simp, by simp⟩

theorem DecidedInOrder.cons {rule : Rule} {rest : List Rule} {exposures : List SecondaryExposure}
    {last : Option Rule} {o : Outcome}
    (hrule : c.ruleHolds s rule = true → c.decides s spec rule = false)
    (h : c.DecidedInOrder s spec base rest (exposures ++ c.ruleExposures s rule)
      (if c.ruleHolds s rule then some rule else last) o) :
    c.DecidedInOrder s spec base (rule :: rest) exposures last o := by
  rcases h with ⟨before, x, after, rfl, hx, hd, hb, ho⟩ | ⟨hall, ho⟩
  · refine .inl ⟨rule :: before, x, after, rfl, hx, hd, List.forall_mem_cons.2 ⟨hrule, hb⟩, ?_⟩
    simpa using ho
  · refine .inr ⟨List.forall_mem_cons.2 ⟨hrule, hall⟩, ?_⟩
    rw [ho, List.filter_cons, List.flatMap_cons, List.append_assoc]
    cases c.ruleHolds s rule with
    | false => rfl
    | true =>
      simp only [if_true, List.getLast?_cons]
      cases (rest.filter (c.ruleHolds s)).getLast? <;> rfl

/-- A run that meets no stored assignment is decided by the first rule that can. -/
theorem RuleRun.decidedInOrder (hN : N.Refines (fun _ => True) c.own) {rules : List Rule}
    {exposures : List SecondaryExposure} {last : Option Rule} {r : Ruling}
    (h : c.RuleRun s N spec base none rules exposures last r) :
    c.DecidedInOrder s spec base rules exposures last r.outcome := by
  induction h with
  | exhausted => exact .inr ⟨by simp, by simp⟩
  | @fails rule rest exposures last f r found holds _ ih =>
    obtain rfl := finding_eq hN found
    change c.ruleHolds s rule = false at holds
    refine .cons (fun h => absurd h (by simp [holds])) ?_
    rw [holds]
    exact ih
  | @handsOver rule rest exposures last f target o found holds handover answer =>
    obtain rfl := finding_eq hN found
    obtain ⟨o', ho', halike⟩ := (hN .experiment target.1).of_ok answer
    obtain rfl : c.outcome .experiment target.1 = o' := Except.ok.inj ho'
    have hd : c.decides s spec rule = true := by
      unfold decides
      rw [handover]
      rfl
    have ho : c.decided s spec base rule (exposures ++ c.ruleExposures s rule) =
        handedOver spec base (exposures ++ c.ruleExposures s rule) target o := by
      unfold decided
      rw [handover]
      dsimp only
      rw [halike]
      rfl
    dsimp only
    rw [← ho]
    exact .head holds hd
  | remembers found holds handover recalled => cases recalled
  | @letsIn rule rest exposures last f found holds handover recalled passes =>
    obtain rfl := finding_eq hN found
    have hd : c.decides s spec rule = true := by
      unfold decides
      rw [passes, Bool.or_true]
    have ho : c.decided s spec base rule (exposures ++ c.ruleExposures s rule) =
        { base.withRule rule with exposures := exposures ++ c.ruleExposures s rule } := by
      unfold decided
      rw [handover]
    dsimp only
    rw [← ho]
    exact .head holds hd
  | @turnsAway rule rest exposures last f r found holds handover recalled passes _ ih =>
    obtain rfl := finding_eq hN found
    change c.ruleHolds s rule = true at holds
    refine .cons (fun _ => decides_eq_false_iff.2 ⟨handover, passes⟩) ?_
    rw [holds]
    exact ih

/-! ### Entities -/

variable {kind : EntityKind} {name : String}

theorem entrance_eq_rules (hs : c.snapshot = some s)
    (hentry : s.payload.entry? kind name = some (.parsed spec)) (henabled : spec.enabled = true)
    (hforced : c.overrides.resolve? kind name c.user (some spec) = none) :
    c.entrance kind name = .rules s spec := by
  unfold entrance
  simp only [hs, hentry, Option.bind_some, Entry.get?, hforced, henabled, if_true]

/-- An evaluation that halts says so. -/
theorem halted_reason (hs : c.snapshot = some s) (h : Halt) :
    (c.halted h).details.reason = .unsupported s.source ∨
      (c.halted h).details.reason = .error := by
  unfold halted
  rw [hs]
  cases h with
  | unsupported => exact .inl rfl
  | depthExceeded => exact .inr rfl

/-- Without stored assignments an entity with rules is decided by these alone. -/
theorem evaluateWith_none_eq (hentrance : c.entrance kind name = .rules s spec) (requested : Bool) :
    (c.evaluateWith none requested kind name).1 =
      match c.evaluateRules (c.evaluateNested maxNesting) s spec none with
      | .ok r => r.outcome
      | .error h => c.halted h := by
  unfold evaluateWith evaluate
  rw [hentrance]
  dsimp only [Option.map_none]
  cases c.evaluateRules (c.evaluateNested maxNesting) s spec none <;> rfl

theorem decidedInOrder_of_not_halted (hs : c.snapshot = some s)
    (hentrance : c.entrance kind name = .rules s spec) {requested : Bool}
    (hsupported : (c.evaluateWith none requested kind name).1.details.reason ≠
      .unsupported s.source)
    (hdepth : (c.evaluateWith none requested kind name).1.details.reason ≠ .error) :
    c.DecidedInOrder s spec (.ofSpec spec (s.details (.recognized s.source))) spec.rules [] none
      (c.evaluateWith none requested kind name).1 := by
  rw [evaluateWith_none_eq hentrance] at hsupported hdepth ⊢
  cases hrun : c.evaluateRules (c.evaluateNested maxNesting) s spec none with
  | error h =>
    rw [hrun] at hsupported hdepth
    exact (halted_reason hs h).elim (absurd · hsupported) (absurd · hdepth)
  | ok r => exact (decideRules_eq_ok_iff.1 hrun).decidedInOrder (c.refines_own (Nat.le_succ _))

theorem undecided_eq (last : Option Rule) (exposures : List SecondaryExposure) (spec : Spec)
    {base : Outcome} (hgroup : base.groupName = none) (hflag : base.isExperimentGroup = false) :
    undecided spec last exposures base =
      { base with
        value := spec.defaultValue.fallback, members := spec.defaultValue.members,
        ruleId := (last.map (·.id)).getD Outcome.defaultRuleId,
        groupName := last.bind (·.groupName),
        isExperimentGroup := (last.bind (·.isExperimentGroup)).getD false, exposures } := by
  unfold undecided
  cases last with
  | some rule => rfl
  | none => simp [Outcome.withDefault, hgroup, hflag]

/-- An entity that is switched on and not overridden is decided by the first of its rules that holds
and decides: one that hands over takes the experiment's outcome, with its members over the default
ones, and one that lets the user in gives its own value. If there is none, the default value counts,
in the group of the last rule that holds. What is exposed are the gates of the rules up to the one
that decides. -/
theorem outcome_decided_by_rules (requested : Bool) (hs : c.snapshot = some s)
    (hentry : s.payload.entry? kind name = some (.parsed spec)) (henabled : spec.enabled = true)
    (hforced : c.overrides.resolve? kind name c.user (some spec) = none)
    (hsupported : (c.evaluateWith none requested kind name).1.details.reason ≠
      .unsupported s.source)
    (hdepth : (c.evaluateWith none requested kind name).1.details.reason ≠ .error) :
    let o := (c.evaluateWith none requested kind name).1
    let base := Outcome.ofSpec spec (s.details (.recognized s.source))
    let matching := spec.rules.filter (c.ruleHolds s)
    (∃ before rule after, spec.rules = before ++ rule :: after ∧ c.ruleHolds s rule = true ∧
      ((s.handover? rule).isSome ∨ c.passes spec rule = true) ∧
      (∀ x ∈ before, c.ruleHolds s x = true →
        s.handover? x = none ∧ c.passes spec x = false) ∧
      let exposures := (before ++ [rule]).flatMap (c.ruleExposures s)
      o = match s.handover? rule with
        | some (delegate, experiment) =>
          let own := c.outcome .experiment delegate
          { base with
            value := own.value, members := spec.defaultValue.members.overlay own.members,
            ruleId := own.ruleId, groupName := own.groupName,
            isExperimentGroup := own.isExperimentGroup,
            isExperimentActive := own.isExperimentActive, delegate := some delegate,
            explicitParameters := experiment.explicitParameters.getD [],
            exposures := exposures ++ own.exposures, undelegatedExposures := some exposures }
        | none =>
          { base with
            value := rule.returnValue.passing, members := rule.returnValue.members,
            ruleId := rule.id, groupName := rule.groupName,
            isExperimentGroup := rule.isExperimentGroup.getD false, exposures }) ∨
    (∀ x ∈ matching, s.handover? x = none ∧ c.passes spec x = false) ∧
      o = { base with
        value := spec.defaultValue.fallback, members := spec.defaultValue.members,
        ruleId := (matching.getLast?.map (·.id)).getD "default",
        groupName := matching.getLast?.bind (·.groupName),
        isExperimentGroup := (matching.getLast?.bind (·.isExperimentGroup)).getD false,
        exposures := spec.rules.flatMap (c.ruleExposures s) } := by
  intro o base matching
  have hentrance := entrance_eq_rules hs hentry henabled hforced
  rcases decidedInOrder_of_not_halted hs hentrance hsupported hdepth with
    ⟨before, rule, after, hrules, hholds, hdecides, hbefore, ho⟩ | ⟨hall, ho⟩
  · refine .inl ⟨before, rule, after, hrules, hholds, ?_, ?_, ?_⟩
    · unfold decides at hdecides
      rwa [Bool.or_eq_true] at hdecides
    · exact fun x hx h => decides_eq_false_iff.1 (hbefore x hx h)
    · show o = _
      rw [show o = _ from ho]
      unfold decided
      cases s.handover? rule <;> rfl
  · refine .inr ⟨?_, ?_⟩
    · intro x hx
      obtain ⟨hx, hholds⟩ := List.mem_filter.1 hx
      exact decides_eq_false_iff.1 (hall x hx hholds)
    · rw [show o = _ from ho, undecided_eq _ _ _ rfl rfl, Option.or_none]
      rfl

end Context

/-! ### A page that hands over -/

namespace Allocation

/-- A gate that lets everyone in. -/
def staff : Spec :=
  { salt := "staff", defaultValue := .bool false, enabled := true
    rules := [{ id := "all", passPercentage := .ofInt 100, returnValue := .bool true
                conditions := [.leaf { kind := .everyone }] }] }

/-- An experiment with one group. -/
def colors : Spec :=
  { salt := "colors", defaultValue := .object ∅, enabled := true, isActive := some true
    rules := [{ id := "blue", passPercentage := .ofInt 100
                returnValue := .object (.ofList [("color", .text "blue")])
                groupName := some "Blue" }] }

/-- A layer that lets no one in by itself, and hands users who pass the gate over to the
experiment. -/
def page : Spec :=
  { salt := "page", defaultValue := .object (.ofList [("color", .text "grey")]), enabled := true
    rules := [{ id := "closed", passPercentage := .ofInt 0, returnValue := .object ∅ },
      { id := "allocate", passPercentage := .ofInt 0, returnValue := .object ∅
        conditions := [.leaf { kind := .passGate, target := some (.text "staff") }]
        delegate := some "colors" }] }

/-- The specs of these three. -/
def specs : Snapshot :=
  { payload :=
      { featureGates := .ofList [("staff", .parsed staff)]
        dynamicConfigs := .ofList [("colors", .parsed colors)]
        layers := .ofList [("page", .parsed page)] }
    idLists := ∅, source := .network, lcut := 1, receivedAt := 1 }

/-- A user who sees the snapshot. -/
def visitor : Context :=
  { user := .withUserId "u", snapshot := some specs, overrides := {}, now := 1 }

theorem outcome_decided_by_rules_page :
    let o := (visitor.evaluateWith none false .layer "page").1
    ∃ before rule after, page.rules = before ++ rule :: after ∧
      visitor.ruleHolds specs rule = true ∧ (specs.handover? rule).isSome ∧ o.ruleId = "blue" ∧
      o.exposures = [⟨"staff", "true", "all"⟩] := by
  have hspecs : visitor.snapshot = some specs := rfl
  have hentry : specs.payload.entry? .layer "page" = some (.parsed page) := rfl
  have hreason : (visitor.evaluateWith none false .layer "page").1.details.reason =
      .recognized .network := by decide +kernel
  rcases Context.outcome_decided_by_rules false hspecs hentry rfl rfl (by simp [hreason])
    (by simp [hreason]) with ⟨before, rule, after, hrules, hholds, hdecides, -, -⟩ | ⟨hall, -⟩
  · have hclosed : page.rules.all (!visitor.passes page ·) = true := by decide +kernel
    rw [hrules, List.all_append, List.all_cons] at hclosed
    have hsome : (specs.handover? rule).isSome := by
      rcases hdecides with h | h
      · exact h
      · simp [h] at hclosed
    exact ⟨before, rule, after, hrules, hholds, hsome, by decide +kernel, by decide +kernel⟩
  · have hgroup : (specs.handover? page.rules[1]).isSome := by decide +kernel
    have hmatching : page.rules[1] ∈ page.rules.filter (visitor.ruleHolds specs) :=
      List.mem_filter.2 ⟨List.getElem_mem _, by decide +kernel⟩
    rw [(hall _ hmatching).1] at hgroup
    cases hgroup

end Allocation

end Rollout
