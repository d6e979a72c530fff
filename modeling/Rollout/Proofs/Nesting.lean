import Rollout.Proofs.Yield

/-!
# Nested evaluations

Within an evaluation other entities are evaluated with a smaller budget. Whatever comes of it shows
in the outcome as if these entities had been evaluated on their own: every gate that is exposed has
the value and the rule that it has on its own (`Context.Truthful`), and what is taken over from an
experiment is what the experiment comes to on its own (`Outcome.TakenFrom`).
-/

namespace Rollout

/-- The outcome was taken over from an experiment, with the experiment's members over the given
ones. -/
structure Outcome.TakenFrom (o own : Outcome) (defaults : Dict Json) : Prop where
  value : o.value = own.value
  ruleId : o.ruleId = own.ruleId
  groupName : o.groupName = own.groupName
  isExperimentGroup : o.isExperimentGroup = own.isExperimentGroup
  isExperimentActive : o.isExperimentActive = own.isExperimentActive
  members : o.members = defaults.overlay own.members

namespace Context

variable (c : Context)

/-- The exposure says of the gate what the gate comes to on its own, and the gate is no part of
another. -/
structure Truthful (x : SecondaryExposure) : Prop where
  value : x.gateValue = if (c.outcome .gate x.gate).value then "true" else "false"
  ruleId : x.ruleId = (c.outcome .gate x.gate).ruleId
  exposed : segmentStart.isPrefixOf x.gate = false

/-- What is answered exposes truthfully. -/
def AnswersTruthfully (N : NestedEvaluation) : Prop :=
  ∀ kind name, Yields (fun _ => True) (fun o => ∀ x ∈ o.exposures, c.Truthful x) (N kind name)

variable {c} {N : NestedEvaluation} {s : Snapshot}

/-! ### Exposures -/

theorem truthful_gateFinding (hN : N.Refines (fun _ => True) c.own) (hX : c.AnswersTruthfully N)
    (target : Option Json) (negated : Bool) :
    Yields (fun _ => True) (Finding.Exposes c.Truthful) (gateFinding N target negated) := by
  unfold gateFinding
  cases target.bind Json.text? with
  | none => exact trivial
  | some gate =>
    dsimp only
    cases ho : N .gate gate with
    | error e => exact trivial
    | ok o =>
      obtain ⟨own, hown, halike⟩ := (hN .gate gate).of_ok ho
      obtain rfl : c.outcome .gate gate = own := Except.ok.inj hown
      refine List.forall_mem_append.2 ⟨(hX .gate gate).of_ok ho, fun x hx => ?_⟩
      split at hx
      · cases hx
      · next hsegment =>
        obtain rfl := List.mem_singleton.1 hx
        refine ⟨?_, ?_, Bool.eq_false_iff.2 hsegment⟩
        · show (if o.value then "true" else "false") = _
          rw [halike]
        · show o.ruleId = _
          rw [halike]

theorem truthful_evaluateTip (hN : N.Refines (fun _ => True) c.own) (hX : c.AnswersTruthfully N)
    (tip : ConditionTip) :
    Yields (fun _ => True) (Finding.Exposes c.Truthful) (c.evaluateTip N s tip) := by
  unfold evaluateTip
  cases s.conditionAt? tip with
  | none => exact trivial
  | some condition =>
    exact yields_evaluateCondition (fun _ => trivial) fun _ => truthful_gateFinding hN hX _

variable {spec : Spec} {base : Outcome} {rules : List Rule} {exposures : List SecondaryExposure}
  {last : Option Rule} {r : Ruling}

/-- A run over rules that meets no stored assignment adds none but truthful exposures. -/
theorem RuleRun.truthful (hN : N.Refines (fun _ => True) c.own) (hX : c.AnswersTruthfully N)
    (h : c.RuleRun s N spec base none rules exposures last r)
    (hexposures : ∀ x ∈ exposures, c.Truthful x) : ∀ x ∈ r.outcome.exposures, c.Truthful x := by
  have hadd : ∀ {exposures : List SecondaryExposure} {l : List ConditionNode} {f : Finding},
      c.evaluateEach N s l = .ok f → (∀ x ∈ exposures, c.Truthful x) →
      ∀ x ∈ exposures ++ f.exposures, c.Truthful x := fun found hexposures =>
    List.forall_mem_append.2 ⟨hexposures,
      (yields_evaluateEach fun tip _ => truthful_evaluateTip hN hX tip).of_ok found⟩
  induction h with
  | exhausted => exact hexposures
  | fails found _ _ ih => exact ih (hadd found hexposures)
  | handsOver found _ _ answer =>
    exact List.forall_mem_append.2 ⟨hadd found hexposures, (hX _ _).of_ok answer⟩
  | remembers _ _ _ recalled => cases recalled
  | letsIn found _ _ _ _ => exact hadd found hexposures
  | turnsAway found _ _ _ _ _ ih => exact ih (hadd found hexposures)

/-- What a run over rules exposes before it hands over to an experiment, it exposes altogether. -/
theorem RuleRun.undelegated_subset (h : c.RuleRun s N spec base none rules exposures last r)
    (hbase : base.undelegatedExposures = none) :
    ∀ x ∈ r.outcome.undelegatedExposures.getD [], x ∈ r.outcome.exposures := by
  have hnone {o : Outcome} (ho : o.undelegatedExposures = none) :
      ∀ x ∈ o.undelegatedExposures.getD [], x ∈ o.exposures := by
    rw [ho]
    exact fun _ hx => absurd hx List.not_mem_nil
  induction h with
  | @exhausted exposures last => exact hnone (by cases last <;> exact hbase)
  | fails _ _ _ ih => exact ih
  | handsOver => exact fun _ hx => List.mem_append_left _ hx
  | remembers _ _ _ recalled => cases recalled
  | letsIn => exact hnone hbase
  | turnsAway _ _ _ _ _ _ ih => exact ih

/-- Nested evaluations expose gates as these are on their own, whatever the budget. -/
theorem answersTruthfully_evaluateNested {budget : Nat} (h : budget ≤ maxNesting + 1) :
    c.AnswersTruthfully (c.evaluateNested budget) := by
  induction budget with
  | zero => exact fun _ _ => trivial
  | succ budget ih =>
    have hbudget : budget ≤ maxNesting + 1 := Nat.le_of_succ_le h
    intro kind name
    rw [evaluateNested_eq]
    cases hentrance : c.entrance kind name with
    | settled o =>
      show ∀ x ∈ o.exposures, _
      rw [(of_entrance_settled hentrance).1.exposures]
      exact fun _ hx => absurd hx List.not_mem_nil
    | unreadable => exact trivial
    | rules s spec =>
      dsimp only
      cases hrun : c.evaluateRules (c.evaluateNested budget) s spec none with
      | error e => exact trivial
      | ok r =>
        exact (decideRules_eq_ok_iff.1 hrun).truthful (c.refines_own hbudget) (ih hbudget)
          fun _ hx => absurd hx List.not_mem_nil

/-! ### Experiments handed over to -/

/-- What a run over rules has taken over from an experiment is what that comes to on its own. -/
theorem RuleRun.takenFrom (hN : N.Refines (fun _ => True) c.own)
    (h : c.RuleRun s N spec base none rules exposures last r) (hbase : base.delegate = none)
    {experiment : String} (hdelegate : r.outcome.delegate = some experiment) :
    r.outcome.TakenFrom (c.outcome .experiment experiment) spec.defaultValue.members := by
  induction h with
  | @exhausted exposures last => cases last <;> exact absurd hdelegate (by simp [hbase, undecided,
      Outcome.withDefault, Outcome.withGroup])
  | fails _ _ _ ih => exact ih hdelegate
  | handsOver _ _ _ answer =>
    obtain ⟨own, hown, halike⟩ := (hN .experiment _).of_ok answer
    obtain rfl := Except.ok.inj hown
    cases hdelegate
    rw [halike]
    exact ⟨rfl, rfl, rfl, rfl, rfl, rfl⟩
  | remembers _ _ _ recalled => cases recalled
  | letsIn => exact absurd hdelegate (by simp [hbase, Outcome.withRule, Outcome.withGroup])
  | turnsAway _ _ _ _ _ _ ih => exact ih hdelegate

/-! ### Outcomes -/

variable {kind : EntityKind} {name : String}

/-- An evaluation without stored assignments comes out bare, or with what the rules come to. -/
theorem evaluateWith_none_cases (requested : Bool) {o : Outcome}
    (ho : (c.evaluateWith none requested kind name).1 = o) :
    o.IsBare ∨ ∃ s spec r, c.entrance kind name = .rules s spec ∧ o = r.outcome ∧
      c.RuleRun s (c.evaluateNested maxNesting) spec
        (.ofSpec spec (s.details (.recognized s.source))) none spec.rules [] none r := by
  cases hentrance : c.entrance kind name with
  | settled o' =>
    obtain rfl : o' = o := (evaluate_of_settled hentrance).symm.trans ho
    exact .inl (of_entrance_settled hentrance).1
  | unreadable =>
    obtain rfl : c.halted .unsupported = o := (evaluate_of_unreadable hentrance).symm.trans ho
    exact .inl (isBare_halted c _)
  | rules s spec =>
    rw [evaluateWith_none_eq hentrance] at ho
    cases hrun : c.evaluateRules (c.evaluateNested maxNesting) s spec none with
    | error h =>
      rw [hrun] at ho
      exact .inl (ho ▸ isBare_halted c h)
    | ok r =>
      rw [hrun] at ho
      exact .inr ⟨s, spec, r, rfl, ho.symm, decideRules_eq_ok_iff.1 hrun⟩

/-- An outcome exposes only gates that are no parts of others, each with the value and the rule that
it has when it is evaluated on its own; this is so of the undelegated exposures, too. If it was
taken over from an experiment, it has the value, the rule and the group that the experiment has when
it is evaluated on its own, and the members of the experiment over the default ones of the spec. -/
theorem outcome_agrees_with_own (c : Context) (requested : Bool) (kind : EntityKind)
    (name : String) :
    let o := (c.evaluateWith none requested kind name).1
    (∀ x ∈ o.exposures ++ o.undelegatedExposures.getD [],
      let own := (c.evaluateWith none false .gate x.gate).1
      x.gateValue = (if own.value then "true" else "false") ∧ x.ruleId = own.ruleId ∧
        "segment:".isPrefixOf x.gate = false) ∧
    ∀ experiment, o.delegate = some experiment →
      let own := (c.evaluateWith none false .experiment experiment).1
      o.value = own.value ∧ o.ruleId = own.ruleId ∧ o.groupName = own.groupName ∧
        o.isExperimentGroup = own.isExperimentGroup ∧
        o.isExperimentActive = own.isExperimentActive ∧
        ∃ spec, c.snapshot.bind (·.spec? (kind, name)) = some spec ∧
          o.members = spec.defaultValue.members.overlay own.members := by
  intro o
  rcases evaluateWith_none_cases requested (o := o) rfl with
    hbare | ⟨s, spec, r, hentrance, ho, hrun⟩
  · rw [hbare.exposures, hbare.undelegated, hbare.delegate]
    exact ⟨fun _ hx => absurd hx List.not_mem_nil, fun _ hx => by cases hx⟩
  · have hN := c.refines_own (Nat.le_succ maxNesting)
    rw [ho]
    refine ⟨fun x hx => ?_, fun experiment hdelegate => ?_⟩
    · have hmem : x ∈ r.outcome.exposures :=
        (List.mem_append.1 hx).elim id (hrun.undelegated_subset rfl x)
      have htruthful := hrun.truthful hN (answersTruthfully_evaluateNested (Nat.le_succ _))
        (fun _ hx => absurd hx List.not_mem_nil) x hmem
      exact ⟨htruthful.value, htruthful.ruleId, htruthful.exposed⟩
    · obtain ⟨hs, hentry⟩ := of_entrance_rules hentrance
      have htaken := hrun.takenFrom hN rfl hdelegate
      refine ⟨htaken.value, htaken.ruleId, htaken.groupName, htaken.isExperimentGroup,
        htaken.isExperimentActive, spec, ?_, htaken.members⟩
      rw [hs]
      exact Snapshot.spec?_of_parsed hentry

end Context

end Rollout
