import Mathlib.Data.List.Forall2
import Rollout.Proofs.RuleOrder

/-!
# Changes of shares

Two snapshots may differ in nothing but the shares of users that the rules of one experiment let in
(`Snapshot.SameButShares`). Evaluations of other entities then come out alike, as long as the
experiment is not evaluated on the way (`Context.refines_seeing`).

A rule that lets the user in is reached without evaluating the experiment within itself, or the
evaluation would not have ended (`Context.exists_budget_assignedBy`). So the conditions of the rules
up to it come to the same under all shares: the rule stays within reach
(`Context.staysInReach_of_isAssignment`).
-/

namespace Rollout

/-! ### Changes of shares -/

/-- The rules differ at most in the share of users that they let in. -/
def Rule.SameButShare (r r' : Rule) : Prop := r' = { r with passPercentage := r'.passPercentage }

/-- The specs differ at most in the shares of users that their rules let in. -/
structure Spec.SameButShares (spec spec' : Spec) : Prop where
  rules : List.Forall₂ Rule.SameButShare spec.rules spec'.rules
  rest : spec' = { spec with rules := spec'.rules }

/-- All that evaluations depend on is the same in the snapshots, but for the shares of users that
the rules of one experiment let in. -/
structure Snapshot.SameButShares (name : String) (s s' : Snapshot) : Prop where
  idLists : s'.idLists = s.idLists
  conditions : s'.payload.conditions = s.payload.conditions
  featureGates : s'.payload.featureGates = s.payload.featureGates
  layers : s'.payload.layers = s.payload.layers
  others : ∀ other, other ≠ name →
    s'.payload.dynamicConfigs.get? other = s.payload.dynamicConfigs.get? other
  experiment : ∃ spec spec', s.payload.dynamicConfigs.get? name = some (.parsed spec) ∧
    s'.payload.dynamicConfigs.get? name = some (.parsed spec') ∧ spec.SameButShares spec'

namespace Snapshot.SameButShares

variable {name : String} {s s' : Snapshot}

theorem entry?_eq (h : s.SameButShares name s') {kind : EntityKind} {other : String}
    (hother : other = name → kind = .gate ∨ kind = .layer) :
    s'.payload.entry? kind other = s.payload.entry? kind other := by
  unfold Payload.entry?
  cases kind with
  | gate => rw [h.featureGates]
  | layer => rw [h.layers]
  | dynamicConfig => exact h.others other fun e => by simpa using hother e
  | experiment => exact h.others other fun e => by simpa using hother e

theorem refl {spec : Spec} (hspec : s.payload.dynamicConfigs.get? name = some (.parsed spec)) :
    s.SameButShares name s where
  idLists := rfl
  conditions := rfl
  featureGates := rfl
  layers := rfl
  others _ _ := rfl
  experiment := ⟨spec, spec, hspec, hspec, List.forall₂_same.2 fun _ _ => rfl, rfl⟩

/-- The experiment of both snapshots. -/
theorem spec (h : s.SameButShares name s') {spec : Spec}
    (hspec : s.payload.dynamicConfigs.get? name = some (.parsed spec)) :
    ∃ spec', s'.payload.dynamicConfigs.get? name = some (.parsed spec') ∧
      spec.SameButShares spec' := by
  obtain ⟨spec₁, spec', h₁, h', hsame⟩ := h.experiment
  rw [hspec] at h₁
  cases h₁
  exact ⟨spec', h', hsame⟩

theorem agrees (h : s.SameButShares name s') : s.Agrees s' where
  idLists := h.idLists
  conditions := h.conditions
  parameters other := by
    unfold Snapshot.experiment?
    by_cases hother : other = name
    · subst hother
      obtain ⟨spec, spec', hspec, hspec', hsame⟩ := h.experiment
      rw [hspec, hspec']
      show some spec'.explicitParameters = some spec.explicitParameters
      rw [hsame.rest]
    · rw [h.others other hother]

end Snapshot.SameButShares

/-- The outcome has the id, the value and the group of the rule. -/
structure Outcome.IsOf (o : Outcome) (rule : Rule) : Prop where
  ruleId : o.ruleId = rule.id
  value : o.value = rule.returnValue.passing
  members : o.members = rule.returnValue.members
  groupName : o.groupName = rule.groupName

theorem Outcome.IsOf.alike {o o' : Outcome} {rule : Rule} (h : o.IsOf rule) (h' : o.Alike o') :
    o'.IsOf rule := by
  rw [h']
  exact ⟨h.ruleId, h.value, h.members, h.groupName⟩

theorem exists_of_forall₂_append_cons {α : Type} {R : α → α → Prop} {l m : List α} {a : α}
    {l' : List α} (h : List.Forall₂ R (l ++ a :: m) l') :
    ∃ k b n, l' = k ++ b :: n ∧ List.Forall₂ R l k ∧ R a b := by
  induction l generalizing l' with
  | nil =>
    cases h with
    | cons hab _ => exact ⟨[], _, _, rfl, .nil, hab⟩
  | cons x l ih =>
    cases h with
    | cons hx hrest =>
      obtain ⟨k, b, n, rfl, hl, hab⟩ := ih hrest
      exact ⟨_ :: k, b, n, rfl, .cons hx hl, hab⟩

namespace Context

variable (c : Context)

/-- The context with another snapshot. -/
def seeing (s : Snapshot) : Context := { c with snapshot := some s }

theorem seeing_alike (s s' : Snapshot) : (c.seeing s).Alike (c.seeing s') := rfl

variable {c} {name : String} {s s' : Snapshot}

/-! ### What does not depend on shares -/

theorem resolve?_eq_none (hforced : c.overrides.entries = []) (kind : EntityKind) (name : String)
    (spec : Option Spec) : c.overrides.resolve? kind name c.user spec = none := by
  unfold Overrides.resolve? Overrides.get?
  rw [List.findSome?_eq_none_iff, hforced]
  exact fun _ _ => rfl

section Entrance

variable {kind : EntityKind} (hforced : c.overrides.entries = [])

include hforced

theorem entrance_of_none (h : s.payload.entry? kind name = none) :
    (c.seeing s).entrance kind name = .settled (.empty (s.details (.unrecognized s.source))) := by
  unfold entrance seeing
  simp only [resolve?_eq_none hforced, Option.bind_some, h]

theorem entrance_of_failed {raw : Json} (h : s.payload.entry? kind name = some (.failed raw)) :
    (c.seeing s).entrance kind name = .unreadable := by
  unfold entrance seeing
  simp only [resolve?_eq_none hforced, Option.bind_some, h]

theorem entrance_of_parsed {spec : Spec} (h : s.payload.entry? kind name = some (.parsed spec)) :
    (c.seeing s).entrance kind name = if spec.enabled then .rules s spec
      else .settled ((Outcome.ofSpec spec (s.details (.recognized s.source))).withDefault spec
        Outcome.disabledRuleId) := by
  unfold entrance seeing
  simp only [resolve?_eq_none hforced, Option.bind_some, h]

/-- Experiments and dynamic configs are looked up alike. -/
theorem entrance_dynamicConfig :
    (c.seeing s).entrance .dynamicConfig name = (c.seeing s).entrance .experiment name := by
  unfold entrance seeing
  simp only [resolve?_eq_none hforced]
  rfl

theorem entrance_experiment {spec : Spec}
    (hspec : s.payload.dynamicConfigs.get? name = some (.parsed spec))
    (henabled : spec.enabled = true) :
    (c.seeing s).entrance .experiment name = .rules s spec := by
  have hentry : s.payload.entry? .experiment name = some (.parsed spec) := hspec
  rw [entrance_of_parsed hforced hentry, if_pos henabled]

theorem of_entrance_experiment {spec spec' : Spec}
    (hspec : s.payload.dynamicConfigs.get? name = some (.parsed spec))
    (h : (c.seeing s).entrance .experiment name = .rules s' spec') :
    s' = s ∧ spec' = spec ∧ spec.enabled = true := by
  have hentry : s.payload.entry? .experiment name = some (.parsed spec) := hspec
  rw [entrance_of_parsed hforced hentry] at h
  split at h
  · next henabled =>
    cases h
    exact ⟨rfl, rfl, henabled⟩
  · cases h

end Entrance

/-- As long as the experiment is not evaluated within itself, other entities come out alike under
any share. -/
theorem refines_seeing (hforced : c.overrides.entries = []) (h : s.SameButShares name s')
    (budget : Nat)
    (hself : ∀ o, (c.seeing s).evaluateNested budget .experiment name ≠ .ok o) :
    ((c.seeing s).evaluateNested budget).Refines (fun _ => True)
      ((c.seeing s').evaluateNested budget) := by
  induction budget with
  | zero => exact fun _ _ => .inl trivial
  | succ budget ih =>
    have hself' : ∀ o, (c.seeing s).evaluateNested budget .experiment name ≠ .ok o := by
      intro o ho
      obtain ⟨o', ho', -⟩ := ((c.seeing s).evaluateNested_succ budget .experiment name).of_ok ho
      exact hself o' ho'
    intro kind other
    by_cases hother : other = name → kind = .gate ∨ kind = .layer
    · have hentry := h.entry?_eq hother
      rw [evaluateNested_eq, evaluateNested_eq]
      rcases hs : s.payload.entry? kind other with _ | spec | raw
      · rw [entrance_of_none hforced hs, entrance_of_none hforced (hentry.trans hs)]
        exact .ok rfl
      · rw [entrance_of_parsed hforced hs, entrance_of_parsed hforced (hentry.trans hs)]
        cases spec.enabled with
        | false => exact .ok rfl
        | true =>
          exact (refines_evaluateRules (seeing_alike c s s') (ih hself') h.agrees spec none).map
            fun r r' hr => hr.1
      · rw [entrance_of_failed hforced hs, entrance_of_failed hforced (hentry.trans hs)]
        exact .error _
    · -- The experiment itself does not come out with this budget, so nothing is asked of it.
      rw [Classical.not_imp, not_or] at hother
      obtain ⟨rfl, hgate, hlayer⟩ := hother
      have heq : (c.seeing s).evaluateNested (budget + 1) kind other =
          (c.seeing s).evaluateNested (budget + 1) .experiment other := by
        cases kind with
        | gate => exact absurd rfl hgate
        | layer => exact absurd rfl hlayer
        | dynamicConfig => rw [evaluateNested_eq, evaluateNested_eq, entrance_dynamicConfig hforced]
        | experiment => rfl
      rw [heq]
      cases ho : (c.seeing s).evaluateNested (budget + 1) .experiment other with
      | ok o => exact absurd ho (hself o)
      | error e => exact .inl trivial

/-! ### The rules up to an assignment -/

section Assignment

variable {N N' : NestedEvaluation} {spec : Spec} {base : Outcome} {stored : Option StickyValues}
  {rules : List Rule} {exposures : List SecondaryExposure} {last : Option Rule} {r : Ruling}

/-- A rule that lets the user in does so whatever is stored of other rules. -/
theorem RuleRun.forget (h : c.RuleRun s N spec base stored rules exposures last r)
    (hr : r.isAssignment = true) : c.RuleRun s N spec base none rules exposures last r := by
  induction h with
  | exhausted => exact .exhausted
  | fails found holds _ ih => exact .fails found holds (ih hr)
  | handsOver found holds handover answer => exact .handsOver found holds handover answer
  | remembers => cases hr
  | letsIn found holds handover _ passes => exact .letsIn found holds handover rfl passes
  | turnsAway found holds handover _ passes _ ih =>
    exact .turnsAway found holds handover rfl passes (ih hr)

variable (c s N) in
/-- The conditions of the rule come to something, and the rule does not hand over if they hold. -/
def Clear (rule : Rule) : Prop :=
  ∃ f, c.evaluateEach N s rule.conditions = .ok f ∧ (f.holds = true → s.handover? rule = none)

variable (c s N spec) in
/-- The outcome is that of a rule which holds and lets the user in, and the rules up to it are
clear. -/
def AssignedBy (rules : List Rule) (o : Outcome) : Prop :=
  ∃ before rule after, rules = before ++ rule :: after ∧ (∀ x ∈ before ++ [rule], c.Clear s N x) ∧
    (∃ f, c.evaluateEach N s rule.conditions = .ok f ∧ f.holds = true) ∧
    c.passes spec rule = true ∧ o.IsOf rule

theorem AssignedBy.cons {rule : Rule} {o : Outcome} (hrule : c.Clear s N rule)
    (h : c.AssignedBy s N spec rules o) : c.AssignedBy s N spec (rule :: rules) o := by
  obtain ⟨before, x, after, rfl, hclear, hx⟩ := h
  exact ⟨rule :: before, x, after, rfl, List.forall_mem_cons.2 ⟨hrule, hclear⟩, hx⟩

theorem RuleRun.assignedBy (h : c.RuleRun s N spec base stored rules exposures last r)
    (hr : r.isAssignment = true) : c.AssignedBy s N spec rules r.outcome := by
  induction h with
  | exhausted => cases hr
  | fails found holds _ ih => exact (ih hr).cons ⟨_, found, fun h => absurd h (by simp [holds])⟩
  | handsOver => cases hr
  | remembers => cases hr
  | @letsIn rule rest _ _ _ found holds handover _ passes =>
    refine ⟨[], rule, rest, rfl, ?_, ⟨_, found, holds⟩, passes, rfl, rfl, rfl, rfl⟩
    simpa using ⟨_, found, fun _ => handover⟩
  | turnsAway found holds handover _ _ _ ih => exact (ih hr).cons ⟨_, found, fun _ => handover⟩

end Assignment

/-! ### Assignments under other shares -/

theorem Clear.mono {c' : Context} {N N' : NestedEvaluation} (hc : c.Alike c')
    (hN : N.Refines (fun _ => True) N') (hs : s.Agrees s') {rule rule' : Rule}
    (hrule : rule.SameButShare rule') (h : c.Clear s N rule) : c'.Clear s' N' rule' := by
  obtain ⟨f, found, handover⟩ := h
  refine ⟨f, ?_, fun holds => ?_⟩
  · rw [hrule]
    exact (refines_evaluateEach hc hN hs rule.conditions).eq_ok found
  · have hsome := hs.handover?_isSome rule
    rw [handover holds, Option.isSome_none, Option.isSome_eq_false_iff,
      Option.isNone_iff_eq_none] at hsome
    rw [hrule]
    exact hsome

theorem clear_of_forall₂ {c' : Context} {N N' : NestedEvaluation} (hc : c.Alike c')
    (hN : N.Refines (fun _ => True) N') (hs : s.Agrees s') {rules rules' : List Rule}
    (hrules : List.Forall₂ Rule.SameButShare rules rules') (h : ∀ x ∈ rules, c.Clear s N x) :
    ∀ x ∈ rules', c'.Clear s' N' x := by
  induction hrules with
  | nil => simp
  | cons hrule _ ih =>
    rw [List.forall_mem_cons] at h ⊢
    exact ⟨h.1.mono hc hN hs hrule, ih h.2⟩

variable (c name s) in
/-- Under all shares the rule is within reach: it holds, and the rules up to it are clear. -/
def StaysInReach (rule : Rule) : Prop :=
  ∀ s' spec', s.SameButShares name s' →
    s'.payload.dynamicConfigs.get? name = some (.parsed spec') →
    ∃ before rule' after, spec'.rules = before ++ rule' :: after ∧ rule'.id = rule.id ∧
      (c.seeing s').ruleHolds s' rule' = true ∧
      ∀ x ∈ before ++ [rule'],
        (c.seeing s').Clear s' ((c.seeing s').evaluateNested maxNesting) x

/-- A rule that lets the user in is reached without evaluating the entity itself: already the
largest budget that the entity does not come out with gets there. -/
theorem exists_budget_assignedBy {kind : EntityKind} {spec : Spec} {stored : Option StickyValues}
    {r : Ruling} (hentrance : c.entrance kind name = .rules s spec)
    (hrun : c.evaluateRules (c.evaluateNested maxNesting) s spec stored = .ok r)
    (hr : r.isAssignment = true) :
    ∃ b ≤ maxNesting, (∀ o, c.evaluateNested b kind name ≠ .ok o) ∧
      c.AssignedBy s (c.evaluateNested b) spec spec.rules r.outcome := by
  have hfresh : c.evaluateRules (c.evaluateNested maxNesting) s spec none = .ok r :=
    decideRules_eq_ok_iff.2 ((decideRules_eq_ok_iff.1 hrun).forget hr)
  have hfull : c.evaluateNested (maxNesting + 1) kind name = .ok r.outcome := by
    rw [evaluateNested_eq, hentrance]
    exact congrArg (Except.map Ruling.outcome) hfresh
  obtain ⟨b, hb, hsilent, o, ho⟩ := c.exists_budget_before hfull
  rw [evaluateNested_eq, hentrance] at ho
  dsimp only at ho
  cases hleast : c.evaluateRules (c.evaluateNested b) s spec none with
  | error e =>
    rw [hleast] at ho
    cases ho
  | ok r' =>
    -- The larger budget comes to the same ruling.
    obtain ⟨r'', hr'', halike, hflag⟩ :=
      (refines_evaluateRules (.refl c) (c.evaluateNested_le hb) (.refl s) spec none).of_ok hleast
    obtain rfl : r = r'' := Except.ok.inj (hfresh.symm.trans hr'')
    obtain ⟨before, rule, after, hrules, hclear, hfound, hpasses, hof⟩ :=
      (decideRules_eq_ok_iff.1 hleast).assignedBy (hflag.symm.trans hr)
    exact ⟨b, hb, hsilent, before, rule, after, hrules, hclear, hfound, hpasses, hof.alike halike⟩

/-- A rule that lets the user in stays within reach under all shares. -/
theorem staysInReach_of_isAssignment (hforced : c.overrides.entries = []) {spec : Spec}
    {stored : Option StickyValues} {r : Ruling}
    (hentrance : (c.seeing s).entrance .experiment name = .rules s spec)
    (hspec : s.payload.dynamicConfigs.get? name = some (.parsed spec))
    (hrun : (c.seeing s).evaluateRules ((c.seeing s).evaluateNested maxNesting) s spec stored =
      .ok r)
    (hr : r.isAssignment = true) :
    ∃ rule ∈ spec.rules, (c.seeing s).ruleHolds s rule = true ∧
      (c.seeing s).passes spec rule = true ∧ r.outcome.IsOf rule ∧
      c.StaysInReach name s rule := by
  obtain ⟨b, hb, hsilent, before, rule, after, hrules, hclear, ⟨f, found, holds⟩, hpasses, hof⟩ :=
    exists_budget_assignedBy hentrance hrun hr
  -- Up to the rule nothing is evaluated that depends on shares, and a larger budget answers alike.
  have hN : ∀ {s'}, s.SameButShares name s' →
      ((c.seeing s).evaluateNested b).Refines (fun _ => True)
        ((c.seeing s').evaluateNested maxNesting) := by
    intro s' h kind name
    refine (refines_seeing hforced h b hsilent kind name).trans Outcome.Alike.trans ?_
    exact ((c.seeing s').evaluateNested_le hb kind name).mono fun _ _ => trivial
  have hholds : ∀ {s'} {rule' : Rule}, s.SameButShares name s' → rule.SameButShare rule' →
      (c.seeing s').ruleHolds s' rule' = true := by
    intro s' rule' h hrule
    have hown := (c.seeing s').refines_own (Nat.le_succ maxNesting)
    have hfound := (refines_evaluateEach (seeing_alike c s s') (hN h) h.agrees _).eq_ok found
    rw [finding_eq hown hfound] at holds
    rw [hrule]
    exact holds
  refine ⟨rule, by rw [hrules]; simp, hholds (.refl hspec) rfl, hpasses, hof, ?_⟩
  intro s' spec' h hspec'
  obtain ⟨spec₁, hspec₁, hsame⟩ := h.spec hspec
  obtain rfl : spec' = spec₁ := by
    rw [hspec'] at hspec₁
    cases hspec₁
    rfl
  have hforall := hsame.rules
  rw [hrules] at hforall
  obtain ⟨before', rule', after', hrules', hbefore, hrule⟩ := exists_of_forall₂_append_cons hforall
  refine ⟨before', rule', after', hrules', by rw [hrule], hholds h hrule, ?_⟩
  refine clear_of_forall₂ (seeing_alike c s s') (hN h) h.agrees ?_ hclear
  exact List.rel_append hbefore (.cons hrule .nil)

end Context

end Rollout
