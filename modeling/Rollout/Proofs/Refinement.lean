import Mathlib.Data.List.Forall2
import Rollout.Proofs.Reference

/-!
# Evaluations that know more

An evaluation asks for other entities through a `NestedEvaluation`. If every question that one such
oracle answers is answered alike by another (`NestedEvaluation.Refines`), then whatever is evaluated
with the first comes out alike with the second, condition by condition and rule by rule. Only those
questions count that a rule can ask, and so it is with shared conditions and id lists
(`Rule.ComesAlike`, `Context.refines_evaluateRules_of_comesAlike`). It is enough that snapshots
agree on all of them (`Snapshot.Agrees`). A larger budget is such an oracle (`evaluateNested_le`).

Two lists of rules are decided alike if, one by one, the conditions of their rules come to the same,
they hand over the same, they let the same users in, and they say the same of them
(`Context.decideRules_congr_of_forall₂`).

`Refines P R a b` allows `a` to stop for a reason in `P` where `b` does something else; otherwise
both stop for one reason, or both succeed with results related by `R`.
-/

namespace Rollout

/-! ### Results -/

/-- `b` comes out as `a` does, unless `a` stops for a reason in `P`. -/
def Refines {α : Type} (P : Halt → Prop) (R : α → α → Prop) : Except Halt α → Except Halt α → Prop
  | .ok x, b => ∃ y, b = .ok y ∧ R x y
  | .error h, b => P h ∨ b = .error h

namespace Refines

variable {α β : Type} {P : Halt → Prop} {R : α → α → Prop} {S : β → β → Prop}

theorem ok {x y : α} (h : R x y) : Refines P R (.ok x) (.ok y) := ⟨y, rfl, h⟩

theorem error (h : Halt) : Refines P R (.error h) (.error h) := .inr rfl

theorem bind {a b : Except Halt α} {f g : α → Except Halt β} (h : Refines P R a b)
    (hf : ∀ x y, R x y → Refines P S (f x) (g y)) : Refines P S (a >>= f) (b >>= g) := by
  cases a with
  | error e =>
    rcases h with h | rfl
    · exact .inl h
    · exact .error e
  | ok x =>
    obtain ⟨y, rfl, hxy⟩ := h
    exact hf x y hxy

theorem map {a b : Except Halt α} {f g : α → β} (h : Refines P R a b)
    (hf : ∀ x y, R x y → S (f x) (g y)) : Refines P S (a.map f) (b.map g) := by
  cases a with
  | error e =>
    rcases h with h | rfl
    · exact .inl h
    · exact .error e
  | ok x =>
    obtain ⟨y, rfl, hxy⟩ := h
    exact .ok (hf x y hxy)

theorem mono {Q : Halt → Prop} {a b : Except Halt α} (h : Refines P R a b)
    (hPQ : ∀ e, P e → Q e) : Refines Q R a b := by
  cases a with
  | error e => exact h.imp (hPQ e) id
  | ok x => exact h

theorem refl (hR : ∀ x, R x x) (a : Except Halt α) : Refines P R a a := by
  cases a with
  | error e => exact .error e
  | ok x => exact .ok (hR x)

theorem trans (hR : ∀ x y z, R x y → R y z → R x z) {a b c : Except Halt α}
    (h : Refines P R a b) (h' : Refines P R b c) : Refines P R a c := by
  cases a with
  | error e =>
    rcases h with h | rfl
    · exact .inl h
    · exact h'
  | ok x =>
    obtain ⟨y, rfl, hxy⟩ := h
    obtain ⟨z, rfl, hyz⟩ := h'
    exact .ok (hR x y z hxy hyz)

theorem of_ok {a b : Except Halt α} {x : α} (h : Refines P R a b) (ha : a = .ok x) :
    ∃ y, b = .ok y ∧ R x y := by
  subst ha
  exact h

/-- What succeeds keeps its result where results are related by equality. -/
theorem eq_ok {a b : Except Halt α} {x : α} (h : Refines P (· = ·) a b) (ha : a = .ok x) :
    b = .ok x := by
  obtain ⟨y, hb, rfl⟩ := h.of_ok ha
  exact hb

/-- What never stops where the other goes on, with the same results, is the same. -/
theorem eq {a b : Except Halt α} (h : Refines (fun _ => False) (· = ·) a b) : b = a := by
  cases a with
  | error e => exact h.resolve_left id
  | ok x => exact h.eq_ok rfl

end Refines

/-! ### Outcomes -/

namespace Outcome

/-- The outcomes differ at most in where they come from. -/
def Alike (o o' : Outcome) : Prop := o' = { o with details := o'.details }

theorem Alike.refl (o : Outcome) : o.Alike o := rfl

theorem alike_iff_exists {o o' : Outcome} :
    o.Alike o' ↔ ∃ details, o' = { o with details := details } :=
  ⟨fun h => ⟨_, h⟩, by rintro ⟨details, rfl⟩; rfl⟩

theorem Alike.trans (o o' o'' : Outcome) (h : o.Alike o') (h' : o'.Alike o'') : o.Alike o'' := by
  unfold Alike at *
  rw [h', h]

end Outcome

/-! ### Findings -/

/-- A way to compare findings that agrees on what holds and goes along with putting the exposures
of several together. -/
structure Finding.Congruence (F : Finding → Finding → Prop) : Prop where
  refl : ∀ f, F f f
  holds : ∀ {f f'}, F f f' → f'.holds = f.holds
  append : ∀ {f f' g g'}, F f f' → F g g' → ∀ holds,
    F ⟨holds, f.exposures ++ g.exposures⟩ ⟨holds, f'.exposures ++ g'.exposures⟩

namespace Finding

theorem congruence_eq : Congruence (· = ·) where
  refl _ := rfl
  holds h := by rw [h]
  append h h' _ := by rw [h, h']

theorem Congruence.and {F : Finding → Finding → Prop} (hF : Congruence F) {f f' g g' : Finding}
    (h : F f f') (h' : F g g') : F (f.and g) (f'.and g') := by
  unfold Finding.and
  rw [hF.holds h, hF.holds h']
  exact hF.append h h' _

end Finding

/-! ### What evaluations depend on -/

/-- Whatever `N` answers, `N'` answers alike, unless `N` stops for a reason in `P`. -/
def NestedEvaluation.Refines (P : Halt → Prop) (N N' : NestedEvaluation) : Prop :=
  ∀ kind name, Rollout.Refines P Outcome.Alike (N kind name) (N' kind name)

/-- The snapshots agree on what rules need apart from other entities: the conditions referred to by
key, the id lists, and what an experiment that is handed over to says of its parameters. -/
structure Snapshot.Agrees (s s' : Snapshot) : Prop where
  idLists : s'.idLists = s.idLists
  conditions : s'.payload.conditions = s.payload.conditions
  parameters : ∀ name, (s'.experiment? name).map (·.explicitParameters) =
    (s.experiment? name).map (·.explicitParameters)

theorem Snapshot.Agrees.refl (s : Snapshot) : s.Agrees s := ⟨rfl, rfl, fun _ => rfl⟩

/-- The rules differ at most in whom they let in. -/
def Rule.SameButEntry (r r' : Rule) : Prop :=
  r' = { r with conditions := r'.conditions, passPercentage := r'.passPercentage }

theorem Rule.SameButEntry.refl (r : Rule) : r.SameButEntry r := rfl

theorem Rule.SameButEntry.rel_refl (last : Option Rule) :
    Option.Rel Rule.SameButEntry last last := by
  cases last with
  | none => exact .none
  | some r => exact .some (.refl r)

/-- The rulings differ at most in where their outcomes come from. -/
def Ruling.Alike (r r' : Ruling) : Prop :=
  r.outcome.Alike r'.outcome ∧ r'.isAssignment = r.isAssignment

/-- The contexts are of one user at one time: they differ at most in the snapshot and in the
overrides. -/
def Context.Alike (c c' : Context) : Prop :=
  c' = { c with snapshot := c'.snapshot, overrides := c'.overrides }

/-- A condition comes to the same: the gate that it asks for is answered alike, and the id list that
it looks into is the same. -/
structure Condition.ComesAlike (P : Halt → Prop) (N N' : NestedEvaluation) (s s' : Snapshot)
    (condition : Condition) : Prop where
  gate : ∀ gate, condition.gate? = some gate →
    Rollout.Refines P Outcome.Alike (N .gate gate) (N' .gate gate)
  idList : ∀ name, condition.idList? = some name → s'.idLists.get? name = s.idLists.get? name

/-- A rule comes to the same: its conditions do, shared ones being the same, and the experiment that
it names is answered alike and says the same of its parameters. -/
structure Rule.ComesAlike (P : Halt → Prop) (N N' : NestedEvaluation) (s s' : Snapshot)
    (rule : Rule) : Prop where
  shared : ∀ key, .shared key ∈ rule.tips →
    s'.payload.conditions.get? key = s.payload.conditions.get? key
  conditions : ∀ tip ∈ rule.tips, ∀ condition, s.conditionAt? tip = some condition →
    condition.ComesAlike P N N' s s'
  parameters : ∀ name, rule.delegate = some name →
    (s'.experiment? name).map (·.explicitParameters) =
      (s.experiment? name).map (·.explicitParameters)
  experiment : ∀ name, rule.delegate = some name →
    Rollout.Refines P Outcome.Alike (N .experiment name) (N' .experiment name)

theorem Rule.ComesAlike.of_agrees {P : Halt → Prop} {N N' : NestedEvaluation} {s s' : Snapshot}
    (hN : N.Refines P N') (hs : s.Agrees s') (rule : Rule) : rule.ComesAlike P N N' s s' where
  shared _ _ := by rw [hs.conditions]
  conditions _ _ _ _ := ⟨fun gate _ => hN .gate gate, fun _ _ => by rw [hs.idLists]⟩
  parameters name _ := hs.parameters name
  experiment name _ := hN .experiment name

namespace Context

variable {P : Halt → Prop} {N N' : NestedEvaluation} {s s' : Snapshot} {c c' : Context}

theorem Alike.refl (c : Context) : c.Alike c := rfl

/-! ### Conditions -/

theorem refines_gateFinding {F : Finding → Finding → Prop} {R : Outcome → Outcome → Prop}
    (hR : ∀ {o o'}, R o o' → o'.value = o.value ∧
      ∀ holds (own : String → List SecondaryExposure),
        F ⟨holds, o.exposures ++ own o.ruleId⟩ ⟨holds, o'.exposures ++ own o'.ruleId⟩)
    {target : Option Json} (negated : Bool)
    (hN : ∀ gate, target.bind Json.text? = some gate →
      Refines P R (N .gate gate) (N' .gate gate)) :
    Refines P F (gateFinding N target negated) (gateFinding N' target negated) := by
  unfold gateFinding
  cases hgate : target.bind Json.text? with
  | none => exact .error _
  | some gate =>
    refine (hN gate hgate).map fun o o' ho => ?_
    obtain ⟨hvalue, hexposures⟩ := hR ho
    rw [hvalue]
    exact hexposures _ fun ruleId => if segmentStart.isPrefixOf gate then []
      else [⟨gate, if o.value then "true" else "false", ruleId⟩]

/-- Id lists matter to an operator only where it looks one up by the name in the target. -/
theorem test_congr {l l' : Dict IdList} {condition : Condition} {o : Operator}
    (ho : condition.operator = some o)
    (h : ∀ name, condition.idList? = some name → l'.get? name = l.get? name)
    (value : Option Attribute) :
    o.test value condition.target l' = o.test value condition.target l := by
  cases o with
  | inIdList negated =>
    have hlisted : Operator.isListed value condition.target l' =
        Operator.isListed value condition.target l := by
      unfold Operator.isListed
      cases hname : condition.target.bind Json.text? with
      | none => rfl
      | some name =>
        have hsame : l'.get? name = l.get? name :=
          h name (by unfold Condition.idList?; rw [ho, hname])
        rw [Option.bind_some, Option.bind_some, hsame]
    unfold Operator.test Operator.test?
    dsimp only
    rw [hlisted]
  | _ => rfl

theorem testFinding_congr {condition : Condition} (value : Option Attribute)
    (h : ∀ name, condition.idList? = some name → s'.idLists.get? name = s.idLists.get? name) :
    testFinding s' condition value = testFinding s condition value := by
  unfold testFinding
  cases ho : condition.operator with
  | none => rfl
  | some o =>
    cases o with
    | unknown => rfl
    | _ =>
      dsimp only
      rw [test_congr ho h value]

/-- A condition comes out as its gate does. -/
theorem refines_evaluateCondition_of_gateFinding {F : Finding → Finding → Prop}
    (hF : Finding.Congruence F) (hc : c.Alike c') {condition : Condition}
    (hgate : condition.kind = .passGate ∨ condition.kind = .failGate → ∀ negated,
      Refines P F (gateFinding N condition.target negated)
        (gateFinding N' condition.target negated))
    (hlists : ∀ name, condition.idList? = some name →
      s'.idLists.get? name = s.idLists.get? name) :
    Refines P F (c.evaluateCondition N s condition) (c'.evaluateCondition N' s' condition) := by
  rw [hc]
  unfold evaluateCondition
  cases hkind : condition.kind <;> simp only [testFinding_congr _ hlists]
  case passGate => exact hgate (.inl hkind) _
  case failGate => exact hgate (.inr hkind) _
  all_goals exact .refl hF.refl _

theorem refines_evaluateCondition (hc : c.Alike c') {condition : Condition}
    (h : condition.ComesAlike P N N' s s') :
    Refines P (· = ·) (c.evaluateCondition N s condition)
      (c'.evaluateCondition N' s' condition) := by
  refine refines_evaluateCondition_of_gateFinding Finding.congruence_eq hc
    (fun hkind negated => refines_gateFinding (R := Outcome.Alike) (fun ho => ?_) negated
      fun gate hgate => ?_) h.idList
  · rw [ho]
    exact ⟨rfl, fun _ _ => rfl⟩
  · refine h.gate gate ?_
    unfold Condition.gate?
    rcases hkind with hkind | hkind <;> rw [hkind] <;> exact hgate

theorem refines_evaluateTip (hc : c.Alike c') {rule : Rule} (h : rule.ComesAlike P N N' s s')
    {tip : ConditionTip} (htip : tip ∈ rule.tips) :
    Refines P (· = ·) (c.evaluateTip N s tip) (c'.evaluateTip N' s' tip) := by
  have hsame : s'.conditionAt? tip = s.conditionAt? tip := by
    cases tip with
    | shared key => exact h.shared key htip
    | own condition => rfl
  unfold evaluateTip
  rw [hsame]
  cases hcondition : s.conditionAt? tip with
  | none => exact .error _
  | some condition =>
    exact refines_evaluateCondition hc (h.conditions tip htip condition hcondition)

mutual

/-- A tree of conditions comes out alike if its tips do. -/
theorem refines_evaluateNode {F : Finding → Finding → Prop} (hF : Finding.Congruence F) :
    ∀ {n : ConditionNode},
      (∀ tip ∈ n.tips, Refines P F (c.evaluateTip N s tip) (c'.evaluateTip N' s' tip)) →
      Refines P F (c.evaluateNode N s n) (c'.evaluateNode N' s' n)
  | .all children, h => by
    unfold evaluateNode
    exact refines_evaluateAll hF h
  | .any children, h => by
    unfold evaluateNode
    exact refines_evaluateAny hF h
  | .ref key, h => by
    unfold evaluateNode
    exact h (.shared key) (List.mem_singleton_self _)
  | .leaf condition, h => by
    unfold evaluateNode
    exact h (.own condition) (List.mem_singleton_self _)

theorem refines_evaluateAll {F : Finding → Finding → Prop} (hF : Finding.Congruence F) :
    ∀ {l : List ConditionNode},
      (∀ tip ∈ ConditionNode.tipsOfAll l,
        Refines P F (c.evaluateTip N s tip) (c'.evaluateTip N' s' tip)) →
      Refines P F (c.evaluateAll N s l) (c'.evaluateAll N' s' l)
  | [], _ => .refl hF.refl _
  | n :: rest, h => by
    rw [ConditionNode.tipsOfAll, List.forall_mem_append] at h
    unfold evaluateAll
    refine (refines_evaluateNode hF h.1).bind fun f f' hf => ?_
    rw [hF.holds hf]
    cases f.holds with
    | false => exact .ok hf
    | true => exact (refines_evaluateAll hF h.2).bind fun r r' hr => .ok (hF.and hf hr)

theorem refines_evaluateAny {F : Finding → Finding → Prop} (hF : Finding.Congruence F) :
    ∀ {l : List ConditionNode},
      (∀ tip ∈ ConditionNode.tipsOfAll l,
        Refines P F (c.evaluateTip N s tip) (c'.evaluateTip N' s' tip)) →
      Refines P F (c.evaluateAny N s l) (c'.evaluateAny N' s' l)
  | [], _ => .refl hF.refl _
  | n :: rest, h => by
    rw [ConditionNode.tipsOfAll, List.forall_mem_append] at h
    unfold evaluateAny
    refine (refines_evaluateNode hF h.1).bind fun f f' hf => ?_
    rw [hF.holds hf]
    cases f.holds with
    | true => exact .ok hf
    | false =>
      refine (refines_evaluateAny hF h.2).bind fun r r' hr => .ok ?_
      rw [hF.holds hr]
      exact hF.append hf hr _

end

theorem refines_evaluateEach_of_tips {F : Finding → Finding → Prop} (hF : Finding.Congruence F)
    {l : List ConditionNode} (h : ∀ tip ∈ l.flatMap ConditionNode.tips,
      Refines P F (c.evaluateTip N s tip) (c'.evaluateTip N' s' tip)) :
    Refines P F (c.evaluateEach N s l) (c'.evaluateEach N' s' l) := by
  induction l with
  | nil => exact .ok (hF.refl _)
  | cons n rest ih =>
    rw [List.flatMap_cons, List.forall_mem_append] at h
    unfold evaluateEach
    refine (refines_evaluateNode hF h.1).bind fun f f' hf => ?_
    exact (ih h.2).bind fun r r' hr => .ok (hF.and hf hr)

theorem refines_evaluateEach (hc : c.Alike c') (hN : N.Refines P N') (hs : s.Agrees s')
    (l : List ConditionNode) :
    Refines P (· = ·) (c.evaluateEach N s l) (c'.evaluateEach N' s' l) := by
  -- the conditions are looked at as those of a rule that has nothing else
  let rule : Rule :=
    { id := "", passPercentage := .ofInt 0, returnValue := .bool false, conditions := l }
  exact refines_evaluateEach_of_tips Finding.congruence_eq fun tip htip =>
    refines_evaluateTip hc (.of_agrees hN hs rule) htip

/-! ### Rules -/

theorem Alike.passes (hc : c.Alike c') (spec : Spec) (rule : Rule) :
    c'.passes spec rule = c.passes spec rule := by
  rw [hc]
  rfl

section OneByOne

variable {spec spec' : Spec} {base : Outcome} {stored : Option StickyValues}

/-- Two rules come to the same in deciding: their conditions do, they hand over the same, and they
let the same users in to the same. -/
structure DecidesAlike (c c' : Context) (N N' : NestedEvaluation) (s s' : Snapshot)
    (spec spec' : Spec) (base : Outcome) (r r' : Rule) : Prop where
  rest : r.SameButEntry r'
  conditions : c'.evaluateEach N' s' r'.conditions = c.evaluateEach N s r.conditions
  delegated : ∀ exposures,
    delegated? N' s' spec' r' exposures base = delegated? N s spec r exposures base
  passes : c'.passes spec' r' = c.passes spec r

theorem undecided_congr (hdefault : spec'.defaultValue = spec.defaultValue)
    {last last' : Option Rule} (hlast : Option.Rel Rule.SameButEntry last last')
    (exposures : List SecondaryExposure) :
    undecided spec' last' exposures base = undecided spec last exposures base := by
  unfold undecided Outcome.withDefault
  rw [hdefault]
  cases hlast with
  | none => rfl
  | some h =>
    rw [h]
    rfl

/-- Rules that come to the same one by one are decided the same. -/
theorem decideRules_congr_of_forall₂ (hdefault : spec'.defaultValue = spec.defaultValue)
    (hdetails : s'.details .persisted = s.details .persisted) {rules rules' : List Rule}
    (h : List.Forall₂ (DecidesAlike c c' N N' s s' spec spec' base) rules rules')
    (exposures : List SecondaryExposure) {last last' : Option Rule}
    (hlast : Option.Rel Rule.SameButEntry last last') :
    c'.decideRules N' s' spec' base stored rules' exposures last' =
      c.decideRules N s spec base stored rules exposures last := by
  induction h generalizing exposures last last' with
  | nil =>
    unfold decideRules
    rw [undecided_congr hdefault hlast]
  | @cons r r' rest rest' hr _ ih =>
    have hid : r'.id = r.id := by rw [hr.rest]
    have hassigned : base.withRule r' = base.withRule r := by
      rw [hr.rest]
      rfl
    unfold decideRules
    simp only [hr.conditions, hr.delegated, hr.passes, hid, hassigned, hdetails, ih _ hlast,
      ih _ (.some hr.rest)]

end OneByOne

/-- Rules are decided the same where their conditions come to the same, they hand over the same,
and they let the same users in. -/
theorem decideRules_congr {spec : Spec} {base : Outcome} {stored : Option StickyValues}
    {rules : List Rule}
    (hconditions : ∀ rule ∈ rules,
      c'.evaluateEach N' s' rule.conditions = c.evaluateEach N s rule.conditions)
    (hdelegated : ∀ rule ∈ rules, ∀ exposures,
      delegated? N' s' spec rule exposures base = delegated? N s spec rule exposures base)
    (hpasses : ∀ rule, c'.passes spec rule = c.passes spec rule)
    (hdetails : s'.details .persisted = s.details .persisted)
    (exposures : List SecondaryExposure) (last : Option Rule) :
    c'.decideRules N' s' spec base stored rules exposures last =
      c.decideRules N s spec base stored rules exposures last :=
  decideRules_congr_of_forall₂ rfl hdetails (List.forall₂_same.2 fun rule hrule =>
    ⟨.refl rule, hconditions rule hrule, hdelegated rule hrule, hpasses rule⟩) exposures
    (Rule.SameButEntry.rel_refl last)

theorem refines_delegated? (spec : Spec) {rule : Rule} (h : rule.ComesAlike P N N' s s')
    (exposures : List SecondaryExposure) {base base' : Outcome} (hb : base.Alike base') :
    Refines P (Option.Rel Outcome.Alike) (delegated? N s spec rule exposures base)
      (delegated? N' s' spec rule exposures base') := by
  obtain ⟨details, rfl⟩ := Outcome.alike_iff_exists.1 hb
  unfold delegated?
  cases hname : rule.delegate with
  | none => exact .ok .none
  | some name =>
    have hp := h.parameters name hname
    unfold Snapshot.experiment? at hp
    dsimp only
    cases h' : (s.payload.dynamicConfigs.get? name).bind Entry.get? with
    | none =>
      rw [h', Option.map_none, Option.map_eq_none_iff] at hp
      rw [hp]
      exact .ok .none
    | some experiment =>
      rw [h', Option.map_some, Option.map_eq_some_iff] at hp
      obtain ⟨experiment', h', he⟩ := hp
      rw [h']
      refine (h.experiment name hname).map fun o o' ho => .some ?_
      rw [Outcome.Alike, ho, he]

theorem refines_decideRules (hc : c.Alike c') (spec : Spec) (stored : Option StickyValues)
    {base base' : Outcome} (hb : base.Alike base') :
    ∀ {rules : List Rule}, (∀ rule ∈ rules, rule.ComesAlike P N N' s s') →
      ∀ (exposures : List SecondaryExposure) (last : Option Rule),
      Refines P Ruling.Alike (c.decideRules N s spec base stored rules exposures last)
        (c'.decideRules N' s' spec base' stored rules exposures last) := by
  intro rules hrules
  induction rules with
  | nil =>
    intro exposures last
    obtain ⟨details, rfl⟩ := Outcome.alike_iff_exists.1 hb
    refine .ok ⟨?_, rfl⟩
    cases last <;> rfl
  | cons rule rest ih =>
    intro exposures last
    rw [List.forall_mem_cons] at hrules
    unfold decideRules
    refine (refines_evaluateEach_of_tips Finding.congruence_eq fun tip htip =>
      refines_evaluateTip hc hrules.1 htip).bind fun f f' hf => ?_
    subst hf
    cases f.holds with
    | false => exact ih hrules.2 _ _
    | true =>
      refine (refines_delegated? spec hrules.1 _ hb).bind fun o o' ho => ?_
      cases ho with
      | some ho => exact .ok ⟨ho, rfl⟩
      | none =>
        obtain ⟨details, rfl⟩ := Outcome.alike_iff_exists.1 hb
        dsimp only
        cases stored.filter (·.ruleId == rule.id) with
        | some values => exact .ok ⟨rfl, rfl⟩
        | none =>
          dsimp only
          rw [hc.passes]
          cases c.passes spec rule with
          | true => exact .ok ⟨rfl, rfl⟩
          | false => exact ih hrules.2 _ _

/-- The rules of a spec come out alike if each of them does. -/
theorem refines_evaluateRules_of_comesAlike (hc : c.Alike c') {spec : Spec}
    (stored : Option StickyValues) (h : ∀ rule ∈ spec.rules, rule.ComesAlike P N N' s s') :
    Refines P Ruling.Alike (c.evaluateRules N s spec stored)
      (c'.evaluateRules N' s' spec stored) :=
  refines_decideRules hc spec stored (Outcome.alike_iff_exists.2 ⟨_, rfl⟩) h [] none

theorem refines_evaluateRules (hc : c.Alike c') (hN : N.Refines P N') (hs : s.Agrees s')
    (spec : Spec) (stored : Option StickyValues) :
    Refines P Ruling.Alike (c.evaluateRules N s spec stored)
      (c'.evaluateRules N' s' spec stored) :=
  refines_evaluateRules_of_comesAlike hc stored fun rule _ => .of_agrees hN hs rule

/-! ### Budgets -/

variable (c : Context)

theorem evaluateNested_eq (budget : Nat) (kind : EntityKind) (name : String) :
    c.evaluateNested (budget + 1) kind name = match c.entrance kind name with
      | .settled o => .ok o
      | .unreadable => .error .unsupported
      | .rules s spec =>
        (c.evaluateRules (c.evaluateNested budget) s spec none).map (·.outcome) := rfl

/-- A larger budget answers what a smaller one does, unless that one is used up. -/
theorem evaluateNested_succ (budget : Nat) :
    (c.evaluateNested budget).Refines (· = .depthExceeded) (c.evaluateNested (budget + 1)) := by
  induction budget with
  | zero => exact fun kind name => .inl rfl
  | succ budget ih =>
    intro kind name
    rw [evaluateNested_eq, evaluateNested_eq]
    cases c.entrance kind name with
    | settled o => exact .ok (.refl o)
    | unreadable => exact .error _
    | rules s spec =>
      exact (refines_evaluateRules (.refl c) ih (.refl s) spec none).map fun r r' hr => hr.1

theorem evaluateNested_le {budget budget' : Nat} (h : budget ≤ budget') :
    (c.evaluateNested budget).Refines (· = .depthExceeded) (c.evaluateNested budget') := by
  induction h with
  | refl => exact fun kind name => .refl Outcome.Alike.refl _
  | step _ ih =>
    exact fun kind name => (ih kind name).trans Outcome.Alike.trans (c.evaluateNested_succ _ _ _)

/-- The largest budget that an entity does not come out with. -/
theorem exists_budget_before {budget : Nat} {kind : EntityKind} {name : String} {o : Outcome}
    (h : c.evaluateNested (budget + 1) kind name = .ok o) :
    ∃ b ≤ budget, (∀ o, c.evaluateNested b kind name ≠ .ok o) ∧
      ∃ o, c.evaluateNested (b + 1) kind name = .ok o := by
  induction budget generalizing o with
  | zero => exact ⟨0, Nat.le_refl 0, fun o ho => (by cases ho), o, h⟩
  | succ budget ih =>
    by_cases hsmaller : ∃ o, c.evaluateNested (budget + 1) kind name = .ok o
    · obtain ⟨o', ho'⟩ := hsmaller
      obtain ⟨b, hb, hsilent⟩ := ih ho'
      exact ⟨b, Nat.le_succ_of_le hb, hsilent⟩
    · exact ⟨budget + 1, Nat.le_refl _, fun o ho => hsmaller ⟨o, ho⟩, o, h⟩

end Context

end Rollout
