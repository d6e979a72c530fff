import Rollout.Proofs.Rounding
import Rollout.Proofs.RuleChange

/-!
# Raising a share

Users are let in by a rule if their bucket lies below its share (`Context.passes_eq`), so who is let
in at one share is let in at every larger one (`Context.passes_withShare`). A rule that lets in more
users takes them from the rules after it and from the default: who was decided by a rule up to it
keeps the outcome, and who now gets another one gets the rule's (`Context.outcome_of_raise`).

An evaluation decides by a rule if it goes past all rules before and the rule settles
(`Context.DecidedBy`). It is enough to look at the rules of one evaluation: the entity does not
refer to itself, so all else is answered as before (`Context.decidesAlike_withShare`).
-/

namespace Rollout

/-- The rule with another share of users. -/
def Rule.withShare (rule : Rule) (share : Binary64) : Rule := { rule with passPercentage := share }

theorem exists_modify_eq {α : Type} {l : List α} {i : Nat} {a : α} (h : l[i]? = some a) :
    ∃ before after, l = before ++ a :: after ∧ before.length = i ∧
      ∀ f, l.modify i f = before ++ f a :: after := by
  obtain ⟨hi, rfl⟩ := List.getElem?_eq_some_iff.1 h
  exact ⟨l.take i, l.drop (i + 1), by simp, by simp [hi.le],
    fun f => List.modify_eq_take_cons_drop hi⟩

/-- A change at a position leaves what is before it. -/
theorem exists_modify_append_cons {α : Type} {before : List α} {i : Nat} (h : before.length ≤ i)
    (a : α) (after : List α) (f : α → α) :
    ∃ after', (before ++ a :: after).modify i f =
      before ++ (if before.length = i then f a else a) :: after' := by
  induction before generalizing i with
  | nil =>
    cases i with
    | zero => exact ⟨after, rfl⟩
    | succ i => exact ⟨after.modify i f, rfl⟩
  | cons b before ih =>
    cases i with
    | zero => cases h
    | succ i =>
      obtain ⟨after', hafter'⟩ := ih (Nat.le_of_succ_le_succ h)
      refine ⟨after', ?_⟩
      rw [List.cons_append, List.modify_succ_cons, hafter']
      simp

/-! ### Buckets and shares -/

namespace Binary64

/-- Whole numbers keep their order. -/
theorem atMost_ofInt {m n : Nat} (h : m ≤ n) : (ofInt m).atMost (ofInt n) = true := by
  rw [ofInt_natCast, ofInt_natCast]
  refine atMost_ofUnits Nat.one_pos ?_
  exact Int.ofNat_le.2 (Nat.mul_le_mul_right one h)

theorem ofInt_hundred : ofInt 100 = .finite false (100 * one) := by decide +kernel

theorem hundred_pos : 0 < 100 * one := Nat.mul_pos (by decide) one_pos

/-- Every bucket lies below a share of one hundred or more. -/
theorem less_mul_hundred {share : Binary64} {bucket : Nat} (hbucket : bucket < rolloutBuckets)
    (h : (ofInt 100).atMost share = true) :
    (ofInt bucket).less (share.mul (ofInt 100)) = true := by
  have hlast : (ofInt bucket).atMost (ofInt 9999) = true := atMost_ofInt (Nat.le_of_lt_succ hbucket)
  have hend : (ofInt 9999).less ((ofInt 100).mul (ofInt 100)) = true := by decide +kernel
  have hshare : ((ofInt 100).mul (ofInt 100)).atMost (share.mul (ofInt 100)) = true := by
    have hmul := atMost_mul hundred_pos h
    rwa [← ofInt_hundred] at hmul
  exact less_of_less_of_atMost (less_of_atMost_of_less hlast hend) hshare

/-- No bucket lies below a share of zero or less. -/
theorem less_mul_hundred_eq_false {share : Binary64} (bucket : Nat)
    (h : share.atMost (ofInt 0) = true) :
    (ofInt bucket).less (share.mul (ofInt 100)) = false := by
  have hzero : ((ofInt 0).mul (ofInt 100)).atMost (ofInt 0) = true := by decide +kernel
  have hshare : (share.mul (ofInt 100)).atMost ((ofInt 0).mul (ofInt 100)) = true := by
    have hmul := atMost_mul hundred_pos h
    rwa [← ofInt_hundred] at hmul
  have hbucket : (ofInt 0).atMost (ofInt bucket) = true := atMost_ofInt (Nat.zero_le bucket)
  exact less_eq_false_of_atMost (atMost_trans hshare (atMost_trans hzero hbucket))

end Binary64

namespace Context

variable {c : Context} {N : NestedEvaluation} {s : Snapshot} {spec : Spec} {base : Outcome}

variable (c) in
/-- The user's bucket for a rule. -/
def rolloutBucket (spec : Spec) (rule : Rule) : Nat :=
  c.hash (spec.salt ++ "." ++ rule.salt.getD rule.id ++ "." ++ c.hashedId rule.idType) %
    rolloutBuckets

theorem rolloutBucket_lt (spec : Spec) (rule : Rule) :
    c.rolloutBucket spec rule < rolloutBuckets := Nat.mod_lt _ (by decide)

/-- A rule lets in the users whose bucket lies below its share. -/
theorem passes_eq (spec : Spec) (rule : Rule) :
    c.passes spec rule = (Binary64.ofInt (c.rolloutBucket spec rule)).less
      (rule.passPercentage.mul (Binary64.ofInt 100)) := by
  unfold passes
  split
  · next h => exact (Binary64.less_mul_hundred (rolloutBucket_lt spec rule) h).symm
  · split
    · next h => exact (Binary64.less_mul_hundred_eq_false _ h).symm
    · rfl

/-- Who is let in stays so when the share is raised. -/
theorem passes_withShare {rule : Rule} {share : Binary64}
    (h : rule.passPercentage.atMost share = true) (hpasses : c.passes spec rule = true) :
    c.passes spec (rule.withShare share) = true := by
  rw [passes_eq] at hpasses ⊢
  refine Binary64.less_of_less_of_atMost hpasses ?_
  rw [Binary64.ofInt_hundred]
  exact Binary64.atMost_mul Binary64.hundred_pos h

/-! ### Which rule decides -/

variable (c N s spec) in
/-- An evaluation goes past the rule: its conditions come to something, and if they hold, it does
not decide. -/
def GoesPast (rule : Rule) : Prop :=
  ∃ f, c.evaluateEach N s rule.conditions = .ok f ∧
    (f.holds = true → c.decides s spec rule = false)

variable (c N s spec) in
/-- The rule settles an evaluation: its conditions hold and it decides, and if it hands over to an
experiment, this comes to something. -/
def Settles (rule : Rule) : Prop :=
  (∃ f, c.evaluateEach N s rule.conditions = .ok f ∧ f.holds = true) ∧
    c.decides s spec rule = true ∧
    ∀ target, s.handover? rule = some target → ∃ o, N .experiment target.1 = .ok o

variable (c) in
/-- The rule at a position decides the entity: the evaluation gets to the rules, goes past those
before it, and is settled by it. -/
def DecidedBy (kind : EntityKind) (name : String) (i : Nat) : Prop :=
  ∃ s spec before rule after, c.entrance kind name = .rules s spec ∧
    spec.rules = before ++ rule :: after ∧ before.length = i ∧
    (∀ x ∈ before, c.GoesPast (c.evaluateNested maxNesting) s spec x) ∧
    c.Settles (c.evaluateNested maxNesting) s spec rule

theorem decides_eq_passes {rule : Rule} (h : s.handover? rule = none) :
    c.decides s spec rule = c.passes spec rule := by
  unfold decides
  rw [h, Option.isSome_none, Bool.false_or]

/-- A rule whose conditions come to something, when nothing is stored. -/
theorem decideRules_cons_of_found {rule : Rule} {f : Finding}
    (found : c.evaluateEach N s rule.conditions = .ok f) (rest : List Rule)
    (exposures : List SecondaryExposure) (last : Option Rule) :
    c.decideRules N s spec base none (rule :: rest) exposures last =
      if f.holds then
        match s.handover? rule with
        | some target => (N .experiment target.1).map fun o =>
          { outcome := handedOver spec base (exposures ++ f.exposures) target o }
        | none =>
          if c.passes spec rule then
            .ok { outcome := { base.withRule rule with exposures := exposures ++ f.exposures }
                  isAssignment := true }
          else c.decideRules N s spec base none rest (exposures ++ f.exposures) (some rule)
      else c.decideRules N s spec base none rest (exposures ++ f.exposures) last := by
  rw [decideRules, found]
  simp only [bind, Except.bind, delegated?_eq, Option.filter_none]
  cases f.holds with
  | false => rfl
  | true =>
    rcases s.handover? rule with _ | target
    · rfl
    · dsimp only
      cases N .experiment target.1 <;> rfl

/-- A rule that is gone past leaves the decision to the rules after it. -/
theorem decideRules_cons_of_goesPast (hN : N.Refines (fun _ => True) c.own) {rule : Rule}
    (h : c.GoesPast N s spec rule) (rest : List Rule) (exposures : List SecondaryExposure)
    (last : Option Rule) :
    c.decideRules N s spec base none (rule :: rest) exposures last =
      c.decideRules N s spec base none rest (exposures ++ c.ruleExposures s rule)
        (if c.ruleHolds s rule then some rule else last) := by
  obtain ⟨f, found, hdecides⟩ := h
  obtain rfl := finding_eq hN found
  rw [decideRules_cons_of_found found]
  dsimp only at hdecides ⊢
  cases holds : c.ruleHolds s rule with
  | false => rfl
  | true =>
    obtain ⟨handover, passes⟩ := decides_eq_false_iff.1 (hdecides holds)
    simp only [handover, passes, if_true]
    rfl

/-- A rule that is not gone past leaves nothing to the rules after it. -/
theorem decideRules_cons_of_not_goesPast {rule : Rule} (h : ¬ c.GoesPast N s spec rule)
    (rest rest' : List Rule) (exposures : List SecondaryExposure) (last : Option Rule) :
    c.decideRules N s spec base none (rule :: rest) exposures last =
      c.decideRules N s spec base none (rule :: rest') exposures last := by
  cases found : c.evaluateEach N s rule.conditions with
  | error e =>
    rw [decideRules, decideRules, found]
    simp only [bind, Except.bind]
  | ok f =>
    rw [decideRules_cons_of_found found, decideRules_cons_of_found found]
    have hstays : f.holds = true ∧ c.decides s spec rule = true := by
      by_contra hnot
      exact h ⟨f, found, fun holds => Bool.eq_false_iff.2 fun hd => hnot ⟨holds, hd⟩⟩
    rw [if_pos hstays.1, if_pos hstays.1]
    cases handover : s.handover? rule with
    | some target => rfl
    | none =>
      have passes : c.passes spec rule = true := (decides_eq_passes handover).symm.trans hstays.2
      dsimp only
      rw [if_pos passes, if_pos passes]

/-- Rules that are gone past leave the decision to the rules after them. -/
theorem decideRules_append_of_goesPast (hN : N.Refines (fun _ => True) c.own) {before : List Rule}
    (h : ∀ x ∈ before, c.GoesPast N s spec x) (base : Outcome)
    (exposures : List SecondaryExposure) (last : Option Rule) :
    ∃ last', ∀ rest, c.decideRules N s spec base none (before ++ rest) exposures last =
      c.decideRules N s spec base none rest (exposures ++ before.flatMap (c.ruleExposures s))
        last' := by
  induction before generalizing exposures last with
  | nil => exact ⟨last, fun rest => by simp⟩
  | cons x before ih =>
    rw [List.forall_mem_cons] at h
    obtain ⟨last', hlast'⟩ := ih h.2 (exposures ++ c.ruleExposures s x)
      (if c.ruleHolds s x then some x else last)
    refine ⟨last', fun rest => ?_⟩
    rw [List.cons_append, decideRules_cons_of_goesPast hN h.1, hlast', List.flatMap_cons,
      List.append_assoc]

/-- Rules that are not all gone past leave nothing to the rules after them. -/
theorem decideRules_append_of_not_goesPast (hN : N.Refines (fun _ => True) c.own)
    {before : List Rule} (h : ¬ ∀ x ∈ before, c.GoesPast N s spec x) (rest rest' : List Rule)
    (exposures : List SecondaryExposure) (last : Option Rule) :
    c.decideRules N s spec base none (before ++ rest) exposures last =
      c.decideRules N s spec base none (before ++ rest') exposures last := by
  induction before generalizing exposures last with
  | nil => simp at h
  | cons x before ih =>
    by_cases hx : c.GoesPast N s spec x
    · have hbefore : ¬ ∀ y ∈ before, c.GoesPast N s spec y := fun hall =>
        h (List.forall_mem_cons.2 ⟨hx, hall⟩)
      rw [List.cons_append, List.cons_append, decideRules_cons_of_goesPast hN hx,
        decideRules_cons_of_goesPast hN hx, ih hbefore]
    · exact decideRules_cons_of_not_goesPast hx _ _ _ _

/-- The rule that settles an evaluation says what it comes to. -/
theorem decideRules_of_settles (hN : N.Refines (fun _ => True) c.own) {before : List Rule}
    (hbefore : ∀ x ∈ before, c.GoesPast N s spec x) {rule : Rule}
    (h : c.Settles N s spec rule) (after : List Rule) (exposures : List SecondaryExposure)
    (last : Option Rule) :
    c.decideRules N s spec base none (before ++ rule :: after) exposures last =
      .ok { outcome := c.decided s spec base rule
              (exposures ++ before.flatMap (c.ruleExposures s) ++ c.ruleExposures s rule)
            isAssignment := (s.handover? rule).isNone } := by
  obtain ⟨last', hlast'⟩ := decideRules_append_of_goesPast hN hbefore base exposures last
  obtain ⟨⟨f, found, holds⟩, hdecides, hanswer⟩ := h
  obtain rfl := finding_eq hN found
  rw [hlast', decideRules_cons_of_found found, if_pos holds]
  unfold decided
  cases handover : s.handover? rule with
  | some target =>
    obtain ⟨o, ho⟩ := hanswer target handover
    obtain ⟨o', ho', halike⟩ := (hN .experiment target.1).of_ok ho
    obtain rfl : c.outcome .experiment target.1 = o' := Except.ok.inj ho'
    dsimp only
    rw [halike, ho]
    rfl
  | none =>
    have passes : c.passes spec rule = true := (decides_eq_passes handover).symm.trans hdecides
    dsimp only
    rw [if_pos passes]
    rfl

/-! ### One rule with a larger share -/

theorem DecidesAlike.refl (rule : Rule) : DecidesAlike c c N N s s spec spec base rule rule :=
  ⟨rfl, rfl, fun _ => rfl, rfl⟩

/-- If a larger share of one rule makes a difference, then the rules before are gone past, and the
rule lets the user in. -/
theorem decideRules_withShare (hN : N.Refines (fun _ => True) c.own) {rule : Rule}
    {share : Binary64} (hshare : rule.passPercentage.atMost share = true) (base : Outcome)
    (before after : List Rule) (exposures : List SecondaryExposure) (last : Option Rule) :
    c.decideRules N s spec base none (before ++ rule.withShare share :: after) exposures last =
        c.decideRules N s spec base none (before ++ rule :: after) exposures last ∨
      (∀ x ∈ before, c.GoesPast N s spec x) ∧ c.Settles N s spec (rule.withShare share) ∧
        s.handover? rule = none := by
  by_cases hsame : c.passes spec (rule.withShare share) = c.passes spec rule
  · refine .inl (decideRules_congr_of_forall₂ rfl rfl ?_ exposures ?_)
    · exact List.rel_append (List.forall₂_same.2 fun x _ => .refl x)
        (.cons ⟨rfl, rfl, fun _ => rfl, hsame⟩ (List.forall₂_same.2 fun x _ => .refl x))
    · exact Rule.SameButEntry.rel_refl last
  · -- The rule did not let the user in before, and now it does.
    have hpasses : c.passes spec (rule.withShare share) = true := by
      by_contra hnot
      refine hsame ((Bool.eq_false_iff.2 hnot).trans (Bool.eq_false_iff.2 fun h => ?_).symm)
      exact hnot (passes_withShare hshare h)
    by_cases hbefore : ∀ x ∈ before, c.GoesPast N s spec x
    · obtain ⟨last', hlast'⟩ :=
        decideRules_append_of_goesPast hN hbefore base exposures last
      rw [hlast', hlast']
      cases found : c.evaluateEach N s rule.conditions with
      | error e =>
        have found' : c.evaluateEach N s (rule.withShare share).conditions = .error e := found
        rw [decideRules, decideRules, found, found']
        exact .inl (by simp only [bind, Except.bind])
      | ok f =>
        have found' : c.evaluateEach N s (rule.withShare share).conditions = .ok f := found
        rw [decideRules_cons_of_found found, decideRules_cons_of_found found']
        cases holds : f.holds with
        | false => exact .inl (by simp only [Bool.false_eq_true, if_false])
        | true =>
          cases handover : s.handover? rule with
          | some target =>
            have handover' : s.handover? (rule.withShare share) = some target := handover
            rw [handover']
            exact .inl rfl
          | none =>
            have handover' : s.handover? (rule.withShare share) = none := handover
            refine .inr ⟨hbefore, ⟨⟨f, found', holds⟩, ?_, ?_⟩, rfl⟩
            · rw [decides_eq_passes handover', hpasses]
            · simp [handover']
    · exact .inl (decideRules_append_of_not_goesPast hN hbefore _ _ _ _)

/-- A rule that settles an evaluation does so with every larger share. -/
theorem Settles.withShare {rule : Rule} {share : Binary64}
    (hshare : rule.passPercentage.atMost share = true) (h : c.Settles N s spec rule) :
    c.Settles N s spec (rule.withShare share) := by
  refine ⟨h.1, ?_, h.2.2⟩
  have hdecides := h.2.1
  unfold decides at hdecides ⊢
  rw [Bool.or_eq_true] at hdecides ⊢
  exact hdecides.imp id (passes_withShare hshare)

/-! ### Among other entities -/

section Transport

variable {c' : Context} {N' : NestedEvaluation} {s' : Snapshot} {spec' : Spec} {rule : Rule}

theorem GoesPast.congr (hs : s.Agrees s')
    (hrule : DecidesAlike c c' N N' s s' spec spec' base rule rule)
    (h : c.GoesPast N s spec rule) : c'.GoesPast N' s' spec' rule := by
  obtain ⟨f, found, hdecides⟩ := h
  refine ⟨f, hrule.conditions.trans found, fun holds => ?_⟩
  rw [← hdecides holds, decides, decides, hs.handover?_isSome, hrule.passes]

theorem Settles.congr (hs : s.Agrees s')
    (hrule : DecidesAlike c c' N N' s s' spec spec' base rule rule)
    (h : c.Settles N s spec rule) : c'.Settles N' s' spec' rule := by
  obtain ⟨⟨f, found, holds⟩, hdecides, hanswer⟩ := h
  refine ⟨⟨f, hrule.conditions.trans found, holds⟩, ?_, fun target' htarget' => ?_⟩
  · rw [← hdecides, decides, decides, hs.handover?_isSome, hrule.passes]
  · obtain ⟨target, htarget⟩ : ∃ target, s.handover? rule = some target := by
      rw [← Option.isSome_iff_exists, ← hs.handover?_isSome, htarget']
      rfl
    obtain ⟨o, ho⟩ := hanswer target htarget
    have hsame := hrule.delegated []
    rw [delegated?_eq, delegated?_eq, htarget', htarget] at hsame
    dsimp only at hsame
    rw [ho] at hsame
    cases ho' : N' .experiment target'.1 with
    | ok o' => exact ⟨o', rfl⟩
    | error e =>
      rw [ho'] at hsame
      cases hsame

end Transport

/-! ### Entities -/

section Entity

variable {kind : EntityKind} {name : String} {i : Nat} {share : Binary64} {before after : List Rule}

variable (hs : c.snapshot = some s) (hentry : s.payload.entry? kind name = some (.parsed spec))
  (hself : ∀ e, Relation.TransGen s.Refers (kind, name) e →
    ¬ (e.1.space = kind.space ∧ e.2 = name))

include hs hentry hself in
/-- A rule that the entity has after the change comes to what it would have come to before, since
all that the entity refers to is answered as before. -/
theorem decidesAlike_withShare (base : Outcome) (share : Binary64) :
    let s' := s.changeRule kind.space name i (·.withShare share)
    ∀ x ∈ spec.rules.modify i (·.withShare share),
      DecidesAlike c (c.seeing s') (c.evaluateNested maxNesting)
        ((c.seeing s').evaluateNested maxNesting) s s' spec
        (spec.changeRule i (·.withShare share)) base x x := by
  intro s' x hx
  have hspec : s.spec? (kind, name) = some spec := Snapshot.spec?_of_parsed hentry
  have hN : ∀ e, s.Refers (kind, name) e → (c.seeing s').evaluateNested maxNesting e.1 e.2 =
      c.evaluateNested maxNesting e.1 e.2 := fun e he =>
    evaluateNested_eq_of_closed (R := Relation.TransGen s.Refers (kind, name)) (alike_seeing _)
      Snapshot.sameOrigin_changeRule hs rfl (fun _ _ he he' => .tail he he')
      (fun _ he => Snapshot.agreesAt_changeRule c.overrides (hself _ he)) maxNesting (.single he)
  -- the rule has the conditions and the experiment of one from before
  obtain ⟨j, hj⟩ := List.mem_iff_getElem?.1 hx
  rw [List.getElem?_modify] at hj
  obtain ⟨y, hy, rfl⟩ := Option.map_eq_some_iff.1 hj
  have hmem : y ∈ spec.rules := List.mem_of_getElem? hy
  have hshared : ∀ q, DecidesAlike c (c.seeing s') (c.evaluateNested maxNesting)
      ((c.seeing s').evaluateNested maxNesting) s s' spec
      (spec.changeRule i (·.withShare share)) base (y.withShare q) (y.withShare q) := fun q =>
    { rest := .refl _
      conditions := Refines.eq (refines_evaluateEach_of_tips Finding.congruence_eq
        fun tip htip => refines_evaluateTip (alike_seeing _)
          (Rule.comesAlike_changeRule hspec hN hmem) htip)
      delegated := delegated?_congr rfl
        (fun other _ => Snapshot.agrees_changeRule.parameters other)
        fun other hother => hN (.experiment, other) (Snapshot.refers_experiment hspec hmem hother)
      passes := rfl }
  by_cases hij : i = j
  · rw [if_pos hij]
    exact hshared share
  · rw [if_neg hij]
    exact hshared y.passPercentage

variable (hentrance : c.entrance kind name = .rules s spec)
include hs hentry hself hentrance

/-- What the changed rules come to can be told without the changed snapshot. -/
theorem evaluateWith_withShare (requested : Bool) :
    ((c.seeing (s.changeRule kind.space name i (·.withShare share))).evaluateWith none requested
        kind name).1 =
      match c.decideRules (c.evaluateNested maxNesting) s spec
        (.ofSpec spec (s.details (.recognized s.source))) none
        (spec.rules.modify i (·.withShare share)) [] none with
      | .ok r => r.outcome
      | .error h => c.halted h := by
  have hentrance' := entrance_changeRule (i := i) (f := (·.withShare share)) hs hentry fun _ => rfl
  rw [hentrance] at hentrance'
  rw [evaluateWith_none_eq hentrance', halted_changeRule hs, evaluateRules]
  change (match decideRules _ _ _ _ (.ofSpec spec (s.details (.recognized s.source))) none
    (spec.rules.modify i (·.withShare share)) [] none with
      | .ok r => r.outcome
      | .error h => c.halted h) = _
  rw [decideRules_congr_of_forall₂ (by rfl) (by rfl) (List.forall₂_same.2
    (decidesAlike_withShare hs hentry hself _ share)) [] .none]

/-- A rule that settles the evaluation among the changed rules decides the entity. -/
theorem decidedBy_withShare {x : Rule}
    (hrules : spec.rules.modify i (·.withShare share) = before ++ x :: after)
    (hbefore : ∀ y ∈ before, c.GoesPast (c.evaluateNested maxNesting) s spec y)
    (hx : c.Settles (c.evaluateNested maxNesting) s spec x) :
    (c.seeing (s.changeRule kind.space name i (·.withShare share))).DecidedBy kind name
      before.length := by
  have halike := decidesAlike_withShare hs hentry hself (i := i)
    (.ofSpec spec (s.details (.recognized s.source))) share
  have hentrance' := entrance_changeRule (i := i) (f := (·.withShare share)) hs hentry fun _ => rfl
  rw [hentrance] at hentrance'
  rw [hrules, List.forall_mem_append, List.forall_mem_cons] at halike
  refine ⟨_, _, before, x, after, hentrance', hrules, rfl, fun y hy => ?_, ?_⟩
  · exact (hbefore y hy).congr Snapshot.agrees_changeRule (halike.1 y hy)
  · exact hx.congr Snapshot.agrees_changeRule halike.2.1

omit hentrance in
/-- A user who is decided by the rule, or by one before it, stays decided by it. -/
theorem DecidedBy.withShare {rule : Rule} (hrule : spec.rules[i]? = some rule)
    (hshare : rule.passPercentage.atMost share = true) (requested : Bool) {j : Nat} (hj : j ≤ i)
    (h : c.DecidedBy kind name j) :
    let raised := c.seeing (s.changeRule kind.space name i (·.withShare share))
    raised.DecidedBy kind name j ∧
      (raised.evaluateWith none requested kind name).1 =
        (c.evaluateWith none requested kind name).1 := by
  obtain ⟨s₀, spec₀, before, x, after, hentrance, hrules, rfl, hbefore, hx⟩ := h
  obtain ⟨rfl, rfl⟩ := eq_of_entrance_rules hs hentry hentrance
  obtain ⟨after', hmodify⟩ := exists_modify_append_cons hj x after (·.withShare share)
  rw [← hrules] at hmodify
  have hx' : c.Settles (c.evaluateNested maxNesting) s spec
      (if before.length = i then x.withShare share else x) := by
    split
    · next hi =>
      obtain rfl : x = rule := by simpa [hrules, ← hi] using hrule
      exact hx.withShare hshare
    · exact hx
  refine ⟨decidedBy_withShare hs hentry hself hentrance hmodify hbefore hx', ?_⟩
  have hN : (c.evaluateNested maxNesting).Refines (fun _ => True) c.own :=
    c.refines_own (Nat.le_succ _)
  rw [evaluateWith_withShare hs hentry hself hentrance, evaluateWith_none_eq hentrance, hmodify,
    evaluateRules, hrules, decideRules_of_settles hN hbefore hx,
    decideRules_of_settles hN hbefore hx']
  dsimp only
  split <;> rfl

omit hs hentry hself hentrance in
/-- Raising the share of one rule is conservative. Who gets another outcome gets that of the rule.
Who is decided by the rule, or by one before it, stays decided by it, and the outcome stays the
same. The shares of zero and less, and of one hundred and more, are no exceptions: no bucket lies
below the one, and every bucket below the other. -/
theorem outcome_of_raise (c : Context) (s : Snapshot) (requested : Bool) (kind : EntityKind)
    (name : String) (spec : Spec) (i : Nat) (rule : Rule) (share : Binary64)
    (hs : c.snapshot = some s) (hentry : s.payload.entry? kind name = some (.parsed spec))
    (hrule : spec.rules[i]? = some rule) (hshare : rule.passPercentage.atMost share = true)
    (hself : ∀ e, Relation.TransGen s.Refers (kind, name) e →
      ¬ (e.1.space = kind.space ∧ e.2 = name)) :
    let raised := c.seeing (s.changeRule kind.space name i (·.withShare share))
    let o := (c.evaluateWith none requested kind name).1
    let o' := (raised.evaluateWith none requested kind name).1
    (o' = o ∨ raised.DecidedBy kind name i ∧
      o' = { Outcome.ofSpec spec (s.details (.recognized s.source)) with
        value := rule.returnValue.passing, members := rule.returnValue.members, ruleId := rule.id,
        groupName := rule.groupName, isExperimentGroup := rule.isExperimentGroup.getD false,
        exposures := (spec.rules.take (i + 1)).flatMap (c.ruleExposures s) }) ∧
    (∀ j ≤ i, c.DecidedBy kind name j → raised.DecidedBy kind name j ∧ o' = o) ∧
    ∀ (p : Binary64), ∀ bucket < rolloutBuckets,
      ((Binary64.ofInt 100).atMost p = true →
        (Binary64.ofInt bucket).less (p.mul (Binary64.ofInt 100)) = true) ∧
      (p.atMost (Binary64.ofInt 0) = true →
        (Binary64.ofInt bucket).less (p.mul (Binary64.ofInt 100)) = false) := by
  intro raised o o'
  refine ⟨?_, fun j hj h => h.withShare hs hentry hself hrule hshare requested hj,
    fun p bucket hbucket => ⟨Binary64.less_mul_hundred hbucket,
      Binary64.less_mul_hundred_eq_false bucket⟩⟩
  cases hentrance : c.entrance kind name with
  | settled out =>
    have hentrance' := entrance_changeRule (i := i) (f := (·.withShare share)) hs hentry
      fun _ => rfl
    rw [hentrance] at hentrance'
    exact .inl ((evaluate_of_settled hentrance').trans (evaluate_of_settled hentrance).symm)
  | unreadable =>
    obtain ⟨s₀, raw, hs₀, hfailed⟩ := of_entrance_unreadable hentrance
    obtain rfl : s = s₀ := Option.some.inj (hs.symm.trans hs₀)
    rw [hentry] at hfailed
    cases hfailed
  | rules s₀ spec₀ =>
    obtain ⟨rfl, rfl⟩ := eq_of_entrance_rules hs hentry hentrance
    obtain ⟨before, after, hrules, hlength, hmodify⟩ := exists_modify_eq hrule
    have hN : (c.evaluateNested maxNesting).Refines (fun _ => True) c.own :=
      c.refines_own (Nat.le_succ _)
    have ho : o = _ := evaluateWith_none_eq hentrance requested
    have ho' : o' = _ := evaluateWith_withShare (i := i) hs hentry hself hentrance requested
    rw [evaluateRules, hrules] at ho
    rw [hmodify] at ho'
    rcases decideRules_withShare hN hshare (.ofSpec spec (s.details (.recognized s.source))) before
      after [] none with heq | ⟨hbefore, hsettles, handover⟩
    · rw [heq] at ho'
      exact .inl (ho'.trans ho.symm)
    · refine .inr ⟨?_, ?_⟩
      · exact hlength ▸ decidedBy_withShare hs hentry hself hentrance (hmodify _) hbefore hsettles
      · have handover' : s.handover? (rule.withShare share) = none := handover
        rw [decideRules_of_settles hN hbefore hsettles, decided, handover'] at ho'
        have htake : spec.rules.take (i + 1) = before ++ [rule] := by
          rw [hrules, ← hlength, List.take_length_add_append]
          rfl
        rw [htake, List.flatMap_append, List.flatMap_singleton, ho']
        rfl

end Entity

end Context

/-! ### A page opened to everyone -/

namespace Allocation

theorem outcome_of_raise_page :
    let opened := visitor.seeing
      (specs.changeRule EntityKind.layer.space "page" 0 (·.withShare (.ofInt 100)))
    (visitor.evaluateWith none false .layer "page").1.ruleId = "blue" ∧
      opened.DecidedBy .layer "page" 0 ∧
      (opened.evaluateWith none false .layer "page").1.ruleId = "closed" := by
  have hself : ∀ e, Relation.TransGen specs.Refers (.layer, "page") e →
      ¬ (e.1.space = EntityKind.layer.space ∧ e.2 = "page") := by
    intro e he
    obtain ⟨b, hb, hrefers⟩ := Relation.TransGen.tail'_iff.1 he
    have hreferred : ∀ b ∈ pageEntities, ∀ e ∈ specs.references b,
        ¬ (e.1.space = EntityKind.layer.space ∧ e.2 = "page") := by decide +kernel
    exact hreferred b (mem_pageEntities hb) e hrefers
  have hbefore : (visitor.evaluateWith none false .layer "page").1.ruleId = "blue" := by
    decide +kernel
  have hafter : ((visitor.seeing (specs.changeRule EntityKind.layer.space "page" 0
      (·.withShare (.ofInt 100)))).evaluateWith none false .layer "page").1.ruleId = "closed" := by
    decide +kernel
  refine ⟨hbefore, ?_, hafter⟩
  rcases (Context.outcome_of_raise visitor specs false .layer "page" page 0 _ (.ofInt 100) rfl rfl
    rfl (by decide +kernel) hself).1 with heq | ⟨hdecided, -⟩
  · rw [heq, hbefore] at hafter
    exact absurd hafter (by decide)
  · exact hdecided

end Allocation

end Rollout
