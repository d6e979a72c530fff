import Rollout.Proofs.RuleOrder

/-!
# What evaluations yield

`Yields P Q a` says that `a` succeeds with a result in `Q`, or stops for a reason in `P`. Trees of
conditions and rules stop only for what one of the tips stops for, and expose only what the tips
expose, apart from the experiments that rules hand over to (`Context.yields_evaluateEach`,
`Context.yields_decideRules`).
-/

namespace Rollout

/-! ### Rules of yielding -/

/-- `a` succeeds with a result in `Q`, or stops for a reason in `P`. -/
def Yields {α : Type} (P : Halt → Prop) (Q : α → Prop) : Except Halt α → Prop
  | .ok x => Q x
  | .error h => P h

namespace Yields

variable {α β : Type} {P : Halt → Prop} {Q : α → Prop} {S : β → Prop} {a : Except Halt α}

theorem bind {f : α → Except Halt β} (h : Yields P Q a) (hf : ∀ x, Q x → Yields P S (f x)) :
    Yields P S (a >>= f) := by
  cases a with
  | error e => exact h
  | ok x => exact hf x h

theorem map {f : α → β} (h : Yields P Q a) (hf : ∀ x, Q x → S (f x)) : Yields P S (a.map f) := by
  cases a with
  | error e => exact h
  | ok x => exact hf x h

theorem mono {P' : Halt → Prop} {Q' : α → Prop} (h : Yields P Q a) (hP : ∀ e, P e → P' e)
    (hQ : ∀ x, Q x → Q' x) : Yields P' Q' a := by
  cases a with
  | error e => exact hP e h
  | ok x => exact hQ x h

theorem of_ok {x : α} (h : Yields P Q a) (ha : a = .ok x) : Q x := by
  subst ha
  exact h

theorem of_error {e : Halt} (h : Yields P Q a) (ha : a = .error e) : P e := by
  subst ha
  exact h

end Yields

/-- All that is exposed is in `X`. -/
def Finding.Exposes (X : SecondaryExposure → Prop) (f : Finding) : Prop := ∀ x ∈ f.exposures, X x

theorem Finding.exposes_append {X : SecondaryExposure → Prop} {f g : Finding} {holds : Bool}
    (hf : f.Exposes X) (hg : g.Exposes X) :
    Finding.Exposes X { holds, exposures := f.exposures ++ g.exposures } :=
  List.forall_mem_append.2 ⟨hf, hg⟩

/-- Whether a condition can be evaluated: it asks for a gate by name, or applies an operator that is
known. -/
def Condition.isSupported (condition : Condition) : Bool :=
  match condition.kind with
  | .everyone => true
  | .passGate | .failGate => (condition.target.bind Json.text?).isSome
  | .userField | .ipBased | .userAgentBased | .environmentField | .currentTime | .userBucket
  | .unitId => condition.operator.any (· != .unknown)
  | .unknown => false

namespace Context

variable {c : Context} {N : NestedEvaluation} {s : Snapshot} {P : Halt → Prop}
  {X : SecondaryExposure → Prop}

/-! ### Conditions -/

theorem yields_testFinding {condition : Condition} {value : Option Attribute}
    (h : condition.operator = none ∨ condition.operator = some .unknown → P .unsupported) :
    Yields P (Finding.Exposes X) (testFinding s condition value) := by
  unfold testFinding
  cases ho : condition.operator with
  | none => exact h (.inl ho)
  | some o =>
    cases o with
    | unknown => exact h (.inr ho)
    | _ => exact fun x hx => absurd hx List.not_mem_nil

/-- A condition stops if it cannot be evaluated, and otherwise for what the gate stops for that it
asks for. -/
theorem yields_evaluateCondition {condition : Condition}
    (hsupported : condition.isSupported = false → P .unsupported)
    (hgate : condition.kind = .passGate ∨ condition.kind = .failGate → ∀ negated,
      Yields P (Finding.Exposes X) (gateFinding N condition.target negated)) :
    Yields P (Finding.Exposes X) (c.evaluateCondition N s condition) := by
  unfold Condition.isSupported at hsupported
  unfold evaluateCondition
  cases hkind : condition.kind <;> rw [hkind] at hsupported hgate
  case everyone => exact fun _ hx => absurd hx List.not_mem_nil
  case passGate => exact hgate (.inl rfl) _
  case failGate => exact hgate (.inr rfl) _
  case unknown => exact hsupported rfl
  all_goals exact yields_testFinding fun hop =>
    hsupported (by rcases hop with hop | hop <;> rw [hop] <;> rfl)

mutual

theorem yields_evaluateNode : ∀ {n : ConditionNode},
    (∀ tip ∈ n.tips, Yields P (Finding.Exposes X) (c.evaluateTip N s tip)) →
    Yields P (Finding.Exposes X) (c.evaluateNode N s n)
  | .all children, h => by
    unfold evaluateNode
    exact yields_evaluateAll h
  | .any children, h => by
    unfold evaluateNode
    exact yields_evaluateAny h
  | .ref key, h => by
    unfold evaluateNode
    exact h (.shared key) (List.mem_singleton_self _)
  | .leaf condition, h => by
    unfold evaluateNode
    exact h (.own condition) (List.mem_singleton_self _)

theorem yields_evaluateAll : ∀ {l : List ConditionNode},
    (∀ tip ∈ ConditionNode.tipsOfAll l, Yields P (Finding.Exposes X) (c.evaluateTip N s tip)) →
    Yields P (Finding.Exposes X) (c.evaluateAll N s l)
  | [], _ => fun _ hx => absurd hx List.not_mem_nil
  | n :: rest, h => by
    rw [ConditionNode.tipsOfAll, List.forall_mem_append] at h
    unfold evaluateAll
    refine (yields_evaluateNode h.1).bind fun f hf => ?_
    cases f.holds with
    | false => exact hf
    | true => exact (yields_evaluateAll h.2).bind fun r hr => Finding.exposes_append hf hr

theorem yields_evaluateAny : ∀ {l : List ConditionNode},
    (∀ tip ∈ ConditionNode.tipsOfAll l, Yields P (Finding.Exposes X) (c.evaluateTip N s tip)) →
    Yields P (Finding.Exposes X) (c.evaluateAny N s l)
  | [], _ => fun _ hx => absurd hx List.not_mem_nil
  | n :: rest, h => by
    rw [ConditionNode.tipsOfAll, List.forall_mem_append] at h
    unfold evaluateAny
    refine (yields_evaluateNode h.1).bind fun f hf => ?_
    cases f.holds with
    | true => exact hf
    | false => exact (yields_evaluateAny h.2).bind fun r hr => Finding.exposes_append hf hr

end

/-- The conditions of a rule stop for what one of their tips stops for, and expose what these
expose. -/
theorem yields_evaluateEach {l : List ConditionNode}
    (h : ∀ tip ∈ l.flatMap ConditionNode.tips,
      Yields P (Finding.Exposes X) (c.evaluateTip N s tip)) :
    Yields P (Finding.Exposes X) (c.evaluateEach N s l) := by
  induction l with
  | nil => exact fun _ hx => absurd hx List.not_mem_nil
  | cons n rest ih =>
    rw [List.flatMap_cons, List.forall_mem_append] at h
    unfold evaluateEach
    refine (yields_evaluateNode h.1).bind fun f hf => ?_
    exact (ih h.2).bind fun r hr => Finding.exposes_append hf hr

/-! ### Rules -/

variable {spec : Spec} {base : Outcome} {stored : Option StickyValues}

/-- Rules stop for what one of their tips stops for, or an experiment that one of them hands over
to. -/
theorem yields_decideRules {rules : List Rule}
    (htips : ∀ rule ∈ rules, ∀ tip ∈ rule.tips,
      Yields P (Finding.Exposes fun _ => True) (c.evaluateTip N s tip))
    (hhandover : ∀ rule ∈ rules, ∀ target, s.handover? rule = some target →
      Yields P (fun _ => True) (N .experiment target.1))
    (exposures : List SecondaryExposure) (last : Option Rule) :
    Yields P (fun _ => True) (c.decideRules N s spec base stored rules exposures last) := by
  induction rules generalizing exposures last with
  | nil => exact trivial
  | cons rule rest ih =>
    rw [List.forall_mem_cons] at htips hhandover
    have hrest := ih htips.2 hhandover.2
    have heach : Yields P (Finding.Exposes fun _ => True) (c.evaluateEach N s rule.conditions) :=
      yields_evaluateEach htips.1
    unfold decideRules
    refine heach.bind fun f _ => ?_
    cases f.holds with
    | false => exact hrest _ _
    | true =>
      have hdelegated : Yields P (fun _ => True)
          (delegated? N s spec rule (exposures ++ f.exposures) base) := by
        rw [delegated?_eq]
        cases hh : s.handover? rule with
        | none => exact trivial
        | some target => exact (hhandover.1 target hh).map fun _ _ => trivial
      refine hdelegated.bind fun d _ => ?_
      cases d with
      | some o => exact trivial
      | none =>
        dsimp only
        cases stored.filter (·.ruleId == rule.id) with
        | some values => exact trivial
        | none =>
          dsimp only
          cases c.passes spec rule with
          | true => exact trivial
          | false => exact hrest _ _

/-- What a run over rules comes to says of itself what the spec does, unless it was stored. -/
theorem RuleRun.details {rules : List Rule} {exposures : List SecondaryExposure}
    {last : Option Rule} {r : Ruling}
    (h : c.RuleRun s N spec base stored rules exposures last r) :
    r.outcome.details = base.details ∨
      stored.isSome = true ∧ r.outcome.details = s.details .persisted := by
  induction h with
  | @exhausted exposures last => cases last <;> exact .inl rfl
  | fails _ _ _ ih => exact ih
  | handsOver => exact .inl rfl
  | remembers _ _ _ recalled =>
    obtain ⟨hstored, -⟩ := Option.filter_eq_some_iff.1 recalled
    exact .inr ⟨by rw [hstored]; rfl, rfl⟩
  | letsIn => exact .inl rfl
  | turnsAway _ _ _ _ _ _ ih => exact ih

end Context

/-! ### Looking up an entity -/

/-- Whether the reason says that an evaluation has stopped without an outcome. -/
def Reason.isHalt : Reason → Bool
  | .unsupported _ | .error => true
  | _ => false

/-- The outcome exposes nothing, and was not taken over from an experiment. -/
structure Outcome.IsBare (o : Outcome) : Prop where
  exposures : o.exposures = []
  undelegated : o.undelegatedExposures = none
  delegate : o.delegate = none

namespace Context

variable {c : Context} {s : Snapshot} {kind : EntityKind} {name : String}

theorem isBare_halted (c : Context) (h : Halt) : (c.halted h).IsBare := by
  cases h <;> exact ⟨rfl, rfl, rfl⟩

/-- What is settled before any rule is tried exposes nothing and hands nothing over. -/
theorem of_entrance_settled {o : Outcome} (h : c.entrance kind name = .settled o) :
    o.IsBare ∧ o.details.reason.isHalt = false := by
  unfold entrance at h
  dsimp only at h
  split at h
  · cases h
    cases (c.snapshot.bind (·.payload.entry? kind name)).bind Entry.get? <;>
      exact ⟨⟨rfl, rfl, rfl⟩, rfl⟩
  · split at h
    · cases h
      exact ⟨⟨rfl, rfl, rfl⟩, rfl⟩
    · split at h
      · cases h
        exact ⟨⟨rfl, rfl, rfl⟩, rfl⟩
      · cases h
      · split at h
        · cases h
        · cases h
          exact ⟨⟨rfl, rfl, rfl⟩, rfl⟩

theorem of_entrance_unreadable (h : c.entrance kind name = .unreadable) :
    ∃ s raw, c.snapshot = some s ∧ s.payload.entry? kind name = some (.failed raw) := by
  unfold entrance at h
  dsimp only at h
  cases hs : c.snapshot with
  | none =>
    rw [hs] at h
    split at h <;> cases h
  | some s =>
    rw [hs] at h
    split at h
    · cases h
    · rcases hentry : s.payload.entry? kind name with _ | spec | raw <;>
        simp only [Option.bind_some, hentry] at h
      · cases h
      · split at h <;> cases h
      · exact ⟨s, raw, rfl, hentry⟩

theorem of_entrance_rules {spec : Spec} (h : c.entrance kind name = .rules s spec) :
    c.snapshot = some s ∧ s.payload.entry? kind name = some (.parsed spec) := by
  unfold entrance at h
  dsimp only at h
  cases hs : c.snapshot with
  | none =>
    rw [hs] at h
    split at h <;> cases h
  | some s' =>
    rw [hs] at h
    split at h
    · cases h
    · rcases hentry : s'.payload.entry? kind name with _ | spec | raw <;>
        simp only [Option.bind_some, hentry] at h
      · cases h
      · split at h
        · cases h
          exact ⟨rfl, hentry⟩
        · cases h
      · cases h

/-- The readable spec of an entity, if there is one. -/
def spec? (c : Context) (kind : EntityKind) (name : String) : Option Spec :=
  (c.snapshot.bind (·.payload.entry? kind name)).bind Entry.get?

theorem spec?_of_entrance_rules {spec : Spec} (h : c.entrance kind name = .rules s spec) :
    c.spec? kind name = some spec := by
  obtain ⟨hs, hentry⟩ := of_entrance_rules h
  unfold spec?
  rw [hs, Option.bind_some, hentry]
  rfl

/-! ### Evaluating an entity -/

variable {load : Option (String → Option StickyAssignments)} {requested : Bool}

theorem evaluate_of_settled {o : Outcome} (h : c.entrance kind name = .settled o) :
    (c.evaluate load requested kind name).outcome = o := by
  unfold evaluate
  rw [h]

theorem evaluate_of_unreadable (h : c.entrance kind name = .unreadable) :
    (c.evaluate load requested kind name).outcome = c.halted .unsupported := by
  unfold evaluate
  rw [h]

/-- The assignment that rules are to take into account. -/
def Stickiness.recall (load : Option (String → Option StickyAssignments)) (name : String) :
    Stickiness → Option StickyValues
  | .keep key => (load.bind (· key)).bind (·.get? name)
  | _ => Option.none

theorem evaluate_eq_recall {spec : Spec} (h : c.entrance kind name = .rules s spec) :
    (c.evaluate load requested kind name).outcome =
      match c.evaluateRules (c.evaluateNested maxNesting) s spec
        ((c.stickiness requested kind spec).recall load name) with
      | .ok r => r.outcome
      | .error halt => c.halted halt := by
  have hmatch (x : Except Halt Ruling) : (match x with
      | .ok r => r
      | .error halt => { outcome := c.halted halt } : Ruling).outcome = match x with
      | .ok r => r.outcome
      | .error halt => c.halted halt := by
    cases x <;> rfl
  unfold evaluate
  rw [h]
  dsimp only
  cases load with
  | none => cases c.stickiness requested kind spec <;> exact hmatch _
  | some load => cases c.stickiness requested kind spec <;> exact hmatch _

/-- An evaluation that gets to the rules comes out with what these come to, for some stored
assignment, or stops. -/
theorem evaluate_of_rules {spec : Spec} (h : c.entrance kind name = .rules s spec) :
    ∃ stored, (c.evaluate load requested kind name).outcome =
      match c.evaluateRules (c.evaluateNested maxNesting) s spec stored with
      | .ok r => r.outcome
      | .error halt => c.halted halt :=
  ⟨_, evaluate_eq_recall h⟩

end Context

end Rollout
