import Mathlib.Data.List.Chain
import Rollout.Proofs.Yield

/-!
# Why evaluations stop

An evaluation stops for a reason that can be seen in the snapshot (`Snapshot.Justifies`): some
entity that it may ask for, directly or through others, is defective (`Snapshot.Defective`), or
entities ask for each other in a chain that is longer than evaluations may be nested. One rule that
stops justifies it for its entity (`Context.justifies_evaluateRules`), and by induction on the
budget so does any nested evaluation.
-/

namespace Rollout

namespace Snapshot

variable (s : Snapshot)

/-- Evaluating an entity may ask for another one, to which it refers. An experiment that is no spec
is not asked for. -/
def Asks (e e' : Entity) : Prop :=
  s.Refers e e' ∧ (e'.1 = .experiment → (s.experiment? e'.2).isSome = true)

/-- What is wrong with an entity that makes evaluations stop. -/
inductive Defective (e : Entity) : Prop
  /-- The entry is no spec. -/
  | unreadable {raw : Json} (entry : s.payload.entry? e.1 e.2 = some (.failed raw))
  /-- A rule refers to a shared condition that does not exist. -/
  | dangling {spec : Spec} {key : String}
      (entry : s.payload.entry? e.1 e.2 = some (.parsed spec)) (referred : .shared key ∈ spec.tips)
      (missing : s.payload.conditions.get? key = none)
  /-- A rule has a condition that cannot be evaluated. -/
  | unsupported {spec : Spec} {tip : ConditionTip} {condition : Condition}
      (entry : s.payload.entry? e.1 e.2 = some (.parsed spec)) (referred : tip ∈ spec.tips)
      (found : s.conditionAt? tip = some condition) (unsupported : condition.isSupported = false)

/-- Why the evaluation of an entity may stop, if `length` is how deep it may be nested. -/
def Justifies (length : Nat) (e : Entity) : Halt → Prop
  | .unsupported => ∃ e', Relation.ReflTransGen s.Asks e e' ∧ s.Defective e'
  | .depthExceeded => ∃ path : List Entity, path.length = length ∧ List.IsChain s.Asks (e :: path)

variable {s} {e e' : Entity} {spec : Spec}

theorem Defective.justifies (h : s.Defective e) (length : Nat) :
    s.Justifies length e .unsupported := ⟨e, .refl, h⟩

/-- What justifies a halt of an entity justifies it for those that ask for it. -/
theorem Justifies.of_asks {length : Nat} {h : Halt} (hasks : s.Asks e e')
    (hj : s.Justifies length e' h) : s.Justifies (length + 1) e h := by
  cases h with
  | unsupported =>
    obtain ⟨d, hreach, hd⟩ := hj
    exact ⟨d, .head hasks hreach, hd⟩
  | depthExceeded =>
    obtain ⟨path, hlength, hchain⟩ := hj
    refine ⟨e' :: path, ?_, List.isChain_cons_cons.2 ⟨hasks, hchain⟩⟩
    rw [List.length_cons, hlength]

theorem of_handover? {rule : Rule} {target : String × Spec} (h : s.handover? rule = some target) :
    rule.delegate = some target.1 ∧ s.experiment? target.1 = some target.2 := by
  unfold handover? at h
  obtain ⟨name, hname, h⟩ := Option.bind_eq_some_iff.1 h
  obtain ⟨experiment, hexperiment, rfl⟩ := Option.map_eq_some_iff.1 h
  exact ⟨hname, hexperiment⟩

end Snapshot

namespace Context

variable {c : Context} {N : NestedEvaluation} {s : Snapshot} {P : Halt → Prop}

/-! ### Nested evaluations -/

theorem yields_gateFinding {target : Option Json} (negated : Bool)
    (hnone : target.bind Json.text? = none → P .unsupported)
    (hgate : ∀ gate, target.bind Json.text? = some gate →
      Yields P (fun _ => True) (N .gate gate)) :
    Yields P (Finding.Exposes fun _ => True) (gateFinding N target negated) := by
  unfold gateFinding
  cases htarget : target.bind Json.text? with
  | none => exact hnone htarget
  | some gate => exact (hgate gate htarget).map fun _ _ _ _ => trivial

/-- Rules stop only for a reason that is justified by their entity, if this is so of what they ask
for. -/
theorem justifies_evaluateRules {e : Entity} {spec : Spec} {length : Nat}
    (hentry : s.payload.entry? e.1 e.2 = some (.parsed spec))
    (hN : ∀ e', s.Asks e e' → Yields (s.Justifies length e') (fun _ => True) (N e'.1 e'.2))
    (stored : Option StickyValues) :
    Yields (s.Justifies (length + 1) e) (fun _ => True) (c.evaluateRules N s spec stored) := by
  have hspec := Snapshot.spec?_of_parsed hentry
  have hasks : ∀ {e'}, s.Asks e e' →
      Yields (s.Justifies (length + 1) e) (fun _ => True) (N e'.1 e'.2) := fun h =>
    (hN _ h).mono (fun _ hj => hj.of_asks h) fun _ => id
  refine yields_decideRules (fun rule hrule tip htip => ?_)
    (fun rule hrule target htarget => ?_) _ _
  · have hmem : tip ∈ spec.tips := List.mem_flatMap.2 ⟨rule, hrule, htip⟩
    unfold evaluateTip
    cases hcondition : s.conditionAt? tip with
    | none =>
      cases tip with
      | shared key =>
        exact (Snapshot.Defective.dangling hentry hmem hcondition).justifies (length + 1)
      | own condition => cases hcondition
    | some condition =>
      have hunsupported (h : condition.isSupported = false) :
          s.Justifies (length + 1) e .unsupported :=
        (Snapshot.Defective.unsupported hentry hmem hcondition h).justifies (length + 1)
      refine yields_evaluateCondition hunsupported fun hkind negated => ?_
      have hgate : condition.gate? = condition.target.bind Json.text? := by
        unfold Condition.gate?
        rcases hkind with hkind | hkind <;> rw [hkind]
      refine yields_gateFinding negated (fun hnone => hunsupported ?_) fun gate htext => ?_
      · unfold Condition.isSupported
        rcases hkind with hkind | hkind <;> rw [hkind, hnone] <;> rfl
      · exact hasks ⟨Snapshot.refers_gate hspec hrule htip hcondition (hgate.trans htext),
          by rintro ⟨⟩⟩
  · obtain ⟨hname, hexperiment⟩ := Snapshot.of_handover? htarget
    exact hasks ⟨Snapshot.refers_experiment hspec hrule hname, fun _ => by rw [hexperiment]; rfl⟩

/-- Nested evaluations stop only for a reason that is justified. -/
theorem justifies_evaluateNested (hs : c.snapshot = some s) (budget : Nat) (e : Entity) :
    Yields (s.Justifies budget e) (fun _ => True) (c.evaluateNested budget e.1 e.2) := by
  induction budget generalizing e with
  | zero => exact ⟨[], rfl, List.isChain_singleton e⟩
  | succ budget ih =>
    rw [evaluateNested_eq]
    cases hentrance : c.entrance e.1 e.2 with
    | settled o => exact trivial
    | unreadable =>
      obtain ⟨s', raw, hs', hentry⟩ := of_entrance_unreadable hentrance
      obtain rfl := Option.some.inj (hs.symm.trans hs')
      exact (Snapshot.Defective.unreadable hentry).justifies (budget + 1)
    | rules s' spec =>
      obtain ⟨hs', hentry⟩ := of_entrance_rules hentrance
      obtain rfl := Option.some.inj (hs.symm.trans hs')
      exact (justifies_evaluateRules hentry (fun e' _ => ih e') none).map fun _ _ => trivial

/-! ### Outcomes -/

variable {load : Option (String → Option StickyAssignments)} {requested : Bool} {kind : EntityKind}
  {name : String}

/-- An outcome that says so comes from an evaluation that has stopped, and for a reason that is
justified. -/
theorem exists_halt {o : Outcome} (ho : (c.evaluate load requested kind name).outcome = o)
    (h : o.details.reason.isHalt = true) :
    ∃ s halt, c.snapshot = some s ∧ o = c.halted halt ∧
      s.Justifies (maxNesting + 1) (kind, name) halt := by
  subst ho
  cases hentrance : c.entrance kind name with
  | settled o =>
    rw [evaluate_of_settled hentrance, (of_entrance_settled hentrance).2] at h
    cases h
  | unreadable =>
    obtain ⟨s, raw, hs, hentry⟩ := of_entrance_unreadable hentrance
    exact ⟨s, .unsupported, hs, evaluate_of_unreadable hentrance,
      (Snapshot.Defective.unreadable hentry).justifies _⟩
  | rules s spec =>
    obtain ⟨hs, hentry⟩ := of_entrance_rules hentrance
    obtain ⟨stored, ho⟩ := evaluate_of_rules hentrance
    rw [ho] at h ⊢
    cases hrun : c.evaluateRules (c.evaluateNested maxNesting) s spec stored with
    | error halt =>
      refine ⟨s, halt, hs, rfl, ?_⟩
      exact (justifies_evaluateRules (e := (kind, name)) hentry
        (fun e' _ => justifies_evaluateNested hs maxNesting e') stored).of_error hrun
    | ok r =>
      rw [hrun] at h
      rcases (decideRules_eq_ok_iff.1 hrun).details with hdetails | ⟨-, hdetails⟩ <;>
        · dsimp only at h
          rw [hdetails] at h
          cases h

/-- An evaluation is unsupported only if some entity that it may ask for is defective, and an error
only if entities ask for each other in a chain of 65 steps. So without defects and chains of that
length it comes out with another reason. An evaluation that has stopped leaves nothing behind. -/
theorem halts_are_justified (c : Context) (load : Option (String → Option StickyAssignments))
    (requested : Bool) (kind : EntityKind) (name : String) :
    let o := (c.evaluate load requested kind name).outcome
    (∀ source, o.details.reason = .unsupported source → ∃ s, c.snapshot = some s ∧
      ∃ e, Relation.ReflTransGen s.Asks (kind, name) e ∧ s.Defective e) ∧
    (o.details.reason = .error → ∃ s, c.snapshot = some s ∧
      ∃ path : List Entity, path.length = 65 ∧ List.IsChain s.Asks ((kind, name) :: path)) ∧
    ((∀ s, c.snapshot = some s → ∀ path : List Entity,
        List.IsChain s.Asks ((kind, name) :: path) → path.length ≤ 64) →
      o.details.reason ≠ .error) ∧
    ((∀ s, c.snapshot = some s →
        (∀ e, Relation.ReflTransGen s.Asks (kind, name) e → ¬ s.Defective e) ∧
        ∀ path : List Entity, List.IsChain s.Asks ((kind, name) :: path) → path.length ≤ 64) →
      o.details.reason = .uninitialized ∨ o.details.reason = .localOverride ∨
        o.details.reason = .persisted ∨ (∃ source, o.details.reason = .recognized source) ∨
        ∃ source, o.details.reason = .unrecognized source) ∧
    (o.details.reason = .error ∨ (∃ source, o.details.reason = .unsupported source) →
      o.value = false ∧ o.members = ∅ ∧ o.exposures = []) := by
  intro o
  have hunsupported : ∀ source, o.details.reason = .unsupported source → ∃ s, c.snapshot = some s ∧
      ∃ e, Relation.ReflTransGen s.Asks (kind, name) e ∧ s.Defective e := by
    intro source h
    obtain ⟨s, halt, hs, ho, hj⟩ := exists_halt (o := o) rfl (by rw [h]; rfl)
    cases halt with
    | unsupported => exact ⟨s, hs, hj⟩
    | depthExceeded =>
      rw [ho] at h
      cases h
  have herror : o.details.reason = .error → ∃ s, c.snapshot = some s ∧
      ∃ path : List Entity, path.length = 65 ∧ List.IsChain s.Asks ((kind, name) :: path) := by
    intro h
    obtain ⟨s, halt, hs, ho, hj⟩ := exists_halt (o := o) rfl (by rw [h]; rfl)
    cases halt with
    | unsupported =>
      rw [ho, halted, hs] at h
      cases h
    | depthExceeded => exact ⟨s, hs, hj⟩
  have hshort : (∀ s, c.snapshot = some s → ∀ path : List Entity,
      List.IsChain s.Asks ((kind, name) :: path) → path.length ≤ 64) →
      o.details.reason ≠ .error := by
    intro h hreason
    obtain ⟨s, hs, path, hlength, hchain⟩ := herror hreason
    have := h s hs path hchain
    omega
  refine ⟨hunsupported, herror, hshort, fun h => ?_, fun h => ?_⟩
  · cases hreason : o.details.reason with
    | uninitialized => exact .inl rfl
    | localOverride => exact .inr (.inl rfl)
    | persisted => exact .inr (.inr (.inl rfl))
    | recognized source => exact .inr (.inr (.inr (.inl ⟨source, rfl⟩)))
    | unrecognized source => exact .inr (.inr (.inr (.inr ⟨source, rfl⟩)))
    | unsupported source =>
      obtain ⟨s, hs, e, hreach, hdefect⟩ := hunsupported source hreason
      exact absurd hdefect ((h s hs).1 e hreach)
    | error => exact absurd hreason (hshort fun s hs => (h s hs).2)
  · obtain ⟨s, halt, -, ho, -⟩ := exists_halt (o := o) rfl
      (by rcases h with h | ⟨source, h⟩ <;> rw [h] <;> rfl)
    rw [ho]
    cases halt <;> exact ⟨rfl, rfl, rfl⟩

end Context

end Rollout
