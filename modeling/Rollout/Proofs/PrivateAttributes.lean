import Rollout.Proofs.ShownEvents
import Rollout.Proofs.Yield

/-!
# Private attributes

A condition can read a private attribute only under the name of its field or that name in lower
case. Users who differ only in private attributes that no condition of the specs reads
(`User.AlikeFor`) are decided about alike, down to the assignments that are stored for them
(`Context.evaluateWith_of_alike`).
-/

namespace Rollout

/-! ### What conditions read -/

/-- The condition reads the private attributes of the given name: it has it as its field, as it is
or in lower case. -/
def Condition.Reads (condition : Condition) (name : String) : Prop :=
  ∃ field, condition.field = some field ∧ (name = field ∨ name = Text.lowercase field)

/-- The condition stands in the specs: it is a shared one, or one of a readable spec's own. -/
inductive Snapshot.HasCondition (s : Snapshot) : Condition → Prop
  | shared {key : String} {condition : Condition}
      (h : s.payload.conditions.get? key = some condition) : s.HasCondition condition
  | own {e : Entity} {spec : Spec} {condition : Condition} (hspec : s.spec? e = some spec)
      (h : .own condition ∈ spec.tips) : s.HasCondition condition

/-- Some condition of the specs reads private attributes of the given name. -/
def Snapshot.Reads (s : Snapshot) (name : String) : Prop :=
  ∃ condition, s.HasCondition condition ∧ condition.Reads name

/-- The users differ at most in private attributes that no condition of the specs reads. -/
structure User.AlikeFor (s : Option Snapshot) (u u' : User) : Prop where
  shown : u'.shown = u.shown
  unread : ∀ name, u'.privateAttributes.get? name ≠ u.privateAttributes.get? name →
    ∀ specs, s = some specs → ¬ specs.Reads name

namespace User.AlikeFor

variable {s : Option Snapshot} {u u' : User}

theorem refl (u : User) : u.AlikeFor s u := ⟨rfl, fun _ h => absurd rfl h⟩

theorem withTier (h : u.AlikeFor s u') (tier : Option String) :
    (u.withTier tier).AlikeFor s (u'.withTier tier) := by
  obtain ⟨attributes, rfl⟩ := shown_eq_iff.1 h.shown
  unfold User.withTier
  cases tier with
  | none => exact h
  | some tier =>
    dsimp only
    split
    · exact h
    · exact ⟨rfl, h.unread⟩

/-- A field that a condition of the specs has is the same. -/
theorem field?_eq (h : u.AlikeFor s u') {specs : Snapshot} (hs : s = some specs)
    {condition : Condition} (hcondition : specs.HasCondition condition) {field : String}
    (hfield : condition.field = some field) : u'.field? field = u.field? field := by
  have hread (name : String) (hname : name = field ∨ name = Text.lowercase field) :
      u'.privateAttributes.get? name = u.privateAttributes.get? name :=
    Classical.byContradiction fun hne =>
      h.unread name hne specs hs ⟨condition, hcondition, field, hfield, hname⟩
  have hprivate : lookUp u'.privateAttributes field = lookUp u.privateAttributes field := by
    unfold lookUp
    rw [hread field (.inl rfl), hread (Text.lowercase field) (.inr rfl)]
  have hshown : u'.namedField? = u.namedField? ∧ u'.custom = u.custom := by
    obtain ⟨attributes, rfl⟩ := shown_eq_iff.1 h.shown
    exact ⟨rfl, rfl⟩
  unfold field?
  rw [hshown.1, hshown.2, hprivate]

end User.AlikeFor

/-! ### Evaluation -/

namespace Context

variable {c : Context} {u : User} {N : NestedEvaluation} {s : Snapshot}

variable (hu : c.user.AlikeFor c.snapshot u)
include hu

theorem evaluateCondition_of_alike (hs : c.snapshot = some s) {condition : Condition}
    (hcondition : s.HasCondition condition) :
    { c with user := u }.evaluateCondition N s condition = c.evaluateCondition N s condition := by
  have hfield : condition.field.bind u.field? = condition.field.bind c.user.field? := by
    cases hf : condition.field with
    | none => rfl
    | some field => exact hu.field?_eq hs hcondition hf
  obtain ⟨attributes, rfl⟩ := User.shown_eq_iff.1 hu.shown
  unfold evaluateCondition
  cases condition.kind <;> dsimp only
  case userField | ipBased | userAgentBased => rw [hfield]
  all_goals rfl

theorem evaluateEach_of_alike (hs : c.snapshot = some s) {e : Entity} {spec : Spec}
    (hspec : s.spec? e = some spec) {rule : Rule} (hrule : rule ∈ spec.rules) :
    { c with user := u }.evaluateEach N s rule.conditions = c.evaluateEach N s rule.conditions := by
  have htip : ∀ tip ∈ rule.tips,
      { c with user := u }.evaluateTip N s tip = c.evaluateTip N s tip := by
    intro tip htip
    unfold evaluateTip
    cases hc : s.conditionAt? tip with
    | none => rfl
    | some condition =>
      refine evaluateCondition_of_alike hu hs ?_
      cases tip with
      | shared key => exact .shared hc
      | own own =>
        cases hc
        exact .own hspec (List.mem_flatMap.2 ⟨rule, hrule, htip⟩)
  refine Refines.eq (refines_evaluateEach_of_tips Finding.congruence_eq fun tip h => ?_)
  rw [htip tip h]
  exact .refl (fun _ => rfl) _

theorem evaluateRules_of_alike (hs : c.snapshot = some s) {e : Entity} {spec : Spec}
    (hspec : s.spec? e = some spec) (stored : Option StickyValues) :
    { c with user := u }.evaluateRules N s spec stored = c.evaluateRules N s spec stored := by
  refine decideRules_congr (fun rule hrule => evaluateEach_of_alike hu hs hspec hrule)
    (fun _ _ _ => rfl) ?_ rfl [] none
  obtain ⟨attributes, rfl⟩ := User.shown_eq_iff.1 hu.shown
  exact fun _ => rfl

/-- Looking an entity up takes of a user only what is shown. -/
theorem entrance_of_alike (kind : EntityKind) (name : String) :
    { c with user := u }.entrance kind name = c.entrance kind name := by
  obtain ⟨attributes, rfl⟩ := User.shown_eq_iff.1 hu.shown
  rfl

theorem evaluateNested_of_alike (budget : Nat) :
    { c with user := u }.evaluateNested budget = c.evaluateNested budget := by
  induction budget with
  | zero => rfl
  | succ budget ih =>
    funext kind name
    rw [evaluateNested_eq, evaluateNested_eq, entrance_of_alike hu, ih]
    cases h : c.entrance kind name with
    | settled o => rfl
    | unreadable => rfl
    | rules s spec =>
      obtain ⟨hs, hentry⟩ := of_entrance_rules h
      dsimp only
      rw [evaluateRules_of_alike hu hs (Snapshot.spec?_of_parsed (e := (kind, name)) hentry)]

/-- Users are decided about alike, with the same assignments stored, if they differ only in private
attributes that no condition reads. -/
theorem evaluate_of_alike (load : Option (String → Option StickyAssignments)) (requested : Bool)
    (kind : EntityKind) (name : String) :
    { c with user := u }.evaluate load requested kind name =
      c.evaluate load requested kind name := by
  unfold evaluate
  rw [entrance_of_alike hu, evaluateNested_of_alike hu]
  cases h : c.entrance kind name with
  | settled o => rfl
  | unreadable => rfl
  | rules s spec =>
    obtain ⟨hs, hentry⟩ := of_entrance_rules h
    have hsticky : { c with user := u }.stickiness requested kind spec =
        c.stickiness requested kind spec := by
      obtain ⟨attributes, rfl⟩ := User.shown_eq_iff.1 hu.shown
      rfl
    have hspec := Snapshot.spec?_of_parsed (e := (kind, name)) hentry
    simp only [evaluateRules_of_alike hu hs hspec, hsticky]
    rfl

theorem evaluateWith_of_alike (storage : Option StickyStorage) (requested : Bool)
    (kind : EntityKind) (name : String) :
    { c with user := u }.evaluateWith storage requested kind name =
      c.evaluateWith storage requested kind name := by
  unfold evaluateWith
  rw [evaluate_of_alike hu]

end Context

end Rollout
