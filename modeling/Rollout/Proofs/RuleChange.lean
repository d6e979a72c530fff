import Rollout.Proofs.Halting
import Rollout.Proofs.PayloadGaps
import Rollout.Proofs.SameVerdict
import Rollout.Proofs.ShareChange

/-!
# Changing one rule

A rule of a snapshot is known by the namespace and the name of its entity and by its position among
the rules. `Snapshot.changeRule` changes it and leaves all else as it is, so entities that do not
refer to the one with the rule agree as they did (`Snapshot.agreesAt_changeRule`).

Looking up any entity brings the same then, but for that one rule
(`Context.entrance_changeRule_rel`).
-/

namespace Rollout

/-! ### One entry -/

/-- The entry with its value changed, if it could be read. -/
def Entry.map {α : Type} (f : α → α) : Entry α → Entry α
  | .parsed a => .parsed (f a)
  | .failed raw => .failed raw

/-- The map with the value of a key changed, if it has one. -/
def Dict.update {α : Type} (d : Dict α) (k : String) (f : α → α) : Dict α :=
  match d.get? k with
  | some v => d.insert k (f v)
  | none => d

theorem Dict.get?_update {α : Type} (d : Dict α) (k k' : String) (f : α → α) :
    (d.update k f).get? k' = if k' = k then (d.get? k').map f else d.get? k' := by
  unfold update
  by_cases hk : k' = k
  · subst hk
    cases hv : d.get? k' with
    | none => simp [hv]
    | some v => simp [get?_insert]
  · cases d.get? k with
    | none => simp [hk]
    | some v => simp [get?_insert, hk]

/-- The spec with the rule at a position changed. -/
def Spec.changeRule (spec : Spec) (i : Nat) (f : Rule → Rule) : Spec :=
  { spec with rules := spec.rules.modify i f }

namespace Snapshot

/-- The snapshot with one rule of an entity changed, if it has the rule. -/
def changeRule (s : Snapshot) (space : Namespace) (name : String) (i : Nat) (f : Rule → Rule) :
    Snapshot :=
  { s with
    payload := s.payload.withSpecs space
      ((s.payload.specs space).update name (Entry.map (·.changeRule i f))) }

variable {s : Snapshot} {space : Namespace} {name : String} {i : Nat} {f : Rule → Rule}

theorem sameOrigin_changeRule : s.SameOrigin (s.changeRule space name i f) := ⟨rfl, rfl, rfl⟩

theorem conditions_changeRule :
    (s.changeRule space name i f).payload.conditions = s.payload.conditions := by
  cases space <;> rfl

theorem entry?_changeRule (kind : EntityKind) (other : String) :
    (s.changeRule space name i f).payload.entry? kind other =
      if kind.space = space ∧ other = name then
        (s.payload.entry? kind other).map (Entry.map (·.changeRule i f))
      else s.payload.entry? kind other := by
  unfold changeRule
  rw [Payload.entry?_eq, Payload.entry?_eq, Payload.specs_withSpecs]
  by_cases hspace : kind.space = space
  · rw [if_pos hspace, Dict.get?_update, hspace]
    simp only [true_and]
  · rw [if_neg hspace, if_neg fun h => hspace h.1]

theorem entry?_changeRule_of_ne {e : Entity} (h : ¬ (e.1.space = space ∧ e.2 = name)) :
    (s.changeRule space name i f).payload.entry? e.1 e.2 = s.payload.entry? e.1 e.2 := by
  rw [entry?_changeRule, if_neg h]

theorem entry?_changeRule_of_parsed {kind : EntityKind} {spec : Spec}
    (h : s.payload.entry? kind name = some (.parsed spec)) :
    (s.changeRule kind.space name i f).payload.entry? kind name =
      some (.parsed (spec.changeRule i f)) := by
  rw [entry?_changeRule, if_pos ⟨rfl, rfl⟩, h]
  rfl

/-- The snapshots agree on all entities but the one with the rule. -/
theorem agreesAt_changeRule (overrides : Overrides) {e : Entity}
    (h : ¬ (e.1.space = space ∧ e.2 = name)) :
    s.AgreesAt (s.changeRule space name i f) overrides overrides e where
  entry := entry?_changeRule_of_ne h
  shared _ _ _ _ := by rw [conditions_changeRule]
  idLists _ _ _ _ _ _ _ _ := rfl
  overrides _ := rfl

/-- The snapshots agree on what rules need apart from other entities. -/
theorem agrees_changeRule : s.Agrees (s.changeRule space name i f) where
  idLists := rfl
  conditions := conditions_changeRule
  parameters other := by
    have hentry : (s.changeRule space name i f).payload.dynamicConfigs.get? other = _ :=
      entry?_changeRule .experiment other
    unfold experiment?
    rw [hentry]
    split
    · show (((s.payload.dynamicConfigs.get? other).map _).bind Entry.get?).map _ = _
      rcases s.payload.dynamicConfigs.get? other with _ | _ | _ <;> rfl
    · rfl

end Snapshot

/-! ### Whom a rule lets in -/

/-- An override forces the same, whomever a rule lets in. -/
theorem OverrideValue.outcome?_changeRule (v : OverrideValue) (spec : Spec) (i : Nat)
    {f : Rule → Rule} (hf : ∀ r : Rule, r.SameButEntry (f r)) :
    v.outcome? (some (spec.changeRule i f)) = v.outcome? (some spec) := by
  cases v with
  | gate value => rfl
  | config members => rfl
  | group name =>
    unfold OverrideValue.outcome? Spec.changeRule
    dsimp only [Option.bind_some]
    induction spec.rules generalizing i with
    | nil => simp
    | cons r rest ih =>
      cases i with
      | zero =>
        rw [List.modify_zero_cons, List.find?_cons, List.find?_cons, hf r]
        cases r.groupName == some name <;> rfl
      | succ i =>
        rw [List.modify_succ_cons, List.find?_cons, List.find?_cons]
        cases r.groupName == some name with
        | true => rfl
        | false => exact ih i

theorem Overrides.resolve?_changeRule (overrides : Overrides) (kind : EntityKind) (name : String)
    (u : User) (spec : Spec) (i : Nat) {f : Rule → Rule} (hf : ∀ r : Rule, r.SameButEntry (f r)) :
    overrides.resolve? kind name u (some (spec.changeRule i f)) =
      overrides.resolve? kind name u (some spec) := by
  unfold Overrides.resolve?
  simp only [OverrideValue.outcome?_changeRule _ spec i hf]

theorem forall₂_modify {α : Type} {R : α → α → Prop} {l : List α} {i : Nat} {f : α → α}
    (hsame : ∀ a ∈ l, R a a) (hchanged : ∀ a, l[i]? = some a → R a (f a)) :
    List.Forall₂ R l (l.modify i f) := by
  induction l generalizing i with
  | nil => simp
  | cons a l ih =>
    rw [List.forall_mem_cons] at hsame
    cases i with
    | zero => exact .cons (hchanged a rfl) (List.forall₂_same.2 hsame.2)
    | succ i => exact .cons hsame.1 (ih hsame.2 hchanged)

/-- A rule of an entity comes to the same, whatever rule is changed, where what the entity refers to
is answered the same. -/
theorem Rule.comesAlike_changeRule {P : Halt → Prop} {N N' : NestedEvaluation} {s : Snapshot}
    {space : Namespace} {name : String} {i : Nat} {f : Rule → Rule} {e : Entity} {spec : Spec}
    (hspec : s.spec? e = some spec) (hN : ∀ e', s.Refers e e' → N' e'.1 e'.2 = N e'.1 e'.2)
    {rule : Rule} (hrule : rule ∈ spec.rules) :
    rule.ComesAlike P N N' s (s.changeRule space name i f) where
  shared _ _ := by rw [Snapshot.conditions_changeRule]
  conditions tip htip condition hcondition :=
    { gate gate hgate := by
        have hsame : N' .gate gate = N .gate gate :=
          hN _ (Snapshot.refers_gate hspec hrule htip hcondition hgate)
        rw [hsame]
        exact .refl Outcome.Alike.refl _
      idList _ _ := rfl }
  parameters other _ := Snapshot.agrees_changeRule.parameters other
  experiment other hother := by
    have hsame : N' .experiment other = N .experiment other :=
      hN _ (Snapshot.refers_experiment hspec hrule hother)
    rw [hsame]
    exact .refl Outcome.Alike.refl _

/-! ### Looking up an entity -/

namespace Context

variable {c c' : Context} {N N' : NestedEvaluation} {s s' : Snapshot} {spec spec' : Spec}
  {base : Outcome} {stored : Option StickyValues}

theorem alike_seeing (s : Snapshot) : c.Alike (c.seeing s) := rfl

theorem halted_changeRule (hs : c.snapshot = some s) (space : Namespace) (name : String) (i : Nat)
    (f : Rule → Rule) : (c.seeing (s.changeRule space name i f)).halted = c.halted :=
  halted_of_sameOrigin Snapshot.sameOrigin_changeRule hs rfl

theorem eq_of_entrance_rules (hs : c.snapshot = some s) {kind : EntityKind} {name : String}
    (hentry : s.payload.entry? kind name = some (.parsed spec)) {s₀ : Snapshot} {spec₀ : Spec}
    (h : c.entrance kind name = .rules s₀ spec₀) : s = s₀ ∧ spec = spec₀ := by
  obtain ⟨hs₀, hentry₀⟩ := of_entrance_rules h
  obtain rfl : s = s₀ := Option.some.inj (hs.symm.trans hs₀)
  rw [hentry] at hentry₀
  cases hentry₀
  exact ⟨rfl, rfl⟩

/-- Looking up an entity brings the same, but for the rule that is changed in whom it lets in. -/
theorem entrance_changeRule (hs : c.snapshot = some s) {kind : EntityKind} {name : String}
    (hentry : s.payload.entry? kind name = some (.parsed spec)) {i : Nat} {f : Rule → Rule}
    (hf : ∀ r : Rule, r.SameButEntry (f r)) :
    (c.seeing (s.changeRule kind.space name i f)).entrance kind name =
      match c.entrance kind name with
      | .settled o => .settled o
      | .unreadable => .unreadable
      | .rules _ spec => .rules (s.changeRule kind.space name i f) (spec.changeRule i f) := by
  unfold entrance seeing
  simp only [hs, hentry, Option.bind_some, Snapshot.entry?_changeRule_of_parsed hentry, Entry.get?,
    Overrides.resolve?_changeRule _ _ _ _ spec i hf]
  cases c.overrides.resolve? kind name c.user (some spec) with
  | some forced => rfl
  | none =>
    have henabled : (spec.changeRule i f).enabled = spec.enabled := rfl
    rw [henabled]
    cases spec.enabled <;> rfl

/-- Looking up any entity brings the same, but for the rule that is changed. -/
theorem entrance_changeRule_rel (hs : c.snapshot = some s) {kind : EntityKind} {name : String}
    (hentry : s.payload.entry? kind name = some (.parsed spec)) {i : Nat} {rule : Rule}
    (hrule : spec.rules[i]? = some rule) {f : Rule → Rule}
    (hf : ∀ r : Rule, r.SameButEntry (f r)) (other : EntityKind) (otherName : String) :
    let s' := s.changeRule kind.space name i f
    (∃ o, c.entrance other otherName = .settled o ∧
      (c.seeing s').entrance other otherName = .settled o) ∨
    (c.entrance other otherName = .unreadable ∧
      (c.seeing s').entrance other otherName = .unreadable) ∨
    ∃ spec rules', c.entrance other otherName = .rules s spec ∧
      (c.seeing s').entrance other otherName = .rules s' { spec with rules := rules' } ∧
      List.Forall₂ (fun r r' => r' = r ∨ r = rule ∧ r' = f r) spec.rules rules' := by
  intro s'
  by_cases hother : other.space = kind.space ∧ otherName = name
  · obtain ⟨hspace, rfl⟩ := hother
    have hentry' : s.payload.entry? other otherName = some (.parsed spec) := by
      rw [Payload.entry?_eq, hspace, ← Payload.entry?_eq]
      exact hentry
    have hentrance := entrance_changeRule (i := i) hs hentry' hf
    rw [hspace] at hentrance
    cases h : c.entrance other otherName with
    | settled o => exact .inl ⟨o, rfl, by rw [hentrance, h]⟩
    | unreadable => exact .inr (.inl ⟨rfl, by rw [hentrance, h]⟩)
    | rules s₀ spec₀ =>
      obtain ⟨rfl, rfl⟩ := eq_of_entrance_rules hs hentry' h
      refine .inr (.inr ⟨spec, spec.rules.modify i f, rfl, by rw [hentrance, h]; rfl, ?_⟩)
      refine forall₂_modify (fun _ _ => .inl rfl) fun r hr => .inr ⟨?_, rfl⟩
      exact Option.some.inj (hr.symm.trans hrule)
  · have hentrance := entrance_eq_of_agreesAt (e := (other, otherName))
      (show c.Alike (c.seeing s') from rfl) Snapshot.sameOrigin_changeRule hs rfl
      (Snapshot.agreesAt_changeRule c.overrides hother)
    cases h : c.entrance other otherName with
    | settled o => exact .inl ⟨o, rfl, by rw [hentrance, h]⟩
    | unreadable => exact .inr (.inl ⟨rfl, by rw [hentrance, h]⟩)
    | rules s₀ spec₀ =>
      obtain rfl : s = s₀ := Option.some.inj (hs.symm.trans (of_entrance_rules h).1)
      exact .inr (.inr ⟨spec₀, spec₀.rules, rfl, by rw [hentrance, h],
        List.forall₂_same.2 fun _ _ => .inl rfl⟩)

/-- Handing over comes to the same where the experiment is answered the same and says the same of
its parameters. -/
theorem delegated?_congr {rule : Rule} (hdefault : spec'.defaultValue = spec.defaultValue)
    (hparameters : ∀ name, rule.delegate = some name →
      (s'.experiment? name).map (·.explicitParameters) =
        (s.experiment? name).map (·.explicitParameters))
    (hanswer : ∀ name, rule.delegate = some name → N' .experiment name = N .experiment name)
    (exposures : List SecondaryExposure) :
    delegated? N' s' spec' rule exposures base = delegated? N s spec rule exposures base := by
  rw [delegated?_eq, delegated?_eq]
  have hrel := Snapshot.handover?_rel hparameters
  have hname : ∀ t, s.handover? rule = some t → rule.delegate = some t.1 :=
    fun t ht => (Snapshot.of_handover? ht).1
  generalize s.handover? rule = t, s'.handover? rule = t' at hrel hname ⊢
  cases hrel with
  | none => rfl
  | some h =>
    dsimp only
    unfold handedOver
    rw [h.1, h.2, hanswer _ (hname _ rfl), hdefault]

end Context

end Rollout
