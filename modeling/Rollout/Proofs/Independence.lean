import Rollout.Proofs.Yield

/-!
# What decisions depend on

The outcome of an entity depends on nothing but the user, the time, and what the snapshot and the
overrides say of the entities that it refers to, directly or through others. Two snapshots that
agree on all of these (`Snapshot.AgreesAt`) bring about the same outcome, which only says where it
comes from (`Context.outcome_eq_of_agreesAt`).
-/

namespace Rollout

/-- The reason, if the specs had come from the given source. -/
def Reason.withSource (source : Source) : Reason → Reason
  | .recognized _ => .recognized source
  | .unrecognized _ => .unrecognized source
  | .unsupported _ => .unsupported source
  | .uninitialized => .uninitialized
  | .localOverride => .localOverride
  | .persisted => .persisted
  | .error => .error

/-- The outcome, if it were made from the given snapshot. -/
def Outcome.under (o : Outcome) (s : Snapshot) : Outcome :=
  { o with details := s.details (o.details.reason.withSource s.source) }

/-- Two snapshots, with overrides beside them, agree on an entity: on its entry, on the shared
conditions that its rules refer to, on the id lists that its conditions look into, and on the
overrides of it. -/
structure Snapshot.AgreesAt (s s' : Snapshot) (overrides overrides' : Overrides) (e : Entity) :
    Prop where
  entry : s'.payload.entry? e.1 e.2 = s.payload.entry? e.1 e.2
  shared : ∀ spec, s.spec? e = some spec → ∀ key, .shared key ∈ spec.tips →
    s'.payload.conditions.get? key = s.payload.conditions.get? key
  idLists : ∀ spec, s.spec? e = some spec → ∀ tip ∈ spec.tips, ∀ condition,
    s.conditionAt? tip = some condition → ∀ name, condition.idList? = some name →
    s'.idLists.get? name = s.idLists.get? name
  overrides : ∀ id, overrides'.get? ⟨e.1, e.2, id⟩ = overrides.get? ⟨e.1, e.2, id⟩

theorem Overrides.resolve?_congr {overrides overrides' : Overrides} {kind : EntityKind}
    {name : String}
    (h : ∀ id, overrides'.get? ⟨kind, name, id⟩ = overrides.get? ⟨kind, name, id⟩) (u : User)
    (spec : Option Spec) :
    overrides'.resolve? kind name u spec = overrides.resolve? kind name u spec := by
  unfold resolve?
  simp only [h]

namespace Context

variable {c c' : Context} {s s' : Snapshot} {e : Entity}

/-! ### One entity -/

/-- A rule comes to the same where the snapshots agree on its entity and on the experiments that it
refers to, and these and the gates are answered alike. -/
theorem comesAlike_of_agreesAt {P : Halt → Prop} {N N' : NestedEvaluation} {spec : Spec}
    (hspec : s.spec? e = some spec) (h : s.AgreesAt s' c.overrides c'.overrides e)
    (hrefers : ∀ e', s.Refers e e' → s.AgreesAt s' c.overrides c'.overrides e' ∧
      Refines P Outcome.Alike (N e'.1 e'.2) (N' e'.1 e'.2))
    {rule : Rule} (hrule : rule ∈ spec.rules) : rule.ComesAlike P N N' s s' where
  shared key hkey := h.shared spec hspec key (List.mem_flatMap.2 ⟨rule, hrule, hkey⟩)
  conditions tip htip condition hcondition :=
    { gate := fun _ hgate =>
        (hrefers _ (Snapshot.refers_gate hspec hrule htip hcondition hgate)).2
      idList := h.idLists spec hspec tip (List.mem_flatMap.2 ⟨rule, hrule, htip⟩) condition
        hcondition }
  parameters name hname := by
    have hentry := (hrefers _ (Snapshot.refers_experiment hspec hrule hname)).1.entry
    change s'.payload.dynamicConfigs.get? name = s.payload.dynamicConfigs.get? name at hentry
    unfold Snapshot.experiment?
    rw [hentry]
  experiment _ hname := (hrefers _ (Snapshot.refers_experiment hspec hrule hname)).2

/-- Looking up an entity brings the same where the snapshots agree on it. -/
theorem entrance_of_agreesAt (hc : c.Alike c') (hs : c.snapshot = some s)
    (hs' : c'.snapshot = some s') (h : s.AgreesAt s' c.overrides c'.overrides e) :
    (∃ o, c.entrance e.1 e.2 = .settled o ∧ c'.entrance e.1 e.2 = .settled (o.under s')) ∨
    (c.entrance e.1 e.2 = .unreadable ∧ c'.entrance e.1 e.2 = .unreadable) ∨
    ∃ spec, c.entrance e.1 e.2 = .rules s spec ∧ c'.entrance e.1 e.2 = .rules s' spec := by
  have huser : c'.user = c.user := by rw [hc]
  unfold entrance
  simp only [hs, hs', huser, Option.bind_some, h.entry, Overrides.resolve?_congr h.overrides]
  cases c.overrides.resolve? e.1 e.2 c.user ((s.payload.entry? e.1 e.2).bind Entry.get?) with
  | some forced =>
    refine .inl ⟨_, rfl, ?_⟩
    cases (s.payload.entry? e.1 e.2).bind Entry.get? <;> rfl
  | none =>
    rcases s.payload.entry? e.1 e.2 with _ | spec | raw
    · exact .inl ⟨_, rfl, rfl⟩
    · cases henabled : spec.enabled with
      | true => exact .inr (.inr ⟨spec, by simp [henabled], by simp [henabled]⟩)
      | false => exact .inl ⟨_, by simp only [henabled]; rfl, by simp only [henabled]; rfl⟩
    · exact .inr (.inl ⟨rfl, rfl⟩)

/-! ### What is referred to -/

/-- Where the snapshots agree on entities that refer to none but each other, these come out alike
when they are nested. -/
theorem refines_evaluateNested_of_closed {R : Entity → Prop} (hc : c.Alike c')
    (hs : c.snapshot = some s) (hs' : c'.snapshot = some s')
    (hclosed : ∀ e e', R e → s.Refers e e' → R e')
    (hagree : ∀ e, R e → s.AgreesAt s' c.overrides c'.overrides e) (budget : Nat) (he : R e) :
    Refines (fun _ => False) Outcome.Alike (c.evaluateNested budget e.1 e.2)
      (c'.evaluateNested budget e.1 e.2) := by
  induction budget generalizing e with
  | zero => exact .error _
  | succ budget ih =>
    rw [evaluateNested_eq, evaluateNested_eq]
    rcases entrance_of_agreesAt hc hs hs' (hagree e he) with
      ⟨o, ho, ho'⟩ | ⟨ho, ho'⟩ | ⟨spec, ho, ho'⟩
    · rw [ho, ho']
      exact .ok rfl
    · rw [ho, ho']
      exact .error _
    · rw [ho, ho']
      have hspec := Snapshot.spec?_of_parsed (of_entrance_rules ho).2
      refine (refines_evaluateRules_of_comesAlike hc none fun rule hrule =>
        comesAlike_of_agreesAt hspec (hagree e he) (fun e' hrefers => ?_) hrule).map
        fun r r' hr => hr.1
      have he' := hclosed e e' he hrefers
      exact ⟨hagree e' he', ih he'⟩

/-! ### Outcomes -/

theorem halted_under (hs : c.snapshot = some s) (hs' : c'.snapshot = some s') (h : Halt) :
    c'.halted h = (c.halted h).under s' := by
  unfold halted
  rw [hs, hs']
  cases h <;> rfl

/-- Rulings that are alike, of one spec in two snapshots, differ as the snapshots do. -/
theorem under_of_alike {N N' : NestedEvaluation} {spec : Spec} {r r' : Ruling}
    (h : c.evaluateRules N s spec none = .ok r) (h' : c'.evaluateRules N' s' spec none = .ok r')
    (halike : r.outcome.Alike r'.outcome) : r'.outcome = r.outcome.under s' := by
  have hdetails : r.outcome.details = s.details (.recognized s.source) :=
    (decideRules_eq_ok_iff.1 h).details.elim id fun h => by cases h.1
  have hdetails' : r'.outcome.details = s'.details (.recognized s'.source) :=
    (decideRules_eq_ok_iff.1 h').details.elim id fun h => by cases h.1
  rw [halike, hdetails', Outcome.under, hdetails]
  rfl

theorem evaluateWith_none_under {kind : EntityKind} {name : String} (hc : c.Alike c')
    (hs : c.snapshot = some s) (hs' : c'.snapshot = some s') (requested : Bool)
    (h : ∀ e, Relation.ReflTransGen s.Refers (kind, name) e →
      s.AgreesAt s' c.overrides c'.overrides e) :
    (c'.evaluateWith none requested kind name).1 =
      (c.evaluateWith none requested kind name).1.under s' := by
  rcases entrance_of_agreesAt (e := (kind, name)) hc hs hs' (h _ .refl) with
    ⟨o, ho, ho'⟩ | ⟨ho, ho'⟩ | ⟨spec, ho, ho'⟩
  · show (c'.evaluate none requested kind name).outcome =
      (c.evaluate none requested kind name).outcome.under s'
    rw [evaluate_of_settled ho, evaluate_of_settled ho']
  · show (c'.evaluate none requested kind name).outcome =
      (c.evaluate none requested kind name).outcome.under s'
    rw [evaluate_of_unreadable ho, evaluate_of_unreadable ho']
    exact halted_under hs hs' _
  · have hspec := Snapshot.spec?_of_parsed (of_entrance_rules ho).2
    have hrun : Refines (fun _ => False) Ruling.Alike
        (c.evaluateRules (c.evaluateNested maxNesting) s spec none)
        (c'.evaluateRules (c'.evaluateNested maxNesting) s' spec none) := by
      refine refines_evaluateRules_of_comesAlike hc none fun rule hrule =>
        comesAlike_of_agreesAt hspec (h _ .refl) (fun e' hrefers => ?_) hrule
      exact ⟨h e' (.single hrefers), refines_evaluateNested_of_closed hc hs hs'
        (fun _ _ he he' => .tail he he') h maxNesting (.single hrefers)⟩
    rw [evaluateWith_none_eq ho, evaluateWith_none_eq ho']
    cases hr : c.evaluateRules (c.evaluateNested maxNesting) s spec none with
    | error halt =>
      rw [hr] at hrun
      rw [hrun.resolve_left id]
      exact halted_under hs hs' halt
    | ok r =>
      obtain ⟨r', hr', halike⟩ := hrun.of_ok hr
      rw [hr']
      exact under_of_alike hr hr' halike.1

/-- Specs and overrides that have nothing to do with an entity do not change its outcome. If two
snapshots, with overrides beside them, agree on the entity and on all that it refers to, directly or
through others, then the outcomes differ in nothing but where they come from. -/
theorem outcome_eq_of_agreesAt (c : Context) (s s' : Snapshot) (overrides overrides' : Overrides)
    (requested : Bool) (kind : EntityKind) (name : String)
    (h : ∀ e, Relation.ReflTransGen s.Refers (kind, name) e →
      s.AgreesAt s' overrides overrides' e) :
    let o := ({ c with snapshot := some s, overrides := overrides }.evaluateWith none requested kind
      name).1
    let o' := ({ c with snapshot := some s', overrides := overrides' }.evaluateWith none requested
      kind name).1
    o' = { o with
      details :=
        { lcut := some s'.lcut, receivedAt := some s'.receivedAt
          reason := o.details.reason.withSource s'.source } } := by
  have hc : ({ c with snapshot := some s, overrides := overrides } : Context).Alike
      { c with snapshot := some s', overrides := overrides' } := rfl
  exact evaluateWith_none_under hc rfl rfl requested h

end Context

/-! ### A page among other specs -/

namespace Allocation

/-- What the page refers to, with the page. -/
def pageEntities : List Entity := [(.layer, "page"), (.gate, "staff"), (.experiment, "colors")]

/-- Later specs: the page and what it refers to are as before, and there is a new gate. -/
def laterSpecs : Snapshot :=
  { payload :=
      { featureGates := .ofList [("beta", .parsed staff), ("staff", .parsed staff)]
        dynamicConfigs := .ofList [("colors", .parsed colors)]
        layers := .ofList [("page", .parsed page)] }
    idLists := ∅, source := .bootstrap, lcut := 2, receivedAt := 3 }

/-- The new gate is forced open. -/
def betaOpen : Overrides := { entries := [(⟨.gate, "beta", none⟩, .gate true)] }

theorem mem_pageEntities {e : Entity} (h : Relation.ReflTransGen specs.Refers (.layer, "page") e) :
    e ∈ pageEntities := by
  have hclosed : ∀ e ∈ pageEntities, ∀ e' ∈ specs.references e, e' ∈ pageEntities := by
    decide +kernel
  induction h with
  | refl => exact List.mem_cons_self
  | tail _ hrefers ih => exact hclosed _ ih _ hrefers

theorem outcome_eq_of_agreesAt_page :
    (∀ e, Relation.ReflTransGen specs.Refers (.layer, "page") e →
      specs.AgreesAt laterSpecs {} betaOpen e) ∧
    let o := ({ visitor with snapshot := some specs, overrides := {} }.evaluateWith none false
      .layer "page").1
    let o' := ({ visitor with snapshot := some laterSpecs, overrides := betaOpen }.evaluateWith none
      false .layer "page").1
    o' = { o with
      details :=
        { lcut := some laterSpecs.lcut, receivedAt := some laterSpecs.receivedAt
          reason := o.details.reason.withSource laterSpecs.source } } := by
  have hagree : ∀ e, Relation.ReflTransGen specs.Refers (.layer, "page") e →
      specs.AgreesAt laterSpecs {} betaOpen e := by
    intro e he
    have hmem := mem_pageEntities he
    have hentry : laterSpecs.payload.entry? e.1 e.2 = specs.payload.entry? e.1 e.2 := by
      rcases List.mem_cons.1 hmem with rfl | hmem
      · rfl
      · rcases List.mem_cons.1 hmem with rfl | hmem
        · rfl
        · obtain rfl := List.mem_singleton.1 hmem
          rfl
    have hforeign : ∀ id, ⟨e.1, e.2, id⟩ ≠ (⟨.gate, "beta", none⟩ : OverrideKey) := by
      intro id h
      have he : e = (.gate, "beta") :=
        Prod.ext (congrArg OverrideKey.kind h) (congrArg OverrideKey.name h)
      exact absurd (he ▸ hmem) (by decide)
    exact
      { entry := hentry
        shared := fun _ _ _ _ => rfl
        idLists := fun _ _ _ _ _ _ _ _ => rfl
        overrides := fun id => by
          simp [Overrides.get?, betaOpen, List.lookup_cons, beq_eq_false_iff_ne.2 (hforeign id)] }
  refine ⟨hagree, ?_⟩
  have key := Context.outcome_eq_of_agreesAt visitor specs laterSpecs {} betaOpen false .layer
    "page" hagree
  -- Left to itself, unification would evaluate both sides rather than unfold the record updates.
  dsimp only at key ⊢
  exact key

end Allocation

end Rollout
