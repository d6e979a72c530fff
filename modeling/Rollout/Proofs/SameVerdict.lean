import Rollout.Proofs.Independence

/-!
# Snapshots of one origin

Where decisions come from is part of them. Two snapshots of one origin (`Snapshot.SameOrigin`) that
agree on an entity and on all that it refers to bring about the very same verdict, whatever is
stored of earlier ones (`Context.verdict_eq_of_agreesAt`).
-/

namespace Rollout

/-- The snapshots came from one place at one time, and have one version. -/
structure Snapshot.SameOrigin (s s' : Snapshot) : Prop where
  source : s'.source = s.source
  lcut : s'.lcut = s.lcut
  receivedAt : s'.receivedAt = s.receivedAt

theorem Snapshot.SameOrigin.details {s s' : Snapshot} (h : s.SameOrigin s') (reason : Reason) :
    s'.details reason = s.details reason := by
  unfold Snapshot.details
  rw [h.lcut, h.receivedAt]

namespace Context

variable {c c' : Context} {s s' : Snapshot} {e : Entity} (hc : c.Alike c')
  (ho : s.SameOrigin s')
include hc ho

/-- Looking up an entity brings the same where snapshots of one origin agree on it. -/
theorem entrance_eq_of_agreesAt (hs : c.snapshot = some s) (hs' : c'.snapshot = some s')
    (h : s.AgreesAt s' c.overrides c'.overrides e) :
    c'.entrance e.1 e.2 = match c.entrance e.1 e.2 with
      | .settled o => .settled o
      | .unreadable => .unreadable
      | .rules _ spec => .rules s' spec := by
  have huser : c'.user = c.user := by rw [hc]
  have hbeside : Catalog.detailsBeside (some s') .localOverride =
      Catalog.detailsBeside (some s) .localOverride := ho.details .localOverride
  unfold entrance
  simp only [hs, hs', huser, Option.bind_some, h.entry, Overrides.resolve?_congr h.overrides,
    hbeside, ho.details, ho.source]
  cases c.overrides.resolve? e.1 e.2 c.user ((s.payload.entry? e.1 e.2).bind Entry.get?) with
  | some forced => rfl
  | none =>
    rcases s.payload.entry? e.1 e.2 with _ | spec | raw
    · rfl
    · cases henabled : spec.enabled <;> simp [henabled]
    · rfl

omit hc in
/-- An evaluation that stops comes to the same with snapshots of one origin. -/
theorem halted_of_sameOrigin (hs : c.snapshot = some s) (hs' : c'.snapshot = some s') :
    c'.halted = c.halted := by
  funext halt
  unfold halted
  rw [hs, hs']
  cases halt with
  | unsupported =>
    show Outcome.empty (s'.details (.unsupported s'.source)) = _
    rw [ho.details, ho.source]
    rfl
  | depthExceeded => exact congrArg Outcome.empty (ho.details .error)

/-- An evaluation that gets to the rules comes to the same verdict where these come to the same,
whatever is stored. -/
theorem evaluate_eq_of_rules {kind : EntityKind} {name : String} {spec spec' : Spec}
    (hs : c.snapshot = some s) (hs' : c'.snapshot = some s')
    (h : c.entrance kind name = .rules s spec) (h' : c'.entrance kind name = .rules s' spec')
    (hsticky : spec'.isSticky = spec.isSticky) (hactive : spec'.isActive = spec.isActive)
    (hidType : spec'.idType = spec.idType)
    (hrules : ∀ stored, c'.evaluateRules (c'.evaluateNested maxNesting) s' spec' stored =
      c.evaluateRules (c.evaluateNested maxNesting) s spec stored)
    {load : Option (String → Option StickyAssignments)} {requested : Bool} :
    c'.evaluate load requested kind name = c.evaluate load requested kind name := by
  have hstickiness : c'.stickiness requested kind spec' = c.stickiness requested kind spec := by
    have huser : c'.user = c.user := by rw [hc]
    unfold stickiness
    rw [huser, hsticky, hactive, hidType]
  have hnow : c'.now = c.now := by rw [hc]
  unfold evaluate
  rw [h, h', halted_of_sameOrigin ho hs hs', hnow]
  simp only [hstickiness, hrules]

theorem evaluateRules_eq_of_agreesAt {N N' : NestedEvaluation} {spec : Spec}
    (hspec : s.spec? e = some spec) (h : s.AgreesAt s' c.overrides c'.overrides e)
    (hrefers : ∀ e', s.Refers e e' →
      s.AgreesAt s' c.overrides c'.overrides e' ∧ N' e'.1 e'.2 = N e'.1 e'.2)
    (stored : Option StickyValues) :
    c'.evaluateRules N' s' spec stored = c.evaluateRules N s spec stored := by
  have hcomes : ∀ rule ∈ spec.rules, rule.ComesAlike (fun _ => False) N N' s s' := by
    intro rule hrule
    refine comesAlike_of_agreesAt hspec h (fun e' he' => ?_) hrule
    obtain ⟨hagree, hsame⟩ := hrefers e' he'
    rw [hsame]
    exact ⟨hagree, .refl Outcome.Alike.refl _⟩
  have hdelegated : ∀ rule ∈ spec.rules, ∀ exposures base,
      delegated? N' s' spec rule exposures base = delegated? N s spec rule exposures base := by
    intro rule hrule exposures base
    unfold delegated?
    cases hname : rule.delegate with
    | none => rfl
    | some name =>
      obtain ⟨hagree, hsame⟩ := hrefers _ (Snapshot.refers_experiment hspec hrule hname)
      have hentry : s'.payload.dynamicConfigs.get? name = s.payload.dynamicConfigs.get? name :=
        hagree.entry
      have hnested : N' .experiment name = N .experiment name := hsame
      simp only [hentry, hnested]
  unfold evaluateRules
  rw [ho.details, ho.source]
  exact decideRules_congr
    (fun rule hrule => Refines.eq (refines_evaluateEach_of_tips Finding.congruence_eq
      fun tip htip => refines_evaluateTip hc (hcomes rule hrule) htip))
    (fun rule hrule exposures => hdelegated rule hrule exposures _) (hc.passes spec)
    (ho.details _) [] none

/-- Where snapshots of one origin agree on entities that refer to none but each other, these come to
the same when they are nested. -/
theorem evaluateNested_eq_of_closed {R : Entity → Prop} (hs : c.snapshot = some s)
    (hs' : c'.snapshot = some s') (hclosed : ∀ e e', R e → s.Refers e e' → R e')
    (hagree : ∀ e, R e → s.AgreesAt s' c.overrides c'.overrides e) (budget : Nat) (he : R e) :
    c'.evaluateNested budget e.1 e.2 = c.evaluateNested budget e.1 e.2 := by
  induction budget generalizing e with
  | zero => rfl
  | succ budget ih =>
    rw [evaluateNested_eq, evaluateNested_eq,
      entrance_eq_of_agreesAt hc ho hs hs' (hagree e he)]
    cases hentrance : c.entrance e.1 e.2 with
    | settled o => rfl
    | unreadable => rfl
    | rules s₀ spec =>
      obtain ⟨hs₀, hentry⟩ := of_entrance_rules hentrance
      obtain rfl : s = s₀ := Option.some.inj (hs.symm.trans hs₀)
      dsimp only
      rw [evaluateRules_eq_of_agreesAt hc ho (Snapshot.spec?_of_parsed hentry) (hagree e he)]
      intro e' hrefers
      have he' := hclosed e e' he hrefers
      exact ⟨hagree e' he', ih he'⟩

/-- An entity comes to the same verdict in two snapshots of one origin that agree on it and on all
that it refers to, directly or through others. -/
theorem verdict_eq_of_agreesAt {kind : EntityKind} {name : String} (hs : c.snapshot = some s)
    (hs' : c'.snapshot = some s')
    (h : ∀ e, Relation.ReflTransGen s.Refers (kind, name) e →
      s.AgreesAt s' c.overrides c'.overrides e)
    (load : Option (String → Option StickyAssignments)) (requested : Bool) :
    c'.evaluate load requested kind name = c.evaluate load requested kind name := by
  have hentrance' := entrance_eq_of_agreesAt (e := (kind, name)) hc ho hs hs' (h _ .refl)
  cases hentrance : c.entrance kind name with
  | settled o =>
    rw [hentrance] at hentrance'
    unfold evaluate
    rw [hentrance, hentrance']
  | unreadable =>
    rw [hentrance] at hentrance'
    unfold evaluate
    rw [hentrance, hentrance', halted_of_sameOrigin ho hs hs']
  | rules s₀ spec =>
    rw [hentrance] at hentrance'
    obtain ⟨hs₀, hentry⟩ := of_entrance_rules hentrance
    obtain rfl : s = s₀ := Option.some.inj (hs.symm.trans hs₀)
    have hspec := Snapshot.spec?_of_parsed (e := (kind, name)) hentry
    have hnested : ∀ e', s.Refers (kind, name) e' → s.AgreesAt s' c.overrides c'.overrides e' ∧
        c'.evaluateNested maxNesting e'.1 e'.2 = c.evaluateNested maxNesting e'.1 e'.2 :=
      fun e' hrefers => ⟨h e' (.single hrefers), evaluateNested_eq_of_closed hc ho hs hs'
        (fun _ _ he he' => .tail he he') h maxNesting (.single hrefers)⟩
    exact evaluate_eq_of_rules hc ho hs hs' hentrance hentrance' rfl rfl rfl
      (evaluateRules_eq_of_agreesAt hc ho hspec (h _ .refl) hnested)

end Context

end Rollout
