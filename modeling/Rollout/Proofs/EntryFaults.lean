import Rollout.Proofs.Interleaving
import Rollout.Proofs.PayloadGaps
import Rollout.Proofs.Publication
import Rollout.Proofs.SameVerdict

/-!
# Entries that are not understood

One entry of a payload has no say over the others, as long as its value can be read at all. If a
payload is accepted, it is accepted with any such value in the place of one spec or one parameter
(`Catalog.apply_fill`), and only what gets to that place through references can come out
differently. A value that is no spec makes its entity unsupported, and nothing else. But what cannot
be read at all, such as a number out of range, takes the whole payload with it
(`EntryGap.isolates_faults`).
-/

namespace Rollout

open Json (Document)

/-! ### What gets to an entry -/

/-- The entity that a parameter is read from. -/
def Parameter.reference? : Parameter → Option Entity
  | .static _ => none
  | .gate name .. => some (.gate, name)
  | .dynamicConfig name _ => some (.dynamicConfig, name)
  | .experiment name _ => some (.experiment, name)
  | .layer name _ => some (.layer, name)

namespace Snapshot

variable (s : Snapshot)

/-- An entity has its entry in the place, or refers to one that has, directly or through others. -/
def Reaches (place : EntryPlace) (e : Entity) : Prop :=
  ∃ e', Relation.ReflTransGen s.Refers e e' ∧ place = .spec e'.1.space e'.2

/-- A parameter has its entry in the place, or is read from an entity that gets there. -/
def ParameterReaches (place : EntryPlace) (store name : String) : Prop :=
  place = .parameter store name ∨ ∃ p e, s.payload.parameter? store name = some (.parsed p) ∧
    p.reference? = some e ∧ s.Reaches place e

variable {s} {place : EntryPlace} {p' : Payload}

theorem sameOrigin_withPayload (s : Snapshot) (p' : Payload) :
    s.SameOrigin { s with payload := p' } := ⟨rfl, rfl, rfl⟩

/-- Payloads that differ in one place agree on all that does not get there. -/
theorem agreesAt_withPayload (h : s.payload.AgreesApartFrom place p') (overrides : Overrides)
    {e : Entity} (he : ¬ s.Reaches place e) {e' : Entity}
    (hrefers : Relation.ReflTransGen s.Refers e e') :
    s.AgreesAt { s with payload := p' } overrides overrides e' where
  entry := by
    rw [Payload.entry?_eq, Payload.entry?_eq]
    exact h.specs e'.1.space e'.2 fun hplace => he ⟨e', hrefers, hplace⟩
  shared _ _ _ _ := by
    have hconditions : p'.conditions = s.payload.conditions := by rw [h.rest]
    rw [hconditions]
  idLists _ _ _ _ _ _ _ _ := rfl
  overrides _ := rfl

end Snapshot

/-! ### Taking in the payload -/

namespace Catalog

variable {g : EntryGap} {x x' : Document} {c : Catalog} {text text' : String} {source : Source}
  {receivedAt : Nat} {details : Details}

/-- Specs of the time `lcut` would be the newest. -/
def Awaits (c : Catalog) (lcut : Nat) : Prop := ∀ s, c.snapshot = some s → ¬ lcut ≤ s.lcut

theorem apply_of_noUpdates {p : Payload} (hp : Payload.ofText? text = some p)
    (hu : p.hasUpdates = false) :
    c.apply text source receivedAt = (.ok (detailsFor c.snapshot .recognized), c) := by
  simp [apply, hp, hu]

theorem apply_of_awaits {p : Payload} {lcut : Nat} (hp : Payload.ofText? text = some p)
    (hu : p.hasUpdates = true) (ht : p.time = some lcut) (hc : c.Awaits lcut) :
    let s : Snapshot :=
      { payload := p, idLists := c.synced.overlay p.inlineIdLists, source, lcut, receivedAt }
    c.apply text source receivedAt =
      (.ok (s.details (.recognized source)),
        { c with snapshot := some s }.writeThrough text source receivedAt) := by
  cases hs : c.snapshot with
  | none => simp [apply, hp, hu, ht, publish, hs]
  | some current => simp [apply, hp, hu, ht, publish, hs, hc current hs]

/-- A payload that is accepted has no updates, or is newer than the published one. -/
theorem exists_of_apply_eq_ok (h : (c.apply text source receivedAt).1 = .ok details) :
    ∃ p, Payload.ofText? text = some p ∧ (p.hasUpdates = false ∨
      p.hasUpdates = true ∧ ∃ lcut, p.time = some lcut ∧ c.Awaits lcut) := by
  unfold apply at h
  cases hp : Payload.ofText? text with
  | none =>
    rw [hp] at h
    cases h
  | some p =>
    refine ⟨p, rfl, ?_⟩
    rw [hp] at h
    cases hu : p.hasUpdates with
    | false => exact .inl rfl
    | true =>
      cases ht : p.time with
      | none =>
        simp only [hu, ht] at h
        cases h
      | some lcut =>
        refine .inr ⟨rfl, lcut, rfl, fun s hs hle => ?_⟩
        simp only [hu, ht, publish, hs, if_pos hle] at h
        cases h

/-- An accepted payload is accepted with any value in a gap. Then either none of the two is
published, or both are, with one origin. -/
theorem apply_fill (htext : Document.ofText? text = some (g.fill x))
    (htext' : Document.ofText? text' = some (g.fill x')) (hx' : x'.toJson?.isSome)
    (haccepted : (c.apply text source receivedAt).1 = .ok details) :
    ∃ p p', Payload.ofText? text = some p ∧ Payload.ofText? text' = some p' ∧
      p.AgreesApartFrom g.place p' ∧ (g.Counts → p'.Holds x' g.place) ∧
      (c.apply text' source receivedAt).1 = .ok details ∧
      (p.hasUpdates = false ∧ (c.apply text source receivedAt).2 = c ∧
          (c.apply text' source receivedAt).2 = c ∨
        p.hasUpdates = true ∧ ∃ s, s.payload = p ∧ s.source = source ∧
          details = s.details (.recognized source) ∧
          (c.apply text source receivedAt).2.snapshot = some s ∧
          (c.apply text' source receivedAt).2.snapshot = some { s with payload := p' }) := by
  obtain ⟨p, hp, hcourse⟩ := exists_of_apply_eq_ok haccepted
  have hread : Payload.ofDocument? (g.fill x) = some p := by
    rw [← hp, Payload.ofText?, htext]
    rfl
  obtain ⟨p', hread', hagree, hholds⟩ := g.exists_ofDocument?_fill hread hx'
  have hp' : Payload.ofText? text' = some p' := by
    rw [Payload.ofText?, htext']
    exact hread'
  have hupdates : p'.hasUpdates = p.hasUpdates := by rw [hagree.rest]
  have htime : p'.time = p.time := by rw [hagree.rest]
  have hinline : p'.inlineIdLists = p.inlineIdLists := by
    rw [hagree.rest]
    rfl
  refine ⟨p, p', hp, hp', hagree, hholds, ?_⟩
  rcases hcourse with hu | ⟨hu, lcut, ht, hc⟩
  · rw [apply_of_noUpdates hp hu] at haccepted ⊢
    rw [apply_of_noUpdates hp' (hupdates.trans hu)]
    exact ⟨haccepted, .inl ⟨hu, rfl, rfl⟩⟩
  · rw [apply_of_awaits hp hu ht hc] at haccepted ⊢
    rw [apply_of_awaits hp' (hupdates.trans hu) (htime.trans ht) hc, hinline]
    exact ⟨haccepted, .inr ⟨hu, _, rfl, rfl, (Except.ok.inj haccepted).symm,
      writeThrough_snapshot .., writeThrough_snapshot ..⟩⟩

/-- With a value that cannot be read at all the payload is refused. -/
theorem apply_fill_of_unreadable (htext' : Document.ofText? text' = some (g.fill x'))
    (hx' : ¬ x'.toJson?.isSome) :
    c.apply text' source receivedAt = (.error (.malformedPayload .unreadable), c) := by
  have hnone : Payload.ofText? text' = none := by
    rw [Payload.ofText?, htext', Option.bind_some]
    cases hp : Payload.ofDocument? (g.fill x') with
    | none => rfl
    | some p => exact absurd (g.isSome_toJson?_of_ofDocument? hp) hx'
  simp [apply, hnone]

end Catalog

/-! ### Evaluating afterwards -/

namespace Engine

/-- The engine with another catalog. -/
def holding (e : Engine) (c : Catalog) : Engine :=
  { e with intake := { e.intake with catalog := c } }

variable {e : Engine} {c c' : Catalog} {s : Snapshot} {p' : Payload} {place : EntryPlace}

/-- What an entity comes to against given specs does not hang on an entry that it does not reach. -/
theorem evaluateAgainst_of_not_reaches (h : s.payload.AgreesApartFrom place p') {user : User}
    {kind : EntityKind} {name : String} (hreaches : ¬ s.Reaches place (kind, name))
    (isSticky : Bool) :
    (evaluateAgainst (some { s with payload := p' }) user kind name isSticky (e.holding c')).1 =
      (evaluateAgainst (some s) user kind name isSticky (e.holding c)).1 := by
  let before : Context :=
    { user, snapshot := some s, overrides := e.overrides, now := e.intake.now }
  have halike : before.Alike { before with snapshot := some { s with payload := p' } } := rfl
  have hverdict := Context.verdict_eq_of_agreesAt halike (s.sameOrigin_withPayload p') rfl rfl
    (fun _ hrefers => s.agreesAt_withPayload h e.overrides hreaches hrefers)
    (e.storage.map (·.look)) isSticky
  exact congrArg Verdict.outcome hverdict

theorem evaluate_of_not_reaches (h : s.payload.AgreesApartFrom place p')
    (hc : c.snapshot = some s) (hc' : c'.snapshot = some { s with payload := p' }) (user : User)
    {kind : EntityKind} {name : String} (hreaches : ¬ s.Reaches place (kind, name))
    (o : EvaluationOptions) :
    (evaluate user kind name o (e.holding c')).1 = (evaluate user kind name o (e.holding c)).1 := by
  have heval : (evaluateAgainst c'.snapshot user kind name o.isSticky (e.holding c')).1 =
      (evaluateAgainst c.snapshot user kind name o.isSticky (e.holding c)).1 := by
    rw [hc, hc']
    exact evaluateAgainst_of_not_reaches h hreaches o.isSticky
  exact heval

theorem consult_fst (specs : Snapshot) (b : BoundParameterStore) (kind : EntityKind)
    (name : String) (x : Outcome → Nat → Exposure) (e : Engine) :
    (consult specs b kind name x e).1 =
      (evaluateAgainst (some specs) b.user kind name b.options.isSticky e).1 := by
  unfold consult
  cases b.options.logsExposure <;> rfl

theorem resolve_of_not_reaches (h : s.payload.AgreesApartFrom place p')
    (b : BoundParameterStore) {q : Parameter}
    (hreaches : ∀ e, q.reference? = some e → ¬ s.Reaches place e) :
    (resolve { s with payload := p' } b q (e.holding c')).1 =
      (resolve s b q (e.holding c)).1 := by
  have hconsult (kind : EntityKind) (name : String) (x : Outcome → Nat → Exposure)
      (hq : q.reference? = some (kind, name)) :
      (consult { s with payload := p' } b kind name x (e.holding c')).1 =
        (consult s b kind name x (e.holding c)).1 := by
    rw [consult_fst, consult_fst]
    exact evaluateAgainst_of_not_reaches h (hreaches _ hq) _
  cases q with
  | static value => rfl
  | gate name passValue failValue =>
    exact congrArg (fun o : Outcome => some (if o.value then passValue else failValue))
      (hconsult .gate name _ rfl)
  | dynamicConfig name parameter =>
    exact congrArg (fun o : Outcome => o.members.get? parameter)
      (hconsult .dynamicConfig name _ rfl)
  | experiment name parameter =>
    exact congrArg (fun o : Outcome => o.members.get? parameter) (hconsult .experiment name _ rfl)
  | layer name parameter =>
    exact congrArg (fun o : Outcome => o.members.get? parameter) (hconsult .layer name _ rfl)

theorem readParameter_fst {e : Engine} (hs : e.snapshot = some s) (b : BoundParameterStore)
    (parameter : String) :
    (readParameter b parameter e).1 =
      ((s.payload.parameter? b.name parameter).bind Entry.get?).bind fun q =>
        if e.isGone then none else (resolve s b q e).1 := by
  unfold readParameter Payload.parameter?
  rw [bind_apply]
  have hsnapshot : ((get : StateM Engine Engine) e).1.snapshot = some s := hs
  rw [hsnapshot]
  dsimp only [Option.bind_some]
  rcases (s.payload.parameterStores.get? b.name).bind (·.parameters.get? parameter) with
    _ | q | raw
  · rfl
  · show ((if e.isGone then return none else resolve s b q : StateM Engine (Option Json)) e).1 = _
    dsimp only [Option.bind_some, Entry.get?]
    cases e.isGone <;> rfl
  · rfl

theorem readParameter_of_not_reaches (h : s.payload.AgreesApartFrom place p')
    (hc : c.snapshot = some s) (hc' : c'.snapshot = some { s with payload := p' })
    (b : BoundParameterStore) {parameter : String}
    (hreaches : ¬ s.ParameterReaches place b.name parameter) :
    (readParameter b parameter (e.holding c')).1 =
      (readParameter b parameter (e.holding c)).1 := by
  have hsame : p'.parameter? b.name parameter = s.payload.parameter? b.name parameter :=
    h.parameters b.name parameter fun hplace => hreaches (.inl hplace)
  have hs : (e.holding c).snapshot = some s := hc
  have hs' : (e.holding c').snapshot = some { s with payload := p' } := hc'
  rw [readParameter_fst hs, readParameter_fst hs', hsame]
  refine Option.bind_congr fun q hq => ?_
  obtain ⟨q' | raw, hentry, hq⟩ := Option.bind_eq_some_iff.1 hq
  · obtain rfl : q' = q := Option.some.inj hq
    exact if_congr Iff.rfl rfl <| resolve_of_not_reaches h b fun e' he' hreach =>
      hreaches (.inr ⟨q', e', hentry, he', hreach⟩)
  · cases hq

/-- A spec that could not be read makes its entity unsupported. -/
theorem evaluate_of_failed {user : User} {kind : EntityKind} {name : String} {raw : Json}
    (hc : c.snapshot = some s) (hentry : s.payload.entry? kind name = some (.failed raw))
    (hoverride : e.overrides.resolve? kind name user none = none) (o : EvaluationOptions) :
    (evaluate user kind name o (e.holding c)).1 =
      .empty (s.details (.unsupported s.source)) := by
  let context : Context :=
    { user, snapshot := c.snapshot, overrides := e.overrides, now := e.intake.now }
  have hentrance : context.entrance kind name = .unreadable := by
    unfold Context.entrance
    simp only [context, hc, Option.bind_some, hentry, Entry.get?, hoverride]
  calc (evaluate user kind name o (e.holding c)).1
      = (context.evaluate (e.storage.map (·.look)) o.isSticky kind name).outcome := rfl
    _ = context.halted .unsupported := Context.evaluate_of_unreadable hentrance
    _ = .empty (s.details (.unsupported s.source)) := by
      unfold Context.halted
      simp only [context, hc]
      rfl

end Engine

/-! ### One entry among the others -/

namespace EntryGap

/-- One entry has no say over the others. Replace the value of one spec or one parameter of an
accepted payload by any other value. The payload is accepted still, with the same version, if and
only if the value can be read at all; otherwise it is refused as a whole, and the catalog stays as
it is. If it is accepted, the other entries are read as before; evaluations and parameters that do
not get to the entry by references come to the same; and if the entity has a value now that is no
spec, then it is unsupported, unless it is overridden. -/
theorem isolates_faults (g : EntryGap) {x x' : Document} {text text' : String}
    (htext : Document.ofText? text = some (g.fill x))
    (htext' : Document.ofText? text' = some (g.fill x')) (c : Catalog)
    (source : Source) (receivedAt : Nat) {details : Details}
    (haccepted : (c.apply text source receivedAt).1 = .ok details) :
    let c₁ := (c.apply text source receivedAt).2
    let c₂ := (c.apply text' source receivedAt).2
    ((c.apply text' source receivedAt).1 = .ok details ↔ x'.toJson?.isSome) ∧
    (¬ x'.toJson?.isSome →
      c.apply text' source receivedAt = (.error (.malformedPayload .unreadable), c)) ∧
    (x'.toJson?.isSome → c₂.info = c₁.info ∧
    ∃ p p', Payload.ofText? text = some p ∧ Payload.ofText? text' = some p' ∧
      p.AgreesApartFrom g.place p' ∧
      (∀ (e : Engine) (user : User) (kind : EntityKind) (name : String) (o : EvaluationOptions),
        (∀ s, c₁.snapshot = some s → ¬ s.Reaches g.place (kind, name)) →
        (Engine.evaluate user kind name o (e.holding c₂)).1 =
          (Engine.evaluate user kind name o (e.holding c₁)).1) ∧
      (∀ (e : Engine) (b : BoundParameterStore) (parameter : String),
        (∀ s, c₁.snapshot = some s → ¬ s.ParameterReaches g.place b.name parameter) →
        (Engine.readParameter b parameter (e.holding c₂)).1 =
          (Engine.readParameter b parameter (e.holding c₁)).1) ∧
      (p.hasUpdates → g.Counts → Spec.ofDocument? x' = none →
        ∀ (e : Engine) (user : User) (kind : EntityKind) (name : String) (o : EvaluationOptions),
        g.place = .spec kind.space name → e.overrides.resolve? kind name user none = none →
        (Engine.evaluate user kind name o (e.holding c₂)).1 =
          .empty { details with reason := .unsupported source })) := by
  intro c₁ c₂
  have hrefused (hx' : ¬ x'.toJson?.isSome) :
      c.apply text' source receivedAt = (.error (.malformedPayload .unreadable), c) :=
    Catalog.apply_fill_of_unreadable htext' hx'
  refine ⟨⟨fun hok => ?_, fun hx' => ?_⟩, hrefused, fun hx' => ?_⟩
  · by_contra hx'
    rw [hrefused hx'] at hok
    cases hok
  · obtain ⟨_, _, -, -, -, -, haccepted', -⟩ := Catalog.apply_fill htext htext' hx' haccepted
    exact haccepted'
  obtain ⟨p, p', hp, hp', hagree, hholds, -, hcourse⟩ :=
    Catalog.apply_fill htext htext' hx' haccepted
  rcases hcourse with ⟨hu, hc₁, hc₂⟩ | ⟨hu, s, rfl, rfl, rfl, hs₁, hs₂⟩
  · have hsame : c₂ = c₁ := hc₂.trans hc₁.symm
    rw [hsame]
    exact ⟨rfl, p, p', hp, hp', hagree, fun _ _ _ _ _ _ => rfl, fun _ _ _ _ => rfl,
      fun h => by rw [hu] at h; cases h⟩
  · refine ⟨?_, s.payload, p', hp, hp', hagree, fun e user kind name o hreaches => ?_,
      fun e b parameter hreaches => ?_,
      fun _ hcounts hunread e user kind name o hplace hoverride => ?_⟩
    · unfold Catalog.info
      rw [hs₁, hs₂]
    · exact Engine.evaluate_of_not_reaches hagree hs₁ hs₂ user (hreaches s hs₁) o
    · exact Engine.readParameter_of_not_reaches hagree hs₁ hs₂ b (hreaches s hs₁)
    · have hheld := hholds hcounts
      rw [hplace] at hheld
      obtain ⟨raw, hraw⟩ := Option.isSome_iff_exists.1 hx'
      have hentry : p'.entry? kind name = some (.failed raw) := by
        rw [Payload.entry?_eq]
        refine Eq.trans hheld ?_
        rw [Entry.ofDocument?, hraw, hunread]
        rfl
      exact Engine.evaluate_of_failed hs₂ hentry hoverride o

/-! ### A gate that is not understood -/

/-- The place of the second of two gates. -/
def betaGap : EntryGap :=
  .spec .gates ⟨[("time", .number (.int 1))], "feature_gates", []⟩
    ⟨[("staff", .object [("salt", .text "s"), ("defaultValue", .bool false),
        ("enabled", .bool true)])], "beta", []⟩ (List.mem_singleton_self _)

/-- The text of a payload with the given text in the place. -/
def betaText (beta : String) : String :=
  "\x7b\"time\":1,\"feature_gates\":\x7b\"staff\":\x7b\"salt\":\"s\",\"defaultValue\":false," ++
  "\"enabled\":true\x7d,\"beta\":" ++ beta ++ "\x7d\x7d"

/-- The tokens of the payload up to the place. -/
def betaTokens : List Json.Token :=
  [.beginObject, .text (some "time"), .colon, .number (some (.int 1)), .comma,
   .text (some "feature_gates"), .colon, .beginObject, .text (some "staff"), .colon, .beginObject,
   .text (some "salt"), .colon, .text (some "s"), .comma, .text (some "defaultValue"), .colon,
   .bool false, .comma, .text (some "enabled"), .colon, .bool true, .endObject, .comma,
   .text (some "beta"), .colon]

theorem ofText?_betaText_null :
    Document.ofText? (betaText "null") = some (betaGap.fill .null) := by
  have hscan : Json.Token.scan (betaText "null") =
      some (betaTokens ++ [.null, .endObject, .endObject]) := by decide +kernel
  unfold Document.ofText?
  rw [hscan]
  rfl

theorem ofText?_betaText_array :
    Document.ofText? (betaText "[7]") = some (betaGap.fill (.array [.number (.int 7)])) := by
  have hscan : Json.Token.scan (betaText "[7]") = some (betaTokens ++
      [.beginArray, .number (some (.int 7)), .endArray, .endObject, .endObject]) := by
    decide +kernel
  unfold Document.ofText?
  rw [hscan]
  rfl

/-- A number that is out of range, and a text with half a character. -/
theorem ofText?_betaText_unreadable :
    Document.ofText? (betaText "1e400") = some (betaGap.fill .unreadable) ∧
      Document.ofText? (betaText "\"\\ud800\"") = some (betaGap.fill .unreadable) := by
  have hscan : Json.Token.scan (betaText "1e400") =
      some (betaTokens ++ [.number none, .endObject, .endObject]) := by decide +kernel
  have hscan' : Json.Token.scan (betaText "\"\\ud800\"") =
      some (betaTokens ++ [.text none, .endObject, .endObject]) := by decide +kernel
  unfold Document.ofText?
  rw [hscan, hscan']
  exact ⟨rfl, rfl⟩

/-- The gate before the place refers to nothing. -/
theorem not_reaches_betaGap {s : Snapshot}
    (hs : (({} : Catalog).apply (betaText "null") .network 1).2.snapshot = some s) :
    ¬ s.Reaches betaGap.place (.gate, "staff") := by
  have hreferences : (({} : Catalog).apply (betaText "null") .network 1).2.snapshot.map
      (·.references (.gate, "staff")) = some [] := by decide +kernel
  rw [hs, Option.map_some, Option.some.injEq] at hreferences
  rintro ⟨e, hrefers, hplace⟩
  rcases hrefers.cases_head with rfl | ⟨e', he', -⟩
  · exact absurd hplace (by decide)
  · rw [Snapshot.Refers, hreferences] at he'
    cases he'

theorem accepted_betaText : (({} : Catalog).apply (betaText "null") .network 1).1 =
    .ok { lcut := some 1, receivedAt := some 1, reason := .recognized .network } := by
  decide +kernel

theorem isolates_faults_beta :
    (Document.ofText? (betaText "null") = some (betaGap.fill .null) ∧
      Document.ofText? (betaText "[7]") = some (betaGap.fill (.array [.number (.int 7)])) ∧
      (({} : Catalog).apply (betaText "null") .network 1).1 =
        .ok { lcut := some 1, receivedAt := some 1, reason := .recognized .network }) ∧
    let c₁ := (({} : Catalog).apply (betaText "null") .network 1).2
    let c₂ := (({} : Catalog).apply (betaText "[7]") .network 1).2
    let e : Engine := { settings := {}, intake := { now := 1 } }
    (Engine.evaluate (.withUserId "u") .gate "staff" {} (e.holding c₂)).1 =
      (Engine.evaluate (.withUserId "u") .gate "staff" {} (e.holding c₁)).1 ∧
    (Engine.evaluate (.withUserId "u") .gate "beta" {} (e.holding c₂)).1 =
      .empty { lcut := some 1, receivedAt := some 1, reason := .unsupported .network } := by
  have hupdates : (Payload.ofText? (betaText "null")).map (·.hasUpdates) = some true := by
    decide +kernel
  refine ⟨⟨ofText?_betaText_null, ofText?_betaText_array, accepted_betaText⟩, ?_⟩
  obtain ⟨-, p, p', hp, -, -, hevaluate, -, hunsupported⟩ := (isolates_faults betaGap
    ofText?_betaText_null ofText?_betaText_array {} .network 1 accepted_betaText).2.2 rfl
  rw [hp, Option.map_some, Option.some.injEq] at hupdates
  exact ⟨hevaluate _ _ _ _ _ fun s hs => not_reaches_betaGap hs,
    hunsupported hupdates (fun _ he => absurd he List.not_mem_nil) rfl _ _ _ _ _ rfl rfl⟩

/-- A value that cannot be read is not kept apart from the others: nothing of the payload is
published. -/
theorem not_isolates_unreadable :
    (({} : Catalog).apply (betaText "null") .network 1).1 =
      .ok { lcut := some 1, receivedAt := some 1, reason := .recognized .network } ∧
    ∀ beta ∈ ["1e400", "\"\\ud800\""],
      Document.ofText? (betaText beta) = some (betaGap.fill .unreadable) ∧
      ({} : Catalog).apply (betaText beta) .network 1 =
        (.error (.malformedPayload .unreadable), {}) := by
  obtain ⟨hnumber, hhalf⟩ := ofText?_betaText_unreadable
  refine ⟨accepted_betaText, fun beta hbeta => ?_⟩
  have hbeta : Document.ofText? (betaText beta) = some (betaGap.fill .unreadable) := by
    simp only [List.mem_cons, List.not_mem_nil, or_false] at hbeta
    rcases hbeta with rfl | rfl
    · exact hnumber
    · exact hhalf
  exact ⟨hbeta, Catalog.apply_fill_of_unreadable hbeta (by decide)⟩

end EntryGap

end Rollout
