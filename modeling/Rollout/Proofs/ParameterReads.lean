import Rollout.Proofs.EntryFaults
import Rollout.Proofs.Repetition
import Rollout.Proofs.RuleOrder

/-!
# Parameters and what they refer to

A parameter of a parameter store refers to a gate, a config, an experiment or a member of a layer,
which can be read directly as well (`Engine.readReferred`). Both ways bring the same value, and both
leave the engine in the same state, the log included, with one exception: a member that its layer
does not have is exposed if it is read through a parameter store, and not if it is read from the
layer (`Engine.readParameter_eq_readReferred_iff`).
-/

namespace Rollout

/-- Whether the parameter refers to a member of a layer. -/
def Parameter.isOfLayer : Parameter → Bool
  | .layer .. => true
  | _ => false

/-- A key that comes up is known afterwards. -/
theorem RecentKeys.isSome_get?_offer (r : RecentKeys) (key : String) (now : Nat) :
    ((r.offer key now).2.times.get? key).isSome = true := by
  unfold offer
  dsimp only
  split
  · next h =>
    cases hk : (r.purge now).times.get? key with
    | none => simp [hk] at h
    | some time => rfl
  · rw [Dict.get?_insert, if_pos rfl]
    rfl

namespace Engine

/-- Read directly what a parameter refers to: decide about the entity for the user, and read the
value from the decision. -/
def readReferred (user : User) (o : EvaluationOptions) : Parameter → StateM Engine (Option Json)
  | .static value => return some value
  | .gate name passValue failValue => do
    let d ← gate user name o
    return some (if d.value then passValue else failValue)
  | .dynamicConfig name member => do
    let d ← dynamicConfig user name o
    return d.members.get? member
  | .experiment name member => do
    let d ← experiment user name o
    return d.members.get? member
  | .layer name member => do
    let d ← layer user name o
    readLayer d member

/-- The engine, had it logged something else so far. -/
def having (e : Engine) (l : EventLog) : Engine := { e with log := e.log.map fun _ => l }

variable {e : Engine} {s : Snapshot} {b : BoundParameterStore} {user : User} {parameter : String}
  {p : Parameter}

/-! ### Either way -/

theorem readParameter_eq_resolve (hs : e.snapshot = some s)
    (hp : s.payload.parameter? b.name parameter = some (.parsed p)) (hgone : e.isGone = false) :
    readParameter b parameter e = resolve s b p e := by
  unfold Payload.parameter? at hp
  unfold readParameter
  rw [bind_apply]
  have hsnapshot : ((get : StateM Engine Engine) e).1.snapshot = some s := hs
  rw [hsnapshot, Option.bind_some, hp]
  show ((if e.isGone then return none else resolve s b p : StateM Engine (Option Json)) e) = _
  rw [hgone]
  rfl

theorem expose_apply (x : Nat → Exposure) (e : Engine) :
    expose x e =
      ((), if e.isLogging then (onLog (·.logExposure (x e.intake.now)) e).2 else e) := by
  unfold expose
  rw [bind_apply]
  show (if e.isLogging then onLog (·.logExposure (x e.intake.now)) else pure ()) e = _
  cases e.isLogging <;> rfl

theorem consult_apply (kind : EntityKind) (name : String) (x : Outcome → Nat → Exposure) :
    consult s b kind name x e =
      let r := evaluateAgainst (some s) b.user kind name b.options.isSticky e
      (r.1, if b.options.logsExposure then (expose (x r.1) r.2).2 else r.2) := by
  unfold consult
  cases b.options.logsExposure <;> rfl

/-- Reading a member of a layer through a parameter store exposes it. -/
theorem resolve_layer (name member : String) :
    resolve s b (.layer name member) e =
      let r := evaluateAgainst (some s) b.user .layer name b.options.isSticky e
      (r.1.members.get? member,
        if b.options.logsExposure && e.isLogging then
          (onLog (·.logExposure (Exposure.ofLayer b.user name member r.1 e.intake.now)) r.2).2
        else r.2) := by
  have hlogging : (evaluateAgainst (some s) b.user .layer name b.options.isSticky e).2.isLogging =
      e.isLogging := rfl
  unfold resolve
  dsimp only
  rw [bind_apply, consult_apply]
  dsimp only
  rw [expose_apply, hlogging]
  cases b.options.logsExposure <;> rfl

theorem readLayer_of_none {d : LayerDecision} {member : String}
    (h : d.members.get? member = none) (e : Engine) : readLayer d member e = (none, e) := by
  unfold readLayer LayerDecision.read
  simp only [h]
  rfl

theorem readLayer_of_some {d : LayerDecision} {member : String} {value : Json}
    (h : d.members.get? member = some value) (e : Engine) :
    readLayer d member e = (some value, match d.exposes with
      | some (u, o) =>
        (onLog (·.logExposure (Exposure.ofLayer u d.name member o e.intake.now)) e).2
      | none => e) := by
  unfold readLayer LayerDecision.read
  simp only [h]
  cases d.exposes <;> rfl

/-- Reading a member from its layer exposes it if the layer has it. -/
theorem readReferred_layer (user : User) (o : EvaluationOptions) (name member : String) :
    readReferred user o (.layer name member) e =
      let r := evaluateAgainst e.snapshot (e.placed user) .layer name o.isSticky e
      (r.1.members.get? member,
        if (r.1.members.get? member).isSome && (o.logsExposure && e.isLogging) then
          (onLog (·.logExposure
            (Exposure.ofLayer (e.placed user) name member r.1 e.intake.now)) r.2).2
        else r.2) := by
  have hlayer : layer user name o e =
      let r := evaluateAgainst e.snapshot (e.placed user) .layer name o.isSticky e
      (r.1.toLayer name (if o.logsExposure && e.isLogging then some (e.placed user) else none),
        r.2) := rfl
  unfold readReferred
  dsimp only
  rw [bind_apply, hlayer]
  dsimp only
  cases hmember : (evaluateAgainst e.snapshot (e.placed user) .layer name
      o.isSticky e).1.members.get? member with
  | none =>
    rw [readLayer_of_none hmember]
    rfl
  | some value =>
    rw [readLayer_of_some hmember]
    cases o.logsExposure && e.isLogging <;> rfl

/-- What is no member of a layer comes to the same either way. -/
theorem resolve_eq_readReferred (hs : e.snapshot = some s) (hu : b.user = e.placed user)
    (hp : p.isOfLayer = false) : resolve s b p e = readReferred user b.options p e := by
  have hconsult (kind : EntityKind) (name : String) (x : Outcome → Nat → Exposure) :
      consult s b kind name x e =
        let r := evaluateAgainst e.snapshot (e.placed user) kind name b.options.isSticky e
        (r.1, if b.options.logsExposure then (expose (x r.1) r.2).2 else r.2) := by
    rw [consult_apply, hs, hu]
  unfold resolve readReferred
  cases p with
  | layer name member => cases hp
  | static value => rfl
  | gate name passValue failValue =>
    dsimp only
    rw [bind_apply, bind_apply, hconsult, hu]
    unfold gate
    cases b.options.logsExposure <;> rfl
  | dynamicConfig name member =>
    dsimp only
    rw [bind_apply, bind_apply, hconsult, hu]
    unfold dynamicConfig
    cases b.options.logsExposure <;> rfl
  | experiment name member =>
    dsimp only
    rw [bind_apply, bind_apply, hconsult, hu]
    unfold experiment
    cases b.options.logsExposure <;> rfl

/-- A member that its layer has is exposed either way, as one that is not to be exposed is not. -/
theorem resolve_layer_eq_readReferred (hs : e.snapshot = some s) (hu : b.user = e.placed user)
    {name member : String}
    (h : ((readReferred user b.options (.layer name member) e).1.isSome ||
      !(b.options.logsExposure && e.isLogging)) = true) :
    resolve s b (.layer name member) e = readReferred user b.options (.layer name member) e := by
  rw [readReferred_layer] at h
  rw [resolve_layer, readReferred_layer, hs, hu]
  rw [hs] at h
  cases hlogs : b.options.logsExposure && e.isLogging with
  | false => simp
  | true =>
    rw [hlogs, Bool.not_true, Bool.or_false] at h
    dsimp only at h ⊢
    rw [h, Bool.true_and]

theorem onLog_log (f : EventLog → EventLog) (e : Engine) : (onLog f e).2.log = e.log.map f := by
  have hkeeps : Keeps log postBatches := keeps_postBatches (fun _ _ => rfl) fun _ _ => rfl
  exact hkeeps { e with log := e.log.map f }

/-- A member that its layer does not have is exposed only if it is read through a parameter
store. -/
theorem log_of_missing_member (hs : e.snapshot = some s) {name member : String}
    (h : (readReferred user b.options (.layer name member) e).1 = none)
    (hlogs : b.options.logsExposure = true) (hlogging : e.isLogging = true) :
    (readReferred user b.options (.layer name member) e).2.log = e.log ∧
      (resolve s b (.layer name member) e).2.log =
        e.log.map (·.logExposure (Exposure.ofLayer b.user name member
          (evaluateAgainst e.snapshot b.user .layer name b.options.isSticky e).1
          e.intake.now)) := by
  rw [readReferred_layer] at h ⊢
  rw [resolve_layer, hlogs, hlogging]
  dsimp only at h ⊢
  rw [h]
  refine ⟨rfl, ?_⟩
  rw [Bool.true_and, if_pos rfl, onLog_log, hs]
  rfl

/-! ### Both ways -/

theorem isLogging_having (e : Engine) (l : EventLog) : (e.having l).isLogging = e.isLogging := by
  unfold isLogging having
  rw [Option.isSome_map]
  rfl

theorem readReferred_having_fst (o : EvaluationOptions) (name member : String) (l : EventLog) :
    (readReferred user o (.layer name member) (e.having l)).1 =
      (readReferred user o (.layer name member) e).1 := by
  rw [readReferred_layer, readReferred_layer]
  rfl

/-- Logging an exposure leaves a trace in an empty log. -/
theorem logExposure_make_ne (maxQueueSize batchSize : Nat) (x : Exposure) :
    (EventLog.make maxQueueSize batchSize).logExposure x ≠ .make maxQueueSize batchSize := by
  intro h
  have hseen := congrArg (·.seen.times.get? x.key) h
  rw [EventLog.logExposure_seen] at hseen
  have hsome := RecentKeys.isSome_get?_offer (EventLog.make maxQueueSize batchSize).seen x.key
    x.event.time
  rw [hseen] at hsome
  cases hsome

/-- A parameter has the value that is read directly from what it refers to. Reading it also does to
the engine, whatever is in the log, what the direct read does, unless exposures are logged and a
layer does not have the member that the parameter refers to: then the parameter exposes the member,
and the direct read does not. -/
theorem readParameter_eq_readReferred_iff (e : Engine) (s : Snapshot) (b : BoundParameterStore)
    (user : User) (parameter : String) (p : Parameter) (hs : e.snapshot = some s)
    (hp : s.payload.parameter? b.name parameter = some (.parsed p))
    (hu : b.user = e.placed user) (hgone : e.isGone = false) :
    (readParameter b parameter e).1 = (readReferred user b.options p e).1 ∧
    ((∀ l, readParameter b parameter (e.having l) =
        readReferred user b.options p (e.having l)) ↔
      ¬ (p.isOfLayer = true ∧ (readReferred user b.options p e).1 = none ∧
        b.options.logsExposure = true ∧ e.isLogging = true)) ∧
    ∀ name member, p = .layer name member → (readReferred user b.options p e).1 = none →
      b.options.logsExposure = true → e.isLogging = true →
      (readReferred user b.options p e).2.log = e.log ∧
      (readParameter b parameter e).2.log =
        e.log.map (·.logExposure (Exposure.ofLayer b.user name member
          (evaluateAgainst e.snapshot b.user .layer name b.options.isSticky e).1
          e.intake.now)) := by
  have hread : ∀ l, readParameter b parameter (e.having l) = resolve s b p (e.having l) :=
    fun l => readParameter_eq_resolve hs hp hgone
  rw [readParameter_eq_resolve hs hp hgone]
  refine ⟨?_, ⟨fun hsame hmissing => ?_, fun hfound l => ?_⟩, ?_⟩
  · cases hlayer : p.isOfLayer with
    | false => rw [resolve_eq_readReferred hs hu hlayer]
    | true =>
      cases p with
      | layer name member => rw [resolve_layer, readReferred_layer, hs, hu]
      | _ => cases hlayer
  · obtain ⟨hlayer, hnone, hlogs, hlogging⟩ := hmissing
    cases p with
    | layer name member =>
      -- what was logged is told apart from an empty log
      let l := EventLog.make 0 0
      obtain ⟨hdirect, hstore⟩ := log_of_missing_member (e := e.having l) hs
        ((readReferred_having_fst b.options name member l).trans hnone) hlogs
        ((isLogging_having e l).trans hlogging)
      rw [← hread, hsame, hdirect] at hstore
      have hlog : (e.having l).log = some l := by
        obtain ⟨l₀, hl₀⟩ := Option.isSome_iff_exists.1 (Bool.and_eq_true_iff.1 hlogging).1
        unfold having
        rw [hl₀]
        rfl
      rw [hlog, Option.map_some, Option.some.injEq] at hstore
      exact logExposure_make_ne 0 0 _ hstore.symm
    | _ => cases hlayer
  · rw [hread]
    cases hlayer : p.isOfLayer with
    | false => exact resolve_eq_readReferred hs hu hlayer
    | true =>
      cases p with
      | layer name member =>
        refine resolve_layer_eq_readReferred (e := e.having l) hs hu ?_
        rw [readReferred_having_fst, isLogging_having]
        cases hvalue : (readReferred user b.options (.layer name member) e).1 with
        | some value => rfl
        | none =>
          cases hlogs : b.options.logsExposure && e.isLogging with
          | false => rfl
          | true =>
            rw [Bool.and_eq_true] at hlogs
            exact absurd ⟨rfl, hvalue, hlogs⟩ hfound
      | _ => cases hlayer
  · rintro name member rfl hmissing hlogs hlogging
    exact log_of_missing_member hs hmissing hlogs hlogging

/-! ### Parameters of a page -/

/-- The specs of a page, with a parameter store. One of its parameters is a member of the page, the
other one is not. -/
def storeSpecs : Snapshot :=
  { Allocation.specs with
    payload :=
      { Allocation.specs.payload with
        parameterStores := .ofList [("home",
          { parameters := .ofList [("color", .parsed (.layer "page" "color")),
              ("size", .parsed (.layer "page" "size"))] })] } }

/-- An engine with these specs. -/
def storeServer : Engine :=
  { settings := {}, intake := { catalog := { snapshot := some storeSpecs }, now := 1 }
    log := some (.make 10 10) }

/-- The parameter store, bound to a user. -/
def homeStore : BoundParameterStore := storeServer.parameterStore (.withUserId "u") "home" {}

/-- A member that the page has is read alike either way. -/
theorem readParameter_eq_readReferred_iff_color :
    (storeServer.snapshot = some storeSpecs ∧
      homeStore.user = storeServer.placed (.withUserId "u") ∧ storeServer.isGone = false) ∧
    ∀ l, readParameter homeStore "color" (storeServer.having l) =
      readReferred (.withUserId "u") {} (.layer "page" "color") (storeServer.having l) := by
  refine ⟨⟨rfl, rfl, rfl⟩, ?_⟩
  refine (readParameter_eq_readReferred_iff storeServer storeSpecs homeStore (.withUserId "u")
    "color" (.layer "page" "color") rfl rfl rfl rfl).2.1.2 ?_
  rintro ⟨-, hnone, -⟩
  have hsome : (readReferred (.withUserId "u") homeStore.options (.layer "page" "color")
      storeServer).1.isSome = true := by decide +kernel
  rw [hnone] at hsome
  cases hsome

/-- A parameter does not always expose what the direct read of it exposes. -/
theorem not_forall_readParameter_eq :
    ¬ ∀ (e : Engine) (s : Snapshot) (b : BoundParameterStore) (user : User) (parameter : String)
      (p : Parameter), e.snapshot = some s →
      s.payload.parameter? b.name parameter = some (.parsed p) → b.user = e.placed user →
      e.isGone = false → readParameter b parameter e = readReferred user b.options p e := by
  intro h
  have hsize := h storeServer storeSpecs homeStore (.withUserId "u") "size" (.layer "page" "size")
    rfl rfl rfl rfl
  have hmissing : (readReferred (.withUserId "u") homeStore.options (.layer "page" "size")
      storeServer).1 = none := by
    rw [← Option.isNone_iff_eq_none]
    decide +kernel
  obtain ⟨hdirect, hstore⟩ := log_of_missing_member (b := homeStore) rfl hmissing rfl rfl
  rw [readParameter_eq_resolve rfl rfl rfl] at hsize
  rw [hsize, hdirect] at hstore
  exact logExposure_make_ne 10 10 _ (Option.some.inj hstore).symm

end Engine

end Rollout
