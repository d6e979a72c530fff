import Mathlib.Data.List.Forall2
import Rollout.Proofs.Interleaving
import Rollout.Proofs.PrivateAttributes

/-!
# Engines that show the same

Two engines show the same if they differ at most in private attributes of the users whose events
they hold (`Engine.Twins`). Whatever they do for users who are alike for their specs, they answer
alike and go on to show the same (`Engine.RunAlike`), one request after another
(`Session.twins_answer`). So nothing that leaves an engine in the course of a session depends on
private attributes that no condition reads (`Session.run_eq_of_alike`).
-/

namespace Rollout

theorem rel_getElem? {α β : Type} {R : α → β → Prop} {l : List α} {l' : List β}
    (h : List.Forall₂ R l l') (i : Nat) : Option.Rel R l[i]? l'[i]? := by
  induction h generalizing i with
  | nil => exact .none
  | cons hab _ ih =>
    cases i with
    | zero => exact .some hab
    | succ i => exact ih i

theorem rel_of_map_eq {α β : Type} {f : α → β} {a a' : Option α} (h : a'.map f = a.map f) :
    Option.Rel (fun x x' => f x' = f x) a a' := by
  cases a with
  | none =>
    rw [Option.map_none, Option.map_eq_none_iff] at h
    rw [h]
    exact .none
  | some x =>
    rw [Option.map_some, Option.map_eq_some_iff] at h
    obtain ⟨x', rfl, hx⟩ := h
    exact .some hx

/-! ### What is handed out -/

/-- What is shown of the user that reading a layer exposes. -/
def LayerDecision.shown (d : LayerDecision) : LayerDecision :=
  { d with exposes := d.exposes.map fun (u, o) => (u.shown, o) }

theorem LayerDecision.read_shown (d : LayerDecision) (parameter : String) (now : Nat) :
    d.shown.read parameter now =
      ((d.read parameter now).1, (d.read parameter now).2.map Exposure.shown) := by
  have hmembers : d.shown.members = d.members := rfl
  unfold read
  rw [hmembers]
  cases d.members.get? parameter with
  | none => rfl
  | some value =>
    unfold shown
    cases d.exposes <;> rfl

/-- The stores are bound alike, to users who are alike for the specs. -/
structure BoundParameterStore.AlikeFor (s : Option Snapshot) (b b' : BoundParameterStore) :
    Prop where
  eq : b' = { b with user := b'.user }
  user : b.user.AlikeFor s b'.user

namespace Engine

/-- What is shown of the events of an engine. -/
def shown (e : Engine) : Engine := { e with log := e.log.map EventLog.shown }

/-- Engines that show the same differ at most in their logs. -/
theorem shown_eq_iff {e e' : Engine} : e'.shown = e.shown ↔
    ∃ log, e' = { e with log := log } ∧ log.map EventLog.shown = e.log.map EventLog.shown := by
  constructor
  · intro h
    refine ⟨e'.log, ?_, congrArg log h⟩
    calc e' = { e'.shown with log := e'.log } := rfl
      _ = { e.shown with log := e'.log } := by rw [h]
      _ = { e with log := e'.log } := rfl
  · rintro ⟨log, rfl, hlog⟩
    show ({ e with log := log.map EventLog.shown } : Engine) = _
    rw [hlog]
    rfl

/-- The engines show the same, and decide by the specs `s`. -/
structure Twins (s : Option Snapshot) (e e' : Engine) : Prop where
  shown : e'.shown = e.shown
  specs : e.snapshot = s

theorem Twins.refl (e : Engine) : Twins e.snapshot e e := ⟨rfl, rfl⟩

theorem Twins.isLogging {s : Option Snapshot} {e e' : Engine} (h : Twins s e e') :
    e'.isLogging = e.isLogging := by
  obtain ⟨log, rfl, hlog⟩ := shown_eq_iff.1 h.shown
  have hsome := congrArg Option.isSome hlog
  rw [Option.isSome_map, Option.isSome_map] at hsome
  show (log.isSome && _) = _
  rw [hsome]
  rfl

/-- From engines that show the same, the computations come to related results, and leave engines
that show the same. -/
def RunAlike {α β : Type} (s : Option Snapshot) (R : α → β → Prop) (x : StateM Engine α)
    (y : StateM Engine β) : Prop :=
  ∀ ⦃e e'⦄, Twins s e e' → R (x e).1 (y e').1 ∧ Twins s (x e).2 (y e').2

section Running

variable {α α' β β' : Type} {s : Option Snapshot} {R : α → α' → Prop} {S : β → β' → Prop}

theorem RunAlike.pure {a : α} {a' : α'} (h : R a a') : RunAlike s R (pure a) (pure a') :=
  fun _ _ he => ⟨h, he⟩

theorem RunAlike.get : RunAlike s (Twins s) get get := fun _ _ he => ⟨he, he⟩

theorem RunAlike.bind {x : StateM Engine α} {y : StateM Engine α'} {f : α → StateM Engine β}
    {g : α' → StateM Engine β'} (h : RunAlike s R x y)
    (hf : ∀ a a', R a a' → RunAlike s S (f a) (g a')) : RunAlike s S (x >>= f) (y >>= g) := by
  intro e e' he
  obtain ⟨hresult, he⟩ := h he
  exact hf _ _ hresult he

theorem RunAlike.mapM {f : α → StateM Engine β} {g : α → StateM Engine β}
    (h : ∀ a, RunAlike s (· = ·) (f a) (g a)) (l : List α) :
    RunAlike s (· = ·) (l.mapM f) (l.mapM g) := by
  induction l with
  | nil => exact .pure rfl
  | cons a l ih =>
    rw [List.mapM_cons, List.mapM_cons]
    refine (h a).bind fun b _ hb => ?_
    subst hb
    refine ih.bind fun bs _ hbs => ?_
    subst hbs
    exact .pure rfl

/-! ### Logging -/

/-- Post batches one after another. -/
def postAll (poster : EventPoster) (batches : List (List Event)) : StateM Engine Unit := do
  for events in batches do
    let _ ← onIntake (Intake.online (poster.post { events, reporter := .this }))

theorem postAll_cons (poster : EventPoster) (events : List Event) (batches : List (List Event)) :
    postAll poster (events :: batches) = (do
      let _ ← onIntake (Intake.online (poster.post { events, reporter := .this }))
      postAll poster batches) := by
  unfold postAll
  rw [List.forIn_cons]
  rfl

/-- What is posted is what is shown. -/
theorem post_shown (poster : EventPoster) (events : List Event) (reporter : Reporter) :
    poster.post { events := events.map Event.shown, reporter } =
      poster.post { events, reporter } := by
  unfold EventPoster.post EventPoster.request
  rw [EventBatch.toJson_shown, List.length_map]

theorem postAll_shown (poster : EventPoster) (batches : List (List Event)) (e : Engine) :
    (postAll poster (batches.map (List.map Event.shown)) e.shown).2 =
      (postAll poster batches e).2.shown := by
  induction batches generalizing e with
  | nil => rfl
  | cons events batches ih =>
    rw [List.map_cons, postAll_cons, postAll_cons, post_shown, bind_apply, bind_apply]
    exact ih (onIntake (Intake.online (poster.post { events, reporter := .this })) e).2

theorem postBatches_of_none {e : Engine} (h : e.poster = none ∨ e.log = none) :
    postBatches e = ((), e) := by
  obtain ⟨_, _, _, _, log, poster⟩ := e
  rcases h with rfl | rfl
  · rfl
  · cases poster <;> rfl

theorem postBatches_of_some {e : Engine} {poster : EventPoster} {log : EventLog}
    (hposter : e.poster = some poster) (hlog : e.log = some log) :
    postBatches e = postAll poster (log.delivered.drop e.posted)
      { e with posted := log.delivered.length } := by
  obtain ⟨_, _, _, _, _, _⟩ := e
  cases hposter
  cases hlog
  rfl

theorem postBatches_shown (e : Engine) : (postBatches e.shown).2 = (postBatches e).2.shown := by
  cases hposter : e.poster with
  | none =>
    rw [postBatches_of_none (.inl hposter), postBatches_of_none (e := e.shown) (.inl hposter)]
  | some poster =>
    cases hlog : e.log with
    | none =>
      have hshown : e.shown.log = none := congrArg (Option.map EventLog.shown) hlog
      rw [postBatches_of_none (.inr hlog), postBatches_of_none (.inr hshown)]
    | some log =>
      have hshown : e.shown.log = some log.shown := congrArg (Option.map EventLog.shown) hlog
      rw [postBatches_of_some hposter hlog, postBatches_of_some (e := e.shown) hposter hshown,
        EventLog.delivered_shown, ← List.map_drop, List.length_map]
      exact postAll_shown poster _ { e with posted := log.delivered.length }

theorem runAlike_postBatches : RunAlike s (· = ·) postBatches postBatches := by
  intro e e' he
  refine ⟨rfl, ?_, ?_⟩
  · rw [← postBatches_shown, he.shown, postBatches_shown]
  · rw [← he.specs]
    have hkeeps : Keeps snapshot postBatches := keeps_postBatches (fun _ _ => rfl) fun _ _ => rfl
    exact hkeeps e

theorem runAlike_onLog {f g : EventLog → EventLog}
    (h : ∀ l l', l'.shown = l.shown → (g l').shown = (f l).shown) :
    RunAlike s (· = ·) (onLog f) (onLog g) := by
  refine RunAlike.bind (R := (· = ·)) (fun e e' he => ⟨rfl, ?_, he.specs⟩)
    fun _ _ _ => runAlike_postBatches
  obtain ⟨log, rfl, hlog⟩ := shown_eq_iff.1 he.shown
  refine shown_eq_iff.2 ⟨log.map g, rfl, ?_⟩
  show (log.map g).map _ = (e.log.map f).map _
  generalize e.log = before at hlog ⊢
  cases rel_of_map_eq hlog with
  | none => rfl
  | some hl => exact congrArg some (h _ _ hl)

theorem runAlike_askLog {f : EventLog → Except Failure Unit × EventLog}
    (h : ∀ l, f l.shown = ((f l).1, (f l).2.shown)) :
    RunAlike s (· = ·) (askLog f) (askLog f) := by
  refine RunAlike.get.bind fun e e' he => ?_
  obtain ⟨log, rfl, hlog⟩ := shown_eq_iff.1 he.shown
  dsimp only
  generalize e.log = before at hlog ⊢
  cases rel_of_map_eq hlog with
  | none => exact .pure rfl
  | @some l l' hl' =>
    have hf : (f l').1 = (f l).1 ∧ (f l').2.shown = (f l).2.shown :=
      Prod.mk.inj ((h l').symm.trans ((congrArg f hl').trans (h l)))
    refine RunAlike.bind (R := (· = ·)) (fun a b hab => ⟨rfl, ?_, hab.specs⟩) fun _ _ _ =>
      runAlike_postBatches.bind fun _ _ _ => .pure hf.1.symm
    obtain ⟨log', rfl, hlog'⟩ := shown_eq_iff.1 hab.shown
    exact shown_eq_iff.2 ⟨_, rfl, congrArg some hf.2⟩

theorem runAlike_expose {x y : Nat → Exposure} (h : ∀ now, (y now).shown = (x now).shown) :
    RunAlike s (· = ·) (expose x) (expose y) := by
  refine RunAlike.get.bind fun e e' he => ?_
  rw [he.isLogging]
  obtain ⟨log, rfl, -⟩ := shown_eq_iff.1 he.shown
  cases e.isLogging with
  | false => exact .pure rfl
  | true =>
    refine runAlike_onLog fun l l' hl => ?_
    rw [EventLog.shown_logExposure, EventLog.shown_logExposure, hl, h]

/-! ### What concerns no user -/

theorem runAlike_onIntake {x : StateM Intake α}
    (hx : ∀ i, (x i).2.catalog.snapshot = i.catalog.snapshot) :
    RunAlike s (· = ·) (onIntake x) (onIntake x) := by
  intro e e' he
  obtain ⟨log, rfl, hlog⟩ := shown_eq_iff.1 he.shown
  exact ⟨rfl, shown_eq_iff.2 ⟨log, rfl, hlog⟩, (hx e.intake).trans he.specs⟩

theorem runAlike_modify {f : Engine → Engine} (hf : ∀ e log, f { e with log } = { f e with log })
    (hspecs : ∀ e, (f e).snapshot = e.snapshot) (hlog : ∀ e, (f e).log = e.log) :
    RunAlike s (· = ·) (modify f : StateM Engine PUnit) (modify f) := by
  intro e e' he
  obtain ⟨log, rfl, h⟩ := shown_eq_iff.1 he.shown
  refine ⟨rfl, shown_eq_iff.2 ⟨log, hf e log, ?_⟩, (hspecs e).trans he.specs⟩
  rw [h]
  exact congrArg (Option.map EventLog.shown) (hlog e).symm

theorem snapshot_intake_shutdown (timeout : Nat) (i : Intake) :
    (Intake.shutdown timeout i).2.catalog.snapshot = i.catalog.snapshot := by
  obtain ⟨⟨source⟩⟩ := i
  cases source with
  | hooks h =>
    show (Intake.call .feedShutdown h.onShutdown _).2.catalog.snapshot = _
    cases h.onShutdown <;> rfl
  | _ => rfl

theorem runAlike_shutdown (timeout : Nat) :
    RunAlike s (· = ·) (shutdown timeout) (shutdown timeout) := by
  refine RunAlike.get.bind fun e e' he => ?_
  obtain ⟨log, rfl, -⟩ := shown_eq_iff.1 he.shown
  dsimp only
  obtain ⟨isFirst, lifecycle⟩ := e.lifecycle.close
  refine (runAlike_modify (f := fun e => { e with lifecycle }) (fun _ _ => rfl) (fun _ => rfl)
    fun _ => rfl).bind fun _ _ _ => ?_
  cases isFirst with
  | false => exact .pure rfl
  | true =>
    refine (runAlike_onIntake (snapshot_intake_shutdown timeout)).bind fun feed _ hfeed => ?_
    refine RunAlike.get.bind fun e e' he => ?_
    obtain ⟨log, rfl, -⟩ := shown_eq_iff.1 he.shown
    refine (runAlike_modify (f := fun e => { e with idListPoller := .absent })
      (fun _ _ => rfl) (fun _ => rfl) fun _ => rfl).bind fun _ _ _ => ?_
    refine (runAlike_askLog fun l => l.shown_shutdown timeout).bind fun log _ hlog => ?_
    refine (runAlike_modify (f := fun e => { e with lifecycle := e.lifecycle.closed })
      (fun _ _ => rfl) (fun _ => rfl) fun _ => rfl).bind fun _ _ _ => ?_
    exact .pure (by rw [hfeed, hlog])

/-! ### Deciding -/

variable {u u' : User}

theorem Twins.placed {e e' : Engine} (he : Twins s e e') (hu : u.AlikeFor s u') :
    (e.placed u).AlikeFor s (e'.placed u') := by
  obtain ⟨log, rfl, -⟩ := shown_eq_iff.1 he.shown
  exact hu.withTier _

theorem runAlike_evaluateAgainst {specs : Option Snapshot} (hu : u.AlikeFor specs u')
    (kind : EntityKind) (name : String) (isSticky : Bool) :
    RunAlike s (· = ·) (evaluateAgainst specs u kind name isSticky)
      (evaluateAgainst specs u' kind name isSticky) := by
  intro e e' he
  obtain ⟨log, rfl, hlog⟩ := shown_eq_iff.1 he.shown
  have h := Context.evaluateWith_of_alike (u := u')
    (c := { user := u, snapshot := specs, overrides := e.overrides, now := e.intake.now }) hu
    e.storage isSticky kind name
  dsimp only at h
  unfold evaluateAgainst
  dsimp only
  rw [h]
  exact ⟨rfl, shown_eq_iff.2 ⟨log, rfl, hlog⟩, he.specs⟩

theorem runAlike_evaluate (hu : u.AlikeFor s u') (kind : EntityKind) (name : String)
    (o : EvaluationOptions) :
    RunAlike s (· = ·) (evaluate u kind name o) (evaluate u' kind name o) := by
  refine RunAlike.get.bind fun e e' he => ?_
  obtain ⟨log, rfl, -⟩ := shown_eq_iff.1 he.shown
  rw [← he.specs] at hu
  exact runAlike_evaluateAgainst hu kind name o.isSticky

/-- A decision that is exposed under what is shown of the user. -/
theorem runAlike_decide {δ : Type} (hu : u.AlikeFor s u') (kind : EntityKind) (name : String)
    (o : EvaluationOptions) {x : User → Outcome → Nat → Exposure}
    (decision : Outcome → δ)
    (hx : ∀ u outcome now, (x u outcome now).shown = x u.shown outcome now) :
    let run (u : User) : StateM Engine δ := do
      let user := (← get).placed u
      let outcome ← evaluate user kind name o
      if o.logsExposure then expose (x user outcome)
      return decision outcome
    RunAlike s (· = ·) (run u) (run u') := by
  refine RunAlike.get.bind fun e e' he => ?_
  have hplaced := he.placed hu
  refine (runAlike_evaluate hplaced kind name o).bind fun outcome _ houtcome => ?_
  subst houtcome
  cases o.logsExposure with
  | false => exact .pure rfl
  | true =>
    refine (runAlike_expose fun now => ?_).bind fun _ _ _ => .pure rfl
    rw [hx, hx, hplaced.shown]

theorem runAlike_gate (hu : u.AlikeFor s u') (name : String) (o : EvaluationOptions) :
    RunAlike s (· = ·) (gate u name o) (gate u' name o) :=
  runAlike_decide hu .gate name o (x := fun u => Exposure.ofGate u name) (·.toGate name)
    fun _ _ _ => Exposure.shown_make ..

theorem runAlike_dynamicConfig (hu : u.AlikeFor s u') (name : String) (o : EvaluationOptions) :
    RunAlike s (· = ·) (dynamicConfig u name o) (dynamicConfig u' name o) :=
  runAlike_decide hu .dynamicConfig name o (x := fun u => Exposure.ofConfig u name)
    (·.toConfig name) fun _ _ _ => Exposure.shown_make ..

theorem runAlike_experiment (hu : u.AlikeFor s u') (name : String) (o : EvaluationOptions) :
    RunAlike s (· = ·) (experiment u name o) (experiment u' name o) :=
  runAlike_decide hu .experiment name o (x := fun u => Exposure.ofConfig u name)
    (·.toExperiment name) fun _ _ _ => Exposure.shown_make ..

theorem runAlike_layer (hu : u.AlikeFor s u') (name : String) (o : EvaluationOptions) :
    RunAlike s (fun d d' => d'.shown = d.shown) (layer u name o) (layer u' name o) := by
  refine RunAlike.get.bind fun e e' he => ?_
  have hplaced := he.placed hu
  refine (runAlike_evaluate hplaced .layer name o).bind fun outcome _ houtcome => ?_
  subst houtcome
  refine RunAlike.get.bind fun e e' he => .pure ?_
  rw [he.isLogging]
  cases o.logsExposure && e.isLogging with
  | false => rfl
  | true =>
    simp only [Outcome.toLayer, LayerDecision.shown, Option.map_some, if_true, hplaced.shown]

theorem runAlike_readLayer {d d' : LayerDecision} (h : d'.shown = d.shown) (parameter : String) :
    RunAlike s (· = ·) (readLayer d parameter) (readLayer d' parameter) := by
  refine RunAlike.get.bind fun e e' he => ?_
  obtain ⟨log, rfl, -⟩ := shown_eq_iff.1 he.shown
  have hread := d'.read_shown parameter e.intake.now
  rw [h, d.read_shown] at hread
  dsimp only
  generalize d.read parameter e.intake.now = r at hread ⊢
  generalize d'.read parameter e.intake.now = r' at hread ⊢
  obtain ⟨value, exposure⟩ := r
  obtain ⟨value', exposure'⟩ := r'
  obtain ⟨rfl, hexposure⟩ := Prod.mk.inj hread
  dsimp only at hexposure ⊢
  cases rel_of_map_eq hexposure.symm with
  | none => exact .pure rfl
  | some hx =>
    refine (runAlike_onLog fun l l' hl => ?_).bind fun _ _ _ => .pure rfl
    rw [EventLog.shown_logExposure, EventLog.shown_logExposure, hl, hx]

theorem Twins.parameterStore {e e' : Engine} (he : Twins s e e') (hu : u.AlikeFor s u')
    (name : String) (o : EvaluationOptions) :
    (e.parameterStore u name o).AlikeFor s (e'.parameterStore u' name o) := by
  have hplaced := he.placed hu
  obtain ⟨log, rfl, -⟩ := shown_eq_iff.1 he.shown
  exact ⟨rfl, hplaced⟩

theorem runAlike_consult {specs : Snapshot} {b b' : BoundParameterStore}
    (h : b.AlikeFor (some specs) b') (kind : EntityKind) (name : String)
    {x x' : Outcome → Nat → Exposure} (hx : ∀ o now, (x' o now).shown = (x o now).shown) :
    RunAlike s (· = ·) (consult specs b kind name x) (consult specs b' kind name x') := by
  rw [h.eq]
  refine (runAlike_evaluateAgainst h.user kind name _).bind fun o _ ho => ?_
  subst ho
  dsimp only
  cases b.options.logsExposure with
  | false => exact .pure rfl
  | true => exact (runAlike_expose fun now => hx o now).bind fun _ _ _ => .pure rfl

theorem runAlike_resolve {specs : Snapshot} {b b' : BoundParameterStore}
    (h : b.AlikeFor (some specs) b') (p : Parameter) :
    RunAlike s (· = ·) (resolve specs b p) (resolve specs b' p) := by
  have hshown := h.user.shown
  cases p with
  | static value => exact .pure rfl
  | gate name passValue failValue =>
    refine (runAlike_consult h .gate name fun o now => ?_).bind fun o _ ho => .pure (by rw [ho])
    exact congrArg (Exposure.ofGate · name o now) hshown
  | dynamicConfig name parameter =>
    refine (runAlike_consult h .dynamicConfig name fun o now => ?_).bind fun o _ ho =>
      .pure (by rw [ho])
    exact congrArg (Exposure.ofConfig · name o now) hshown
  | experiment name parameter =>
    refine (runAlike_consult h .experiment name fun o now => ?_).bind fun o _ ho =>
      .pure (by rw [ho])
    exact congrArg (Exposure.ofConfig · name o now) hshown
  | layer name parameter =>
    refine (runAlike_consult h .layer name fun o now => ?_).bind fun o _ ho => .pure (by rw [ho])
    exact congrArg (Exposure.ofLayer · name parameter o now) hshown

theorem runAlike_readParameter {b b' : BoundParameterStore} (h : b.AlikeFor s b')
    (parameter : String) :
    RunAlike s (· = ·) (readParameter b parameter) (readParameter b' parameter) := by
  refine RunAlike.get.bind fun e e' he => ?_
  obtain ⟨log, rfl, -⟩ := shown_eq_iff.1 he.shown
  rw [h.eq, show ({ e with log := log } : Engine).snapshot = s from he.specs, he.specs]
  dsimp only
  cases s with
  | none => exact .pure rfl
  | some specs =>
    simp only [Option.bind_some]
    rcases (specs.payload.parameterStores.get? b.name).bind (·.parameters.get? parameter) with
      _ | p | raw
    · exact .pure rfl
    · dsimp only [Option.bind_some, Entry.get?, Option.map_some]
      cases e.isGone with
      | true => exact .pure rfl
      | false =>
        have hresolve := runAlike_resolve (s := some specs) h p
        rw [h.eq] at hresolve
        exact hresolve
    · exact .pure rfl

theorem runAlike_entries {β : Type} {f g : String → Spec → StateM Engine β}
    (h : ∀ name spec, RunAlike s (· = ·) (f name spec) (g name spec))
    (specs : List (String × Spec)) (hash : Digest.NameHash) :
    RunAlike s (· = ·) (ClientPayload.entries specs hash f)
      (ClientPayload.entries specs hash g) := by
  refine (RunAlike.mapM (fun x => ?_) specs).bind fun l _ hl => .pure (by rw [hl])
  exact (h x.1 x.2).bind fun b _ hb => .pure (by rw [hb])

theorem runAlike_clientPayload (hu : u.AlikeFor s u') (o : ClientPayloadOptions) :
    RunAlike s (fun p p' => p'.toJson = p.toJson) (clientPayload u o) (clientPayload u' o) := by
  refine RunAlike.get.bind fun e e' he => ?_
  have hplaced := he.placed hu
  obtain ⟨log, rfl, -⟩ := shown_eq_iff.1 he.shown
  have hjson (p : ClientPayload) : { p with user := e.placed u' }.toJson =
      { p with user := e.placed u }.toJson := by
    have huser : (e.placed u').shown = (e.placed u).shown := hplaced.shown
    obtain ⟨attributes, hattributes⟩ := User.shown_eq_iff.1 huser
    rw [hattributes]
    rfl
  have hevaluate {β : Type} (kind : EntityKind) (name : String) (f : Outcome → β) :
      RunAlike s (· = ·) (do return f (← evaluateAgainst s (e.placed u) kind name false))
        (do return f (← evaluateAgainst s (e.placed u') kind name false)) :=
    (runAlike_evaluateAgainst hplaced kind name false).bind fun o _ ho => .pure (by rw [ho])
  show RunAlike s _ (ClientPayload.make e.snapshot (e.placed u) o fun kind name =>
    evaluateAgainst e.snapshot (e.placed u) kind name false) (ClientPayload.make e.snapshot
      (e.placed u') o fun kind name => evaluateAgainst e.snapshot (e.placed u') kind name false)
  rw [he.specs]
  unfold ClientPayload.make
  cases s with
  | none => exact .pure (hjson { hash := o.hash, user := e.placed u })
  | some specs =>
    refine (runAlike_entries (fun name spec => hevaluate .gate name (o.gate name spec)) _ _).bind
      fun gates _ hgates => ?_
    refine (runAlike_entries (fun name spec => hevaluate
      (ClientPayloadOptions.configKind spec) name (o.config name spec)) _ _).bind
      fun configs _ hconfigs => ?_
    refine (runAlike_entries (fun name spec => hevaluate .layer name (o.layer name spec)) _ _).bind
      fun layers _ hlayers => .pure ?_
    subst hgates hconfigs hlayers
    exact hjson { gates, configs, layers, time := specs.lcut, hasUpdates := true, hash := o.hash,
                  user := e.placed u }

theorem runAlike_logEvent (hu : u.AlikeFor s u') (name : String) (value : Option Json)
    (metadata : Option (Dict String)) :
    RunAlike s (· = ·) (logEvent u name value metadata) (logEvent u' name value metadata) := by
  refine RunAlike.get.bind fun e e' he => ?_
  have hplaced := he.placed hu
  rw [he.isLogging]
  obtain ⟨log, rfl, -⟩ := shown_eq_iff.1 he.shown
  cases e.isLogging with
  | false => exact .pure rfl
  | true =>
    refine runAlike_onLog fun l l' hl => ?_
    rw [EventLog.shown_log, EventLog.shown_log, hl]
    exact congrArg
      (fun user => l.shown.log { name, user, value, metadata, time := e.intake.now })
      hplaced.shown

end Running

/-- The batches that were handed over so far, as they are reported. -/
def reports (e : Engine) (reporter : Reporter) : List Json :=
  e.delivered.map fun events => ({ events, reporter } : EventBatch).toJson

theorem reports_shown (e : Engine) (reporter : Reporter) :
    e.shown.reports reporter = e.reports reporter := by
  have hdelivered : e.shown.delivered = e.delivered.map (List.map Event.shown) := by
    unfold delivered shown
    cases e.log <;> rfl
  unfold reports
  rw [hdelivered, List.map_map]
  exact List.map_congr_left fun events _ => EventBatch.toJson_shown events reporter

end Engine

/-! ### Sessions -/

/-- What an engine does for a user. -/
inductive Service where
  | gate (name : String) (options : EvaluationOptions)
  | dynamicConfig (name : String) (options : EvaluationOptions)
  | experiment (name : String) (options : EvaluationOptions)
  | layer (name : String) (options : EvaluationOptions)
  | parameterStore (name : String) (options : EvaluationOptions)
  | clientPayload (options : ClientPayloadOptions)
  | logEvent (name : String) (value : Option Json) (metadata : Option (Dict String))

/-- What can be asked of an engine. Layers and parameter stores are read by their place among those
that were handed out. -/
inductive Request where
  | serve (user : User) (service : Service)
  | readLayer (index : Nat) (parameter : String)
  | readParameter (index : Nat) (parameter : String)
  | flush (timeout : Nat)
  | shutdown (timeout : Nat)
  /-- So many milliseconds pass. -/
  | wait (milliseconds : Nat)
  /-- The timer of the worker runs out. -/
  | tick

/-- What is answered. -/
inductive Response where
  | gate (decision : GateDecision)
  | config (decision : ConfigDecision)
  | experiment (decision : ExperimentDecision)
  | layer (decision : ExperimentDecision) (allocatedExperiment : Option String)
  | store (name : String) (details : Details)
  | value (value : Option Json)
  | payload (json : Json)
  /-- How a flush or the shutdown has ended. -/
  | ended (result : Except Failure Unit)
  | done

/-- The requests are the same, on behalf of users who are alike for the specs. -/
inductive Request.AlikeFor (s : Option Snapshot) : Request → Request → Prop
  | refl (r : Request) : r.AlikeFor s r
  | serve {u u' : User} (h : u.AlikeFor s u') (service : Service) :
      Request.AlikeFor s (.serve u service) (.serve u' service)

/-- An engine with the layers and parameter stores that it has handed out. -/
structure Session where
  engine : Engine
  layers : List LayerDecision := []
  stores : List BoundParameterStore := []

namespace Session

/-- Let the engine work, and respond with what it comes to. -/
def work {α : Type} (x : Session) (m : StateM Engine α) (respond : α → Response) :
    Response × Session :=
  let (a, engine) := m x.engine
  (respond a, { x with engine })

/-- Do something for a user. -/
def serve (x : Session) (u : User) : Service → Response × Session
  | .gate name o => x.work (Engine.gate u name o) .gate
  | .dynamicConfig name o => x.work (Engine.dynamicConfig u name o) .config
  | .experiment name o => x.work (Engine.experiment u name o) .experiment
  | .layer name o =>
    let (d, engine) := Engine.layer u name o x.engine
    (.layer d.toExperimentDecision d.allocatedExperiment,
      { x with engine, layers := x.layers ++ [d] })
  | .parameterStore name o =>
    let b := x.engine.parameterStore u name o
    (.store b.name b.details, { x with stores := x.stores ++ [b] })
  | .clientPayload o => x.work (Engine.clientPayload u o) fun p => .payload p.toJson
  | .logEvent name value metadata =>
    x.work (Engine.logEvent u name value metadata) fun _ => .done

/-- Read something that may have been handed out. -/
def read {α : Type} (x : Session) (a : Option α) (m : α → StateM Engine (Option Json)) :
    Response × Session :=
  match a with
  | some a => x.work (m a) .value
  | none => (.value none, x)

/-- Answer a request. -/
def answer (x : Session) : Request → Response × Session
  | .serve u service => x.serve u service
  | .readLayer index parameter => x.read x.layers[index]? (Engine.readLayer · parameter)
  | .readParameter index parameter => x.read x.stores[index]? (Engine.readParameter · parameter)
  | .flush timeout => x.work (Engine.flush timeout) .ended
  | .shutdown timeout => x.work (Engine.shutdown timeout) .ended
  | .wait milliseconds =>
    x.work (Engine.onIntake (modify fun i => { i with now := i.now + milliseconds })) fun _ => .done
  | .tick => x.work (Engine.onLog EventLog.tick) fun _ => .done

/-- Answer requests one after another. -/
def run (x : Session) : List Request → List Response × Session
  | [] => ([], x)
  | r :: rest =>
    let (response, x) := x.answer r
    let (responses, x) := run x rest
    (response :: responses, x)

/-- The sessions show the same, and their engines decide by the specs `s`. -/
structure Twins (s : Option Snapshot) (x x' : Session) : Prop where
  engine : Engine.Twins s x.engine x'.engine
  layers : List.Forall₂ (fun d d' => d'.shown = d.shown) x.layers x'.layers
  stores : List.Forall₂ (BoundParameterStore.AlikeFor s) x.stores x'.stores

/-- The responses are the same, and so are the sessions afterwards. -/
def EndAlike (s : Option Snapshot) (r r' : Response × Session) : Prop :=
  r'.1 = r.1 ∧ Twins s r.2 r'.2

variable {s : Option Snapshot} {x x' : Session}

theorem Twins.work {α : Type} {R : α → α → Prop} (h : Twins s x x') {m m' : StateM Engine α}
    (hm : Engine.RunAlike s R m m') {respond : α → Response}
    (hrespond : ∀ a a', R a a' → respond a' = respond a) :
    EndAlike s (x.work m respond) (x'.work m' respond) := by
  obtain ⟨hresult, hengine⟩ := hm h.engine
  exact ⟨hrespond _ _ hresult, hengine, h.layers, h.stores⟩

theorem Twins.read {α : Type} {R : α → α → Prop} (h : Twins s x x') {a a' : Option α}
    (ha : Option.Rel R a a') {m : α → StateM Engine (Option Json)}
    (hm : ∀ a a', R a a' → Engine.RunAlike s (· = ·) (m a) (m a')) :
    EndAlike s (x.read a m) (x'.read a' m) := by
  cases ha with
  | none => exact ⟨rfl, h⟩
  | some ha => exact h.work (hm _ _ ha) fun v v' hv => congrArg Response.value hv.symm

theorem twins_serve (h : Twins s x x') {u u' : User} (hu : u.AlikeFor s u') (service : Service) :
    EndAlike s (x.serve u service) (x'.serve u' service) := by
  cases service with
  | gate name o =>
    exact h.work (Engine.runAlike_gate hu name o)
      fun d d' hd => congrArg Response.gate hd.symm
  | dynamicConfig name o =>
    exact h.work (Engine.runAlike_dynamicConfig hu name o)
      fun d d' hd => congrArg Response.config hd.symm
  | experiment name o =>
    exact h.work (Engine.runAlike_experiment hu name o)
      fun d d' hd => congrArg Response.experiment hd.symm
  | layer name o =>
    obtain ⟨hd, hengine⟩ := Engine.runAlike_layer hu name o h.engine
    have hresponse := congrArg (fun d : LayerDecision =>
      Response.layer d.toExperimentDecision d.allocatedExperiment) hd
    exact ⟨hresponse, hengine, List.rel_append h.layers (.cons hd .nil), h.stores⟩
  | parameterStore name o =>
    have hb := h.engine.parameterStore hu name o
    refine ⟨?_, h.engine, h.layers, ?_⟩
    · show Response.store _ (x'.engine.parameterStore u' name o).details = _
      rw [hb.eq]
      rfl
    · exact List.rel_append h.stores (.cons hb .nil)
  | clientPayload o =>
    exact h.work (Engine.runAlike_clientPayload hu o) fun p p' hp => congrArg Response.payload hp
  | logEvent name value metadata =>
    exact h.work (Engine.runAlike_logEvent hu name value metadata) fun _ _ _ => rfl

/-- One request is answered alike. -/
theorem twins_answer (h : Twins s x x') {r r' : Request} (hr : r.AlikeFor s r') :
    EndAlike s (x.answer r) (x'.answer r') := by
  cases hr with
  | serve hu service => exact twins_serve h hu service
  | refl =>
    cases r with
    | serve u service => exact twins_serve h (.refl u) service
    | readLayer index parameter =>
      exact h.read (rel_getElem? h.layers index) fun d d' hd =>
        Engine.runAlike_readLayer hd parameter
    | readParameter index parameter =>
      exact h.read (rel_getElem? h.stores index) fun b b' hb =>
        Engine.runAlike_readParameter hb parameter
    | flush timeout =>
      exact h.work (Engine.runAlike_askLog fun l => l.shown_flush timeout)
        fun v v' hv => congrArg Response.ended hv.symm
    | shutdown timeout =>
      exact h.work (Engine.runAlike_shutdown timeout)
        fun v v' hv => congrArg Response.ended hv.symm
    | wait milliseconds =>
      exact h.work (Engine.runAlike_onIntake fun _ => rfl) fun _ _ _ => rfl
    | tick =>
      refine h.work (Engine.runAlike_onLog fun l l' hl => ?_) fun _ _ _ => rfl
      rw [EventLog.shown_tick, EventLog.shown_tick, hl]

theorem twins_run (h : Twins s x x') {requests requests' : List Request}
    (hr : List.Forall₂ (Request.AlikeFor s) requests requests') :
    (x'.run requests').1 = (x.run requests).1 ∧
      Twins s (x.run requests).2 (x'.run requests').2 := by
  induction hr generalizing x x' with
  | nil => exact ⟨rfl, h⟩
  | cons hr _ ih =>
    obtain ⟨hresponse, hnext⟩ := twins_answer h hr
    obtain ⟨hresponses, hend⟩ := ih hnext
    exact ⟨congrArg₂ List.cons hresponse hresponses, hend⟩

/-- Private attributes do not leak. If the same is asked of an engine on behalf of users who differ
only in private attributes that no condition of its specs reads, then it responds the same, reports
the same, and sends the same over the network. -/
theorem run_eq_of_alike (e : Engine) {requests requests' : List Request}
    (h : List.Forall₂ (Request.AlikeFor e.snapshot) requests requests') :
    let (responses, x) := ({ engine := e } : Session).run requests
    let (responses', x') := ({ engine := e } : Session).run requests'
    responses' = responses ∧
      (∀ reporter, x'.engine.reports reporter = x.engine.reports reporter) ∧
      x'.engine.intake.network.asked = x.engine.intake.network.asked := by
  have hsame : Twins e.snapshot { engine := e } { engine := e } := ⟨.refl e, .nil, .nil⟩
  obtain ⟨hresponses, hend⟩ := twins_run hsame h
  refine ⟨hresponses, fun reporter => ?_, ?_⟩
  · rw [← Engine.reports_shown, hend.engine.shown, Engine.reports_shown]
  · obtain ⟨log, heq, -⟩ := Engine.shown_eq_iff.1 hend.engine.shown
    rw [heq]

/-! ### A gate for users on a plan -/

namespace Plans

/-- The user is on the plan. -/
def onPro : Condition :=
  { kind := .userField, operator := some (.oneOf false false), field := some "plan"
    target := some (.array [.text "pro"]) }

/-- A gate for users on the plan. -/
def reports : Spec :=
  { salt := "reports", defaultValue := .bool false, enabled := true
    rules := [{ id := "pro", passPercentage := .ofInt 100, returnValue := .bool true
                conditions := [.leaf onPro] }] }

/-- The specs of the gate. -/
def specs : Snapshot :=
  { payload := { featureGates := .ofList [("reports", .parsed reports)] }
    idLists := ∅, source := .network, lcut := 1, receivedAt := 1 }

/-- An engine with these specs. -/
def engine : Engine :=
  { settings := {}, intake := { catalog := { snapshot := some specs }, now := 1 }
    log := some (.make 10 2) }

/-- A user on the plan, of whom there are notes. -/
def customer (notes : String) : User :=
  ((User.withUserId "u").setPrivate "plan" (.text "pro")).setPrivate "notes" (.text notes)

/-- What is asked on behalf of a user. -/
def visit (u : User) : List Request :=
  [.serve u (.gate "reports" {}), .serve u (.clientPayload { hash := .djb2 }),
   .serve u (.logEvent "seen" none none), .flush 1000]

theorem eq_onPro {condition : Condition} (h : specs.HasCondition condition) :
    condition = onPro := by
  cases h with
  | shared h => cases h
  | @own e spec _ hspec htip =>
    obtain ⟨kind, name⟩ := e
    obtain ⟨entry, hentry, hget⟩ := Option.bind_eq_some_iff.1 hspec
    cases kind with
    | gate =>
      have hmem : (name, entry) ∈ [("reports", Entry.parsed reports)] :=
        Dict.mem_entries_iff.2 hentry
      obtain ⟨-, rfl⟩ := Prod.mk.inj (List.mem_singleton.1 hmem)
      cases hget
      cases List.mem_singleton.1 htip
      rfl
    | _ => cases hentry

theorem alikeFor_customer (notes notes' : String) :
    (customer notes).AlikeFor engine.snapshot (customer notes') := by
  refine ⟨rfl, fun name hname specs' hspecs hreads => ?_⟩
  obtain rfl : specs = specs' := Option.some.inj hspecs
  obtain ⟨condition, hcondition, field, hfield, hread⟩ := hreads
  obtain rfl := eq_onPro hcondition
  obtain rfl : "plan" = field := Option.some.inj hfield
  have hplan : name = "plan" := hread.elim id fun h => h.trans (by decide +kernel)
  subst hplan
  exact hname rfl

theorem run_eq_of_alike_customer :
    List.Forall₂ (Request.AlikeFor engine.snapshot) (visit (customer "new"))
        (visit (customer "churning")) ∧
      let (responses, x) := ({ engine } : Session).run (visit (customer "new"))
      let (responses', x') := ({ engine } : Session).run (visit (customer "churning"))
      responses' = responses ∧
        (∀ reporter, x'.engine.reports reporter = x.engine.reports reporter) ∧
        x'.engine.intake.network.asked = x.engine.intake.network.asked := by
  have halike := alikeFor_customer "new" "churning"
  have hrequests : List.Forall₂ (Request.AlikeFor engine.snapshot) (visit (customer "new"))
      (visit (customer "churning")) :=
    .cons (.serve halike _) (.cons (.serve halike _) (.cons (.serve halike _)
      (.cons (.refl _) .nil)))
  exact ⟨hrequests, run_eq_of_alike engine hrequests⟩

end Plans

end Session

end Rollout
