import Rollout.Proofs.Independence
import Rollout.Proofs.Interleaving
import Rollout.Proofs.Publication

/-!
# Specs that are handed over

Engines with one SDK key may share a key-value store of the host. One that takes its specs from the
network writes them there; one that is started later takes them from there. As long as the first
publishes nothing but what comes from the network, the store holds the text of what is published
(`Catalog.Archives`). So the second publishes the same specs, and decides the same of all users but
for where the specs come from and when they arrived (`Engine.handover`).
-/

namespace Rollout

/-! ### Key-value stores -/

namespace DataStore

/-- What engines with an SDK key have of a key-value store none of whose operations fails. -/
def ofValues (values : Dict String) (sdkKey : String) (polling : Bool) : DataStore :=
  { key := keyOf sdkKey, slot := values.get? (keyOf sdkKey), polling }

/-- The key-value store with what has been written to the slot. -/
def save (d : DataStore) (values : Dict String) : Dict String :=
  match d.slot with
  | some value => values.insert d.key value
  | none => values.erase d.key

theorem slot_ofValues_save (d : DataStore) (values : Dict String) {sdkKey : String}
    (h : d.key = keyOf sdkKey) (polling : Bool) :
    (ofValues (d.save values) sdkKey polling).slot = d.slot := by
  show (d.save values).get? (keyOf sdkKey) = _
  unfold save
  rw [← h]
  cases d.slot with
  | some value => exact (Dict.get?_insert ..).trans (if_pos rfl)
  | none => exact (Dict.get?_erase ..).trans (if_pos rfl)

end DataStore

/-- The same text makes the same delivery, from wherever and whenever it arrives. -/
theorem Update.delivery?_of_text {u : Update} {d : Delivery} (h : u.delivery? = some d)
    (source : Source) (receivedAt : Nat) :
    Update.delivery? { text := u.text, source, receivedAt } =
      some { d with source, receivedAt } := by
  unfold delivery? at h ⊢
  dsimp only
  cases hp : Payload.ofText? u.text with
  | none =>
    rw [hp] at h
    cases h
  | some payload =>
    rw [hp] at h
    dsimp only at h ⊢
    split_ifs at h ⊢ with htimed
    cases h
    rfl

namespace Catalog

variable {c : Catalog} {u : Update} {key : String}

/-! ### What is accepted -/

/-- Whether an update carries specs that the catalog accepts. -/
def accepts (c : Catalog) (u : Update) : Bool := u.delivery?.isSome && (c.receive u).1.isOk

/-- The updates that are accepted, of some that arrive one after another. -/
def accepted (c : Catalog) : List Update → List Update
  | [] => []
  | u :: updates =>
    if c.accepts u then u :: (c.after (.apply u)).accepted updates
    else (c.after (.apply u)).accepted updates

theorem deliveries_ne_nil {updates : List Update} (h : c.accepted updates ≠ []) :
    Call.deliveries (updates.map .apply) ≠ [] := by
  induction updates generalizing c with
  | nil => exact absurd rfl h
  | cons u updates ih =>
    unfold accepted at h
    unfold Call.deliveries
    rw [List.map_cons, List.filterMap_cons]
    cases hu : u.delivery? with
    | some d => simp [Call.delivery?, hu]
    | none =>
      have hrefused : ¬ c.accepts u = true := by simp [accepts, hu]
      rw [if_neg hrefused] at h
      have hnone : (Call.apply u).delivery? = none := hu
      rw [hnone]
      exact ih h

theorem receive_of_new {d : Delivery} (hnew : c.snapshot = none) (hd : u.delivery? = some d) :
    (c.receive u).1 = .ok () ∧ (c.receive u).2.snapshot = some (d.snapshot c.synced) := by
  obtain ⟨hnone, -⟩ | ⟨d', hd', ⟨t, ht, -⟩ | ⟨-, hc⟩⟩ := apply_cases c u
  · cases hnone.symm.trans hd
  · cases hnew.symm.trans ht
  · obtain rfl := Option.some.inj (hd.symm.trans hd')
    unfold receive
    rw [hc]
    exact ⟨rfl, writeThrough_snapshot ..⟩

/-! ### What the store holds -/

/-- The catalog has no id lists in sync, and the text of what it publishes is in the data store. -/
structure Archives (key : String) (c : Catalog) : Prop where
  synced_eq : c.synced = ∅
  archive_eq : ∃ store, c.archive = some store ∧ store.key = key ∧ store.setFails = false ∧
    ∀ t, c.snapshot = some t →
      ∃ (u : Update) (d : Delivery),
        store.slot = some u.text ∧ u.delivery? = some d ∧ t = d.snapshot ∅

theorem Archives.after (h : c.Archives key) (hnetwork : c.accepts u = true → u.source = .network) :
    (c.after (.apply u)).Archives key := by
  obtain ⟨hsynced, store, harchive, hkey, hset, hslot⟩ := h
  show (c.apply u.text u.source u.receivedAt).2.Archives key
  obtain ⟨-, hc⟩ | ⟨d, hd, ⟨t, -, -, hc⟩ | ⟨-, hc⟩⟩ := apply_cases c u
  · rw [hc]
    exact ⟨hsynced, store, harchive, hkey, hset, hslot⟩
  · rw [hc]
    exact ⟨hsynced, store, harchive, hkey, hset, hslot⟩
  · -- Only here are other specs published, and then their text is written through.
    have haccepts : c.accepts u = true := by
      unfold accepts receive
      rw [hd, hc]
      rfl
    have hwrite : store.write u.text (some u.receivedAt) = { store with
        slot := some u.text
        writes := store.writes ++ [⟨store.key, u.text, some u.receivedAt⟩] } := by
      unfold DataStore.write
      rw [hset]
      rfl
    rw [hc]
    unfold writeThrough
    rw [if_pos (hnetwork haccepts), harchive, Option.map_some, hwrite]
    refine ⟨hsynced, _, rfl, hkey, hset, ?_⟩
    rintro _ ⟨⟩
    exact ⟨u, d, rfl, hd, by rw [hsynced]⟩

theorem Archives.run (h : c.Archives key) {updates : List Update}
    (hnetwork : ∀ u ∈ c.accepted updates, u.source = .network) :
    (c.run (updates.map .apply)).Archives key := by
  induction updates generalizing c with
  | nil => exact h
  | cons u updates ih =>
    unfold accepted at hnetwork
    by_cases hu : c.accepts u = true
    · rw [if_pos hu] at hnetwork
      have hafter := h.after fun _ => hnetwork u List.mem_cons_self
      exact ih hafter fun v hv => hnetwork v (List.mem_cons_of_mem u hv)
    · rw [if_neg hu] at hnetwork
      exact ih (h.after fun haccepts => absurd haccepts hu) hnetwork

end Catalog

/-! ### Feeds -/

/-- Whether the host implements the feed. -/
def FeedSource.isOfHost : FeedSource → Bool
  | .host _ | .hooks _ => true
  | _ => false

/-- The intake after it has taken in the payload at hand, if there is one. -/
def Intake.withBootstrap (i : Intake) : Option String → Intake
  | some text => (push text .bootstrap i).2
  | none => i

namespace Engine

variable {sdkKey : String} {s : Settings} {h : HostParts} {e : Engine}

/-! ### The first engine -/

/-- The engine after updates that arrive one after another. -/
def deliver (e : Engine) (updates : List Update) : Engine :=
  updates.foldl (fun e u => (onIntake (Intake.receive u) e).2) e

theorem deliver_eq (e : Engine) (updates : List Update) :
    e.deliver updates = { e with intake :=
      { e.intake with catalog := e.intake.catalog.run (updates.map .apply) } } := by
  induction updates generalizing e with
  | nil => rfl
  | cons u updates ih => exact ih (onIntake (Intake.receive u) e).2

/-- The key-value store with what the engine has written to it. -/
def save (e : Engine) (values : Dict String) : Dict String :=
  match e.intake.catalog.archive with
  | some store => store.save values
  | none => values

/-- An engine that publishes nothing but what comes from the network leaves the text of what it
publishes in the key-value store. -/
theorem exists_snapshot_of_deliver {values : Dict String} {polling : Bool} {updates : List Update}
    (hmake : make sdkKey s h = .ok e)
    (hstore : h.dataStore = some (.ofValues values sdkKey polling))
    (hsome : e.intake.catalog.accepted updates ≠ [])
    (hnetwork : ∀ u ∈ e.intake.catalog.accepted updates, u.source = .network) (polling' : Bool) :
    ∃ (u : Update) (d : Delivery),
      (DataStore.ofValues ((e.deliver updates).save values) sdkKey polling').slot =
        some u.text ∧
      u.delivery? = some d ∧ (e.deliver updates).snapshot = some (d.snapshot ∅) := by
  obtain ⟨source, poster, idLists, log, -, rfl⟩ := eq_of_make hmake
  rw [deliver_eq]
  have hnew : Catalog.Archives (DataStore.keyOf sdkKey) { archive := h.dataStore } :=
    ⟨rfl, _, hstore, rfl, rfl, nofun⟩
  obtain ⟨-, store, harchive, hkey, -, hslot⟩ := hnew.run hnetwork
  have hpublished := Catalog.publishes_run h.dataStore (updates.map .apply)
  cases ht : (Catalog.run { archive := h.dataStore } (updates.map .apply)).snapshot with
  | none => exact absurd (hpublished.nil_of_none ht) (Catalog.deliveries_ne_nil hsome)
  | some t =>
    obtain ⟨u, d, hu, hd, rfl⟩ := hslot t ht
    refine ⟨u, d, ?_, hd, ht⟩
    unfold save
    dsimp only
    rw [harchive]
    exact (store.slot_ofValues_save values hkey polling').trans hu

/-! ### The second engine -/

/-- What starting the feed comes to, if nothing keeps it from being scheduled. -/
theorem finishStart_eq (hopen : e.phase.isClosing = false) :
    finishStart e =
      let (started, i) := Intake.supply e.intake
      let (scheduled, i) := Intake.schedule i
      ((), { e with
        intake := i
        lifecycle := (e.lifecycle.feedStarted started).feedScheduled scheduled }) := by
  obtain ⟨e', he'⟩ : ∃ e', e' =
      (onLifecycle (·.feedStarted (Intake.supply e.intake).1) (onIntake Intake.supply e).2).2 :=
    ⟨_, rfl⟩
  have hfinish : finishStart e =
      onLifecycle (·.feedScheduled (scheduleFeed e').1) (scheduleFeed e').2 := by
    rw [he']
    rfl
  -- The phase is looked at again after the start of the feed, which leaves it alone.
  have hmay : e'.lifecycle.maySchedule = true := by
    rw [he']
    exact congrArg (!·) hopen
  rw [hfinish, scheduleFeed_eq, if_pos hmay, he']
  rfl

theorem applyBootstrap_eq (e : Engine) :
    (applyBootstrap e).2 = { e with intake := e.intake.withBootstrap e.settings.bootstrap } := by
  unfold applyBootstrap
  rw [bind_apply]
  have hsettings : ((get : StateM Engine Engine) e).1.settings = e.settings := rfl
  rw [hsettings]
  cases e.settings.bootstrap <;> rfl

theorem exists_scheduleIdLists (e : Engine) :
    ∃ poller, (scheduleIdLists e).2 = { e with idListPoller := poller } := by
  show ∃ poller, (if e.idLists.isSome then { e with idListPoller := .running } else e) = _
  split
  · exact ⟨_, rfl⟩
  · exact ⟨_, rfl⟩

/-- Starting a new engine, where nothing holds the feed. -/
theorem startAndWait_of_new (hnew : e.lifecycle = {}) {i : Intake}
    (hlisten : (Intake.listen (e.intake.withBootstrap e.settings.bootstrap)).2 = i)
    (hheld : i.feed.isHeld = false) :
    (startAndWait e).1 = Lifecycle.firstResult (Intake.supply i).1
        (Intake.schedule (Intake.supply i).2).1 ∧
      (startAndWait e).2.intake = (Intake.schedule (Intake.supply i).2).2 ∧
      (startAndWait e).2.overrides = e.overrides ∧ (startAndWait e).2.storage = e.storage := by
  have hstart := start_of_uninitialized (e := e) (congrArg Lifecycle.phase hnew)
  rw [startAndWait_of_ok (congrArg Prod.fst hstart), hstart]
  have hspawned : ∃ poller, spawned e = { e with
      intake := e.intake.withBootstrap e.settings.bootstrap
      lifecycle := { phase := .initializing, thread := .starting }, idListPoller := poller } := by
    unfold spawned
    dsimp only
    rw [applyBootstrap_eq]
    obtain ⟨poller, hpoller⟩ := exists_scheduleIdLists { e with
      intake := e.intake.withBootstrap e.settings.bootstrap
      lifecycle := { e.lifecycle with phase := .initializing } }
    refine ⟨poller, ?_⟩
    dsimp only
    rw [hpoller, hnew]
    rfl
  obtain ⟨poller, hspawned⟩ := hspawned
  have hrun :
      (runStart (spawned e)).2 = (finishStart (onIntake Intake.listen (spawned e)).2).2 := by
    have hheld' : ¬ (onIntake Intake.listen (spawned e)).2.intake.feed.isHeld = true := by
      rw [hspawned]
      rw [← hlisten] at hheld
      exact Bool.eq_false_iff.1 hheld
    show ((if (onIntake Intake.listen (spawned e)).2.intake.feed.isHeld then pure ()
      else finishStart : StateM Engine Unit) (onIntake Intake.listen (spawned e)).2).2 = _
    rw [if_neg hheld']
  rw [hrun, hspawned, finishStart_eq rfl, ← hlisten]
  exact ⟨rfl, rfl, rfl, rfl⟩

theorem pull_of_slot {i : Intake} {store : DataStore} {text : String}
    (harchive : i.catalog.archive = some store) (hget : store.getFails = false)
    (hslot : store.slot = some text) :
    ∃ store', Intake.pull i = Intake.push text (.adapter "DataStore")
      { i with catalog := { i.catalog with archive := some store' } } := by
  refine ⟨store.read.2, ?_⟩
  have hread : store.read.1 = .ok (some text) := by
    unfold DataStore.read
    split <;> simp [hget, hslot]
  unfold Intake.pull
  rw [harchive]
  dsimp only
  rw [hread]

/-- A new catalog publishes what the data store holds. -/
theorem supply_of_slot {i : Intake} {store : DataStore} {u : Update} {d : Delivery}
    (hsource : i.feed.source = .dataStore) (hnew : i.catalog = { archive := some store })
    (hget : store.getFails = false) (hslot : store.slot = some u.text)
    (hd : u.delivery? = some d) :
    (Intake.supply i).1 = .ok () ∧ (Intake.supply i).2.feed = i.feed ∧
      (Intake.supply i).2.catalog.snapshot =
        some ({ d with source := .adapter "DataStore", receivedAt := i.now }.snapshot ∅) := by
  have harchive : i.catalog.archive = some store := congrArg Catalog.archive hnew
  obtain ⟨store', hpull⟩ := pull_of_slot harchive hget hslot
  have hsupply : Intake.supply i = Intake.pull i := by
    obtain ⟨⟨source⟩⟩ := i
    obtain rfl : source = .dataStore := hsource
    rfl
  rw [hsupply, hpull, hnew]
  have hreceived := Catalog.receive_of_new (c := { archive := some store' }) rfl
    (u.delivery?_of_text hd (.adapter "DataStore") i.now)
  exact ⟨hreceived.1, rfl, hreceived.2⟩

/-- Scheduling a feed that has been started succeeds, unless it is for the host to say. -/
theorem schedule_of_listening {i : Intake} (hhost : i.feed.source.isOfHost = false)
    (hlistening : i.feed.isListening = true) :
    (Intake.schedule i).1 = .ok () ∧ (Intake.schedule i).2.catalog = i.catalog := by
  obtain ⟨⟨source, listening⟩, catalog, network, now⟩ := i
  obtain rfl : listening = true := hlistening
  cases source with
  | nothing | remote => exact ⟨rfl, rfl⟩
  | host | hooks => cases hhost
  | file f =>
    obtain ⟨text, ageMs, isReread⟩ := f
    cases isReread <;> exact ⟨rfl, rfl⟩
  | dataStore =>
    show ((if catalog.archive.any (·.polling) then Intake.appoint
      else return .ok () : StateM Intake (Except Failure Unit)) _).1 = _ ∧
      ((if catalog.archive.any (·.polling) then Intake.appoint
        else return .ok () : StateM Intake (Except Failure Unit)) _).2.catalog = _
    split <;> exact ⟨rfl, rfl⟩

/-- A new engine whose feed is the data store publishes what the store holds. -/
theorem startAndWait_of_slot {values : Dict String} {polling : Bool} {u : Update} {d : Delivery}
    (hmake : make sdkKey s h = .ok e) (hfeed : chooseFeed sdkKey s h = .ok .dataStore)
    (hbootstrap : s.bootstrap = none)
    (hstore : h.dataStore = some (.ofValues values sdkKey polling))
    (hslot : (DataStore.ofValues values sdkKey polling).slot = some u.text)
    (hd : u.delivery? = some d) :
    (startAndWait e).1 = .ok () ∧
      (startAndWait e).2.snapshot =
        some ({ d with source := .adapter "DataStore", receivedAt := h.now }.snapshot ∅) ∧
      (startAndWait e).2.overrides = {} ∧ (startAndWait e).2.storage = h.storage := by
  obtain ⟨source, poster, idLists, log, hsource, heq⟩ := eq_of_make hmake
  obtain rfl : source = .dataStore := Except.ok.inj (hsource.symm.trans hfeed)
  obtain ⟨i, hlisten, hi⟩ : ∃ i,
      (Intake.listen (e.intake.withBootstrap e.settings.bootstrap)).2 = i ∧
      i = { feed := { Feed.ofSource .dataStore with isListening := true }, network := h.network,
            now := h.now, catalog := { archive := some (.ofValues values sdkKey polling) } } := by
    refine ⟨_, rfl, ?_⟩
    rw [heq, hstore]
    dsimp only
    rw [hbootstrap]
    rfl
  obtain ⟨hresult, hintake, hoverrides, hstorage⟩ := startAndWait_of_new (e := e) (by rw [heq])
    hlisten (by rw [hi]; rfl)
  obtain ⟨hok, hfeed', hsnapshot⟩ := supply_of_slot (i := i) (by rw [hi]; rfl) (by rw [hi]) rfl
    hslot hd
  obtain ⟨hscheduled, hcatalog⟩ := schedule_of_listening (i := (Intake.supply i).2)
    (by rw [hfeed', hi]; rfl) (by rw [hfeed', hi])
  refine ⟨?_, ?_, ?_, ?_⟩
  · rw [hresult, hok, hscheduled]
    rfl
  · unfold snapshot
    rw [hintake, hcatalog, hsnapshot, hi]
  · rw [hoverrides, heq]
  · rw [hstorage, heq]

/-! ### The decisions of both -/

/-- The engine at a time. -/
def atTime (e : Engine) (now : Nat) : Engine := { e with intake := { e.intake with now } }

theorem agreesAt_of_eq {t t' : Snapshot} (hpayload : t'.payload = t.payload)
    (hidLists : t'.idLists = t.idLists) (x : Entity) : t.AgreesAt t' {} {} x where
  entry := by rw [hpayload]
  shared _ _ _ _ := by rw [hpayload]
  idLists _ _ _ _ _ _ _ _ := by rw [hidLists]
  overrides _ := rfl

theorem evaluate_under {e' : Engine} {t t' : Snapshot} (hsnapshot : e.snapshot = some t)
    (hsnapshot' : e'.snapshot = some t') (hpayload : t'.payload = t.payload)
    (hidLists : t'.idLists = t.idLists) (hoverrides : e.overrides = {})
    (hoverrides' : e'.overrides = {}) (hstorage : e.storage = none) (hstorage' : e'.storage = none)
    (hnow : e'.intake.now = e.intake.now) (user : User) (kind : EntityKind) (name : String)
    (o : EvaluationOptions) :
    (evaluate user kind name o e').1 = (evaluate user kind name o e).1.under t' := by
  show (({ user, snapshot := e'.snapshot, overrides := e'.overrides, now := e'.intake.now } :
      Context).evaluateWith e'.storage o.isSticky kind name).1 =
    (({ user, snapshot := e.snapshot, overrides := e.overrides, now := e.intake.now } :
      Context).evaluateWith e.storage o.isSticky kind name).1.under t'
  rw [hsnapshot, hsnapshot', hoverrides, hoverrides', hstorage, hstorage', hnow]
  have halike : ({ user, snapshot := some t, overrides := {}, now := e.intake.now } :
      Context).Alike { user, snapshot := some t', overrides := {}, now := e.intake.now } := rfl
  exact Context.evaluateWith_none_under halike rfl rfl o.isSticky fun x _ =>
    agreesAt_of_eq hpayload hidLists x

/-- An engine takes updates as they arrive, from which it publishes something, and nothing but what
comes from the network. Another engine with the same SDK key is made without a payload at hand, and
its feed is the key-value store that the first has written to. Then starting it succeeds, it
publishes the same specs, and at any time the two decide the same of all users, but for the source
of the specs and the time of their arrival. -/
theorem handover {a b : Engine} {s' : Settings} {h' : HostParts} {values : Dict String}
    {polling polling' : Bool} {updates : List Update} (ha : make sdkKey s h = .ok a)
    (hstore : h.dataStore = some (.ofValues values sdkKey polling)) (hstorage : h.storage = none)
    (hsome : a.intake.catalog.accepted updates ≠ [])
    (hnetwork : ∀ u ∈ a.intake.catalog.accepted updates, u.source = .network)
    (hb : make sdkKey s' h' = .ok b) (hfeed : chooseFeed sdkKey s' h' = .ok .dataStore)
    (hbootstrap : s'.bootstrap = none)
    (hstore' : h'.dataStore = some (.ofValues ((a.deliver updates).save values) sdkKey polling'))
    (hstorage' : h'.storage = none) :
    let a' := a.deliver updates
    let b' := (startAndWait b).2
    (startAndWait b).1 = .ok () ∧
      ∃ t t', a'.snapshot = some t ∧ b'.snapshot = some t' ∧ t'.lcut = t.lcut ∧
        t'.payload = t.payload ∧ t'.idLists = t.idLists ∧ t'.source = .adapter "DataStore" ∧
        ∀ now user kind name o,
          let outcome := (evaluate user kind name o (a'.atTime now)).1
          let outcome' := (evaluate user kind name o (b'.atTime now)).1
          outcome' = { outcome with details :=
            { outcome.details with
              receivedAt := outcome'.details.receivedAt
              reason := outcome.details.reason.withSource t'.source } } := by
  intro a' b'
  obtain ⟨u, d, hslot, hd, ht⟩ := exists_snapshot_of_deliver ha hstore hsome hnetwork polling'
  obtain ⟨hok, ht', hoverrides', hkept'⟩ :=
    startAndWait_of_slot hb hfeed hbootstrap hstore' hslot hd
  refine ⟨hok, _, _, ht, ht', rfl, rfl, rfl, rfl, fun now user kind name o => ?_⟩
  intro outcome outcome'
  obtain ⟨hoverrides, hkept⟩ : a'.overrides = {} ∧ a'.storage = none := by
    obtain ⟨source, poster, idLists, log, -, rfl⟩ := eq_of_make ha
    show (Engine.deliver _ updates).overrides = {} ∧ (Engine.deliver _ updates).storage = none
    rw [deliver_eq]
    exact ⟨rfl, hstorage⟩
  have hta : (a'.atTime now).snapshot = some (d.snapshot ∅) := ht
  have htb : (b'.atTime now).snapshot = some _ := ht'
  have hunder : outcome' = outcome.under _ :=
    evaluate_under hta htb rfl rfl hoverrides hoverrides' hkept (hkept'.trans hstorage') rfl user
      kind name o
  -- An outcome of the first engine is already one under its own specs, so its `lcut` is theirs.
  have hsame : outcome = outcome.under _ :=
    evaluate_under hta hta rfl rfl hoverrides hoverrides hkept hkept rfl user kind name o
  have hlcut : outcome.details.lcut = some d.lcut := congrArg (·.details.lcut) hsame
  rw [hunder]
  unfold Outcome.under Snapshot.details
  dsimp only
  rw [hlcut]
  rfl

/-! ### An engine that takes over -/

/-- What the host gives to an engine that is fed by hand and writes to a data store. -/
def writer : HostParts :=
  { feed := some .nothing, takesEvents := true, now := 1
    dataStore := some (.ofValues ∅ "secret-key" false) }

/-- Specs from the network, then others that are too old, and others that are no JSON. -/
def threeUpdates : List Update :=
  [{ text := "\x7b\"time\":2\x7d", source := .network, receivedAt := 1 },
    { text := "\x7b\"time\":1\x7d", source := .cache, receivedAt := 2 },
    { text := "\x7b", source := .bootstrap, receivedAt := 3 }]

/-- What the host gives to an engine that takes over from another. -/
def reader (a : Engine) : HostParts :=
  { takesEvents := true, now := 4
    dataStore := some (.ofValues ((a.deliver threeUpdates).save ∅) "secret-key" true) }

theorem handover_threeUpdates :
    ∃ a b,
      (make "secret-key" {} writer = .ok a ∧
        a.intake.catalog.accepted threeUpdates = threeUpdates.take 1 ∧
        make "secret-key" {} (reader a) = .ok b) ∧
      (startAndWait b).1 = .ok () ∧
      ∃ t t', (a.deliver threeUpdates).snapshot = some t ∧
        (startAndWait b).2.snapshot = some t' ∧ t'.lcut = t.lcut ∧ t'.payload = t.payload ∧
        t'.source = .adapter "DataStore" := by
  obtain ⟨a, ha⟩ : ∃ a, make "secret-key" {} writer = .ok a := ⟨_, rfl⟩
  obtain ⟨b, hb⟩ : ∃ b, make "secret-key" {} (reader a) = .ok b := ⟨_, rfl⟩
  have haccepted : a.intake.catalog.accepted threeUpdates = threeUpdates.take 1 := by
    cases ha
    decide +kernel
  have hsome : a.intake.catalog.accepted threeUpdates ≠ [] := by
    rw [haccepted]
    exact nofun
  have hnetwork : ∀ u ∈ a.intake.catalog.accepted threeUpdates, u.source = .network := by
    rw [haccepted]
    decide
  obtain ⟨hok, t, t', ht, ht', hlcut, hpayload, -, hsource, -⟩ :=
    handover ha rfl rfl hsome hnetwork hb rfl rfl rfl rfl
  exact ⟨a, b, ⟨ha, haccepted, hb⟩, hok, t, t', ht, ht', hlcut, hpayload, hsource⟩

end Engine

end Rollout
