import Rollout.Proofs.FeedDownload
import Rollout.Proofs.Handover

/-!
# Starting with specs at hand

An engine that is made with a payload at hand publishes it before its feed is started. What the feed
brings then may be no newer. The catalog refuses it and goes on to publish what it has. The feed
that downloads payloads does not care; the feeds that read a file or the data store pass the refusal
on, and whoever waits for the engine to start is told of it (`Engine.startAndWait_of_stale`).
-/

namespace Rollout

/-! ### What feeds bring -/

/-- Whether payloads are downloaded. -/
def FeedSource.isRemote : FeedSource → Bool
  | .remote _ => true
  | _ => false

/-- The payload that a feed of files supplies when it is started, and where it comes from. -/
def FileFeed.incoming? (f : FileFeed) (n : Network) : Option (String × Source) :=
  let fetched := f.fetcher.bind fun fetcher =>
    if f.needsRefresh then (fetcher.fetch none n).1.1.toOption else none
  (fetched.map (·, .network)).or (f.text.map (·, .cache))

/-- The payload that a feed of files downloads when it is started. -/
def FileFeed.fetched? (f : FileFeed) (n : Network) : Option String :=
  f.fetcher.bind fun fetcher =>
    if f.needsRefresh then (fetcher.fetch none n).1.1.toOption else none

theorem FileFeed.incoming?_eq (f : FileFeed) (n : Network) :
    f.incoming? n = ((f.fetched? n).map (·, .network)).or (f.text.map (·, .cache)) := rfl

/-- What the data store answers, if it has a payload. -/
def DataStore.incoming? (d : DataStore) : Option String := if d.getFails then none else d.slot

namespace Intake

/-- The payload that the feed brings when it is started, and where it comes from, unless that is for
the host to say. -/
def incoming? (i : Intake) : Option (String × Source) :=
  match i.feed.source with
  | .nothing | .host _ | .hooks _ => none
  | .file f => f.incoming? i.network
  | .dataStore => (i.catalog.archive.bind (·.incoming?)).map (·, .adapter "DataStore")
  | .remote f => (f.fetch i.catalog.info.lcut i.network).1.1.toOption.map (·, .network)

/-- Getting hold of a payload leaves the published specs and the time alone, and does not change who
implements the feed. -/
structure Precedes (i i' : Intake) : Prop where
  snapshot : i'.catalog.snapshot = i.catalog.snapshot
  now : i'.now = i.now
  isOfHost : i'.feed.source.isOfHost = i.feed.source.isOfHost
  isListening : i'.feed.isListening = i.feed.isListening

variable {i : Intake} {text : String} {source : Source}

theorem readFile_eq (f : FileFeed) (i : Intake) :
    readFile f i = match f.text with
      | some text => push text .cache i
      | none => (.error .io, i) := by
  unfold readFile
  cases f.text <;> rfl

/-- A payload that is downloaded is written to the file, and one that is not leaves it alone. -/
theorem fetchToFile_of_some {f : FileFeed} {fetcher : Fetcher} (h : f.fetcher = some fetcher)
    (i : Intake) :
    ∃ f', f'.text = (fetcher.fetch none i.network).1.1.toOption.or f.text ∧
      fetchToFile f i = ((fetcher.fetch none i.network).1.1,
        { i with
          network := (fetcher.fetch none i.network).2
          feed := { i.feed with source := .file f' } }) := by
  obtain ⟨⟨⟨result, fetcher'⟩, network⟩, hfetch⟩ : ∃ r, fetcher.fetch none i.network = r :=
    ⟨_, rfl⟩
  unfold fetchToFile
  rw [h, hfetch]
  dsimp only
  cases result with
  | ok text =>
    refine ⟨FileFeed.write { f with fetcher := some fetcher' } text, rfl, ?_⟩
    rw [bind_apply, online_apply, hfetch]
    rfl
  | error failure =>
    refine ⟨{ f with fetcher := some fetcher' }, rfl, ?_⟩
    rw [bind_apply, online_apply, hfetch]
    rfl

/-- A feed of files that is started leaves in the file what it has downloaded, else what there is
already. That is brought to the catalog. -/
theorem supplyFile_eq {f : FileFeed} (hsource : i.feed.source = .file f) :
    ∃ i' f', i.Precedes i' ∧ i'.catalog = i.catalog ∧ i'.feed.source = .file f' ∧
      f'.text = (f.fetched? i.network).or f.text ∧
      supplyFile f i = match f.incoming? i.network with
        | some (text, source) => push text source i'
        | none => (.error .io, i') := by
  have hread (i' : Intake) (hnone : f.fetched? i.network = none) :
      readFile f i' = match f.incoming? i.network with
        | some (text, source) => push text source i'
        | none => (.error .io, i') := by
    rw [readFile_eq, FileFeed.incoming?_eq, hnone]
    cases f.text <;> rfl
  unfold supplyFile
  by_cases hrefreshes : (f.fetcher.isSome && f.needsRefresh) = true
  · obtain ⟨hsome, hneeds⟩ := Bool.and_eq_true_iff.1 hrefreshes
    obtain ⟨fetcher, hfetcher⟩ := Option.isSome_iff_exists.1 hsome
    obtain ⟨f', htext, hfetch⟩ := fetchToFile_of_some hfetcher i
    have hfetched : f.fetched? i.network = (fetcher.fetch none i.network).1.1.toOption := by
      unfold FileFeed.fetched?
      rw [hfetcher, Option.bind_some, if_pos hneeds]
    refine ⟨(fetchToFile f i).2, f', ?_, ?_, ?_, by rw [htext, hfetched], ?_⟩
    · rw [hfetch]
      exact ⟨rfl, rfl, by rw [hsource]; rfl, rfl⟩
    · rw [hfetch]
    · rw [hfetch]
    rw [if_pos hrefreshes, bind_apply, hfetch]
    cases hresult : (fetcher.fetch none i.network).1.1 with
    | ok text =>
      rw [hresult] at hfetched
      rw [FileFeed.incoming?_eq, hfetched]
      rfl
    | error failure =>
      rw [hresult] at hfetched
      exact hread _ hfetched
  · have hnone : f.fetched? i.network = none := by
      unfold FileFeed.fetched?
      cases hfetcher : f.fetcher with
      | none => rfl
      | some fetcher =>
        rw [hfetcher, Option.isSome_some, Bool.true_and] at hrefreshes
        rw [Option.bind_some, if_neg hrefreshes]
    rw [if_neg hrefreshes]
    exact ⟨i, f, ⟨rfl, rfl, rfl, rfl⟩, rfl, hsource, by rw [hnone]; rfl, hread i hnone⟩

theorem supplyFile_of_incoming {f : FileFeed} (hsource : i.feed.source = .file f)
    (h : f.incoming? i.network = some (text, source)) :
    ∃ i', i.Precedes i' ∧ supplyFile f i = push text source i' := by
  obtain ⟨i', -, hi', -, -, -, hsupply⟩ := supplyFile_eq hsource
  rw [h] at hsupply
  exact ⟨i', hi', hsupply⟩

theorem pull_of_incoming {store : DataStore} (harchive : i.catalog.archive = some store)
    (h : store.incoming? = some text) :
    ∃ i', i.Precedes i' ∧ pull i = push text (.adapter "DataStore") i' := by
  unfold DataStore.incoming? at h
  obtain ⟨hget, hslot⟩ := Option.ite_none_left_eq_some.1 h
  obtain ⟨store', hpull⟩ := Engine.pull_of_slot harchive (Bool.eq_false_iff.2 hget) hslot
  refine ⟨_, ?_, hpull⟩
  exact ⟨rfl, rfl, rfl, rfl⟩

theorem download_of_incoming {f : Fetcher} (hsource : i.feed.source = .remote f)
    (h : (f.fetch i.catalog.info.lcut i.network).1.1.toOption = some text) :
    ∃ i', i.Precedes i' ∧ download f i = (.ok (), (push text .network i').2) := by
  refine ⟨{ i with
      network := (i.fetched f).2.network
      feed := { i.feed with source := .remote (i.fetched f).2.fetcher } },
    ⟨rfl, rfl, by rw [hsource]; rfl, rfl⟩, ?_⟩
  change (i.fetched f).1.toOption = some text at h
  rw [download_eq]
  cases hresult : (i.fetched f).1 with
  | error failure =>
    rw [hresult] at h
    cases h
  | ok text' =>
    rw [hresult] at h
    cases h
    rfl

/-- A feed that is not for the host brings its payload to the catalog. Only if it downloads payloads
does it keep to itself whether the catalog accepts them. -/
theorem supply_of_incoming (h : i.incoming? = some (text, source)) :
    ∃ i', i.Precedes i' ∧ (supply i).2 = (push text source i').2 ∧
      (supply i).1 = if i.feed.source.isRemote then .ok () else (push text source i').1 := by
  obtain ⟨⟨feedSource⟩, catalog, network, now⟩ := i
  cases feedSource with
  | nothing | host | hooks => cases h
  | file f =>
    obtain ⟨i', hi', hsupply⟩ := supplyFile_of_incoming rfl h
    exact ⟨i', hi', congrArg Prod.snd hsupply, congrArg Prod.fst hsupply⟩
  | dataStore =>
    obtain ⟨text', htext, heq⟩ := Option.map_eq_some_iff.1 h
    obtain ⟨store, harchive, hstore⟩ := Option.bind_eq_some_iff.1 htext
    cases heq
    obtain ⟨i', hi', hpull⟩ := pull_of_incoming harchive hstore
    exact ⟨i', hi', congrArg Prod.snd hpull, congrArg Prod.fst hpull⟩
  | remote f =>
    obtain ⟨text', htext, heq⟩ := Option.map_eq_some_iff.1 h
    cases heq
    obtain ⟨i', hi', hdownload⟩ := download_of_incoming rfl htext
    exact ⟨i', hi', (congrArg Prod.snd hdownload :), congrArg Prod.fst hdownload⟩

/-- A feed that brings a payload is not for the host, and is listening once it has begun to be
started. -/
theorem listen_of_incoming (h : i.incoming?.isSome) :
    i.feed.source.isOfHost = false ∧
      (listen i).2 = { i with feed := { i.feed with isListening := true } } := by
  obtain ⟨⟨feedSource⟩, catalog, network, now⟩ := i
  cases feedSource with
  | nothing | host | hooks => cases h
  | file | dataStore | remote => exact ⟨rfl, rfl⟩

end Intake

/-! ### What the catalog refuses -/

theorem Catalog.receive_of_stale {c : Catalog} {u : Update} {d : Delivery} {t : Snapshot}
    (ht : c.snapshot = some t) (hd : u.delivery? = some d) (hstale : d.lcut ≤ t.lcut) :
    c.receive u = (.error (.stale t.lcut d.lcut), c) := by
  unfold receive
  obtain ⟨hnone, -⟩ | ⟨d', hd', ⟨t', ht', -, hc⟩ | ⟨hnewer, -⟩⟩ := apply_cases c u
  · cases hnone.symm.trans hd
  · obtain rfl := Option.some.inj (hd.symm.trans hd')
    obtain rfl := Option.some.inj (ht.symm.trans ht')
    rw [hc]
    rfl
  · obtain rfl := Option.some.inj (hd.symm.trans hd')
    exact absurd hstale (Nat.not_le.2 (hnewer t ht))

namespace Engine

variable {sdkKey : String} {s : Settings} {h : HostParts} {e : Engine} {text text' : String}
  {source : Source} {b d : Delivery}

/-! ### Starting -/

/-- Bringing a payload to an intake that publishes one as new is refused and changes nothing. -/
theorem push_of_stale {i : Intake} {t : Snapshot} (ht : i.catalog.snapshot = some t)
    (hd : Update.delivery? { text := text', source, receivedAt := i.now } = some d)
    (hstale : d.lcut ≤ t.lcut) :
    Intake.push text' source i = (.error (.stale t.lcut d.lcut), i) := by
  have hreceive := Catalog.receive_of_stale ht hd hstale
  show ((i.catalog.receive _).1, { i with catalog := (i.catalog.receive _).2 }) = _
  rw [hreceive]

/-- A feed that brings a payload that is no newer leaves the specs alone, and is scheduled. -/
theorem supply_of_stale {i : Intake} {t : Snapshot} (hlistening : i.feed.isListening = true)
    (hhost : i.feed.source.isOfHost = false) (ht : i.catalog.snapshot = some t)
    (hincoming : i.incoming? = some (text', source))
    (hd : Update.delivery? { text := text', source, receivedAt := i.now } = some d)
    (hstale : d.lcut ≤ t.lcut) :
    (Intake.supply i).1 =
        (if i.feed.source.isRemote then .ok () else .error (.stale t.lcut d.lcut)) ∧
      (Intake.schedule (Intake.supply i).2).1 = .ok () ∧
      (Intake.schedule (Intake.supply i).2).2.catalog.snapshot = some t := by
  obtain ⟨i', hi', hafter, hresult⟩ := Intake.supply_of_incoming hincoming
  rw [← hi'.now] at hd
  have ht' := hi'.snapshot.trans ht
  rw [push_of_stale ht' hd hstale] at hafter hresult
  obtain ⟨hscheduled, hcatalog⟩ :=
    schedule_of_listening (hi'.isOfHost.trans hhost) (hi'.isListening.trans hlistening)
  rw [hafter]
  exact ⟨hresult, hscheduled, by rw [hcatalog, ht']⟩

theorem isHeld_ofSource {source : FeedSource} (h : source.isOfHost = false) :
    (Feed.ofSource source).isHeld = false := by
  cases source with
  | host => cases h
  | nothing | hooks | file | dataStore | remote => rfl

/-- An engine that has been made with a payload at hand, once it has taken that in. -/
theorem withBootstrap_of_make (hmake : make sdkKey s h = .ok e)
    (hbootstrap : s.bootstrap = some text)
    (hb : Update.delivery? { text, source := .bootstrap, receivedAt := h.now } = some b) :
    let i := e.intake.withBootstrap e.settings.bootstrap
    e.settings = s ∧ i.now = h.now ∧ i.catalog.snapshot = some (b.snapshot ∅) ∧
      i.feed = .ofSource e.intake.feed.source := by
  obtain ⟨feedSource, poster, idLists, log, -, rfl⟩ := eq_of_make hmake
  dsimp only
  rw [hbootstrap]
  exact ⟨rfl, rfl, (Catalog.receive_of_new rfl hb).2, rfl⟩

/-- An engine is made with a payload at hand, and its feed, which is not for the host, brings one
that is no newer. After it has been started the engine publishes the payload at hand. The caller
that waits for the start is told that it has succeeded if payloads are downloaded, and else that the
second payload is stale. -/
theorem startAndWait_of_stale (hmake : make sdkKey s h = .ok e)
    (hbootstrap : s.bootstrap = some text)
    (hb : Update.delivery? { text, source := .bootstrap, receivedAt := h.now } = some b)
    (hincoming : (e.intake.withBootstrap s.bootstrap).incoming? = some (text', source))
    (hd : Update.delivery? { text := text', source, receivedAt := h.now } = some d)
    (hstale : d.lcut ≤ b.lcut) :
    (startAndWait e).2.snapshot = some (b.snapshot ∅) ∧
      (startAndWait e).1 =
        if e.intake.feed.source.isRemote then .ok () else .error (.stale b.lcut d.lcut) := by
  obtain ⟨hsettings, hnow, hpublished, hfeed⟩ := withBootstrap_of_make hmake hbootstrap hb
  rw [← hsettings] at hincoming
  rw [← hnow] at hd
  obtain ⟨hhost, hlisten⟩ := Intake.listen_of_incoming (Option.isSome_of_eq_some hincoming)
  have hsource : (e.intake.withBootstrap e.settings.bootstrap).feed.source =
      e.intake.feed.source := by
    rw [hfeed]
    rfl
  have hheld : (e.intake.withBootstrap e.settings.bootstrap).feed.isHeld = false := by
    rw [hfeed]
    exact isHeld_ofSource (hsource ▸ hhost)
  obtain ⟨hsupplied, hscheduled, hkept⟩ :=
    supply_of_stale (i := { e.intake.withBootstrap e.settings.bootstrap with
      feed := { (e.intake.withBootstrap e.settings.bootstrap).feed with isListening := true } })
      rfl hhost hpublished hincoming hd hstale
  obtain ⟨hresult, hintake, -, -⟩ := startAndWait_of_new (new_of_make hmake).1 hlisten hheld
  constructor
  · unfold snapshot
    rw [hintake, hkept]
  · rw [hresult, hsupplied, hscheduled, ← hsource]
    split <;> rfl

/-! ### The same payload twice -/

/-- The text of a payload. -/
def versionFive : String := "\x7b\"time\":5\x7d"

theorem exists_delivery_versionFive (source : Source) (receivedAt : Nat) :
    ∃ d, Update.delivery? { text := versionFive, source, receivedAt } = some d ∧ d.lcut = 5 := by
  have hread : (Payload.ofText? versionFive).map (fun p => (p.hasUpdates, p.time)) =
      some (true, some 5) := by decide +kernel
  obtain ⟨p, hp, hparts⟩ := Option.map_eq_some_iff.1 hread
  obtain ⟨hupdates, htime⟩ := Prod.mk.inj hparts
  refine ⟨⟨p, source, receivedAt, by rw [htime]; rfl⟩, ?_, ?_⟩
  · unfold Update.delivery?
    dsimp only
    rw [hp]
    exact dif_pos ⟨hupdates, by rw [htime]; rfl⟩
  · unfold Delivery.lcut
    dsimp only
    simp only [htime, Option.get_some]

/-- Settings with the payload at hand. -/
def withVersionFive : Settings := { bootstrap := some versionFive }

/-- A data store and a network that have nothing but the same payload. -/
def hostOfVersionFive (feed : FeedSource) : HostParts :=
  { feed := some feed, takesEvents := true, now := 1
    dataStore := some { key := DataStore.keyOf "secret-key", slot := some versionFive }
    network := { response? := fun _ => some ⟨200, versionFive⟩ } }

/-- A client of the own machine. -/
def localFetcher : Fetcher where
  client := {}
  sdkKey := "secret-key"
  base :=
    { scheme := "http", host := some (.ipv6 [0, 0, 0, 0, 0, 0, 0, 1]), path := .segments [""] }
  headers := []

theorem startAndWait_of_stale_versionFive :
    ∃ (e e' : Engine) (b : Delivery),
      (make "secret-key" withVersionFive (hostOfVersionFive .dataStore) = .ok e ∧
        make "secret-key" withVersionFive (hostOfVersionFive (.remote localFetcher)) = .ok e' ∧
        b.lcut = 5) ∧
      ((startAndWait e).2.snapshot = some (b.snapshot ∅) ∧
        (startAndWait e).1 = .error (.stale 5 5)) ∧
      (startAndWait e').2.snapshot = some (b.snapshot ∅) ∧ (startAndWait e').1 = .ok () := by
  obtain ⟨e, he⟩ : ∃ e,
    make "secret-key" withVersionFive (hostOfVersionFive .dataStore) = .ok e := ⟨_, rfl⟩
  obtain ⟨e', he'⟩ : ∃ e,
    make "secret-key" withVersionFive (hostOfVersionFive (.remote localFetcher)) = .ok e := ⟨_, rfl⟩
  obtain ⟨b, hb, hlcut⟩ := exists_delivery_versionFive .bootstrap 1
  obtain ⟨d, hd, hlcut'⟩ := exists_delivery_versionFive (.adapter "DataStore") 1
  obtain ⟨d', hd', hlcut''⟩ := exists_delivery_versionFive .network 1
  have hincoming : (e.intake.withBootstrap (some versionFive)).incoming? =
      some (versionFive, .adapter "DataStore") := by
    cases he
    decide +kernel
  have hincoming' : (e'.intake.withBootstrap (some versionFive)).incoming? =
      some (versionFive, .network) := by
    cases he'
    decide +kernel
  have hfails := startAndWait_of_stale he rfl hb hincoming hd (by omega)
  have hsucceeds := startAndWait_of_stale he' rfl hb hincoming' hd' (by omega)
  cases he
  cases he'
  rw [hlcut, hlcut'] at hfails
  exact ⟨_, _, b, ⟨rfl, rfl, hlcut⟩, hfails, hsucceeds⟩

/-- A feed that brings a payload that is no newer can keep the start from succeeding. -/
theorem not_forall_startAndWait_ok :
    ¬ ∀ {sdkKey : String} {s : Settings} {h : HostParts} {e : Engine} {text text' : String}
        {source : Source} {b d : Delivery},
      make sdkKey s h = .ok e → s.bootstrap = some text →
      Update.delivery? { text, source := .bootstrap, receivedAt := h.now } = some b →
      (e.intake.withBootstrap s.bootstrap).incoming? = some (text', source) →
      Update.delivery? { text := text', source, receivedAt := h.now } = some d →
      d.lcut ≤ b.lcut → (startAndWait e).1 = .ok () := by
  intro hall
  obtain ⟨e, he⟩ : ∃ e,
    make "secret-key" withVersionFive (hostOfVersionFive .dataStore) = .ok e := ⟨_, rfl⟩
  obtain ⟨b, hb, hlcut⟩ := exists_delivery_versionFive .bootstrap 1
  obtain ⟨d, hd, hlcut'⟩ := exists_delivery_versionFive (.adapter "DataStore") 1
  have hincoming : (e.intake.withBootstrap (some versionFive)).incoming? =
      some (versionFive, .adapter "DataStore") := by
    cases he
    decide +kernel
  have hok := hall he rfl hb hincoming hd (by omega)
  have hfails : (startAndWait e).1.isOk = false := by
    cases he
    decide +kernel
  rw [hok] at hfails
  cases hfails

end Engine

end Rollout
