import Rollout.Feed
import Rollout.Proofs.FetchProtocol
import Rollout.Proofs.Publication

/-!
# A feed that downloads payloads

When it is started, and whenever its poller runs, the feed fetches the changes since the published
specs (`Intake.download_eq`). A request says since when if and only if something is published, and
the catalog stays as it is unless it takes what was downloaded (`Intake.Syncs`), whatever has
happened before (`Intake.fetches_and_syncs`).
-/

namespace Rollout

/-- The request, for the changes since what is published. -/
def HttpRequest.sincePublished (r : HttpRequest) (c : Catalog) : HttpRequest :=
  match c.snapshot with
  | none => r
  | some t => { r with url := r.url.withPair "sinceTime" (toString t.lcut) }

theorem Fetcher.request?_lcut (f : Fetcher) (server : Url) (c : Catalog) :
    f.request? server c.info.lcut = (f.request? server none).map (·.sincePublished c) := by
  unfold Catalog.info HttpRequest.sincePublished
  cases c.snapshot with
  | none => exact Option.map_id'.symm
  | some t => exact f.request?_some server t.lcut

namespace Intake

/-- What happens while a feed is at work. -/
inductive Move where
  | start
  | schedule
  | poll
  | shutdown (timeout : Nat)
  /-- Time passes. -/
  | wait (milliseconds : Nat)
  /-- Others change the catalog. -/
  | change (f : Catalog → Catalog)

/-- Let something happen. -/
def perform (i : Intake) : Move → Intake
  | .start => (start i).2
  | .schedule => (schedule i).2
  | .poll => (poll i).2
  | .shutdown timeout => (shutdown timeout i).2
  | .wait milliseconds => { i with now := i.now + milliseconds }
  | .change f => { i with catalog := f i.catalog }

/-- Let several things happen in sequence. -/
abbrev run (i : Intake) (moves : List Move) : Intake := moves.foldl perform i

/-- Whether a payload is downloaded. -/
def downloads (i : Intake) : Move → Bool
  | .start => true
  | .poll => i.feed.poller = .running
  | _ => false

/-- What comes of asking for the changes since what is published. -/
def fetched (i : Intake) (f : Fetcher) : Except Failure String × Fetcher.Session :=
  Fetcher.Session.fetch { fetcher := f, network := i.network } i.catalog.info.lcut

/-- A payload that has just been downloaded. -/
def arrival (i : Intake) (text : String) : Update :=
  { text, source := .network, receivedAt := i.now }

/-- The catalog after a download. -/
def supplied (i : Intake) : Except Failure String → Catalog
  | .ok text => (i.catalog.receive (i.arrival text)).2
  | .error _ => i.catalog

/-- A download hands on what came of the fetch, but not what the catalog made of it. -/
theorem download_eq (f : Fetcher) (i : Intake) : download f i =
    ((i.fetched f).1.map fun _ => (),
      { i with
        feed := { i.feed with source := .remote (i.fetched f).2.fetcher }
        network := (i.fetched f).2.network
        catalog := i.supplied (i.fetched f).1 }) := by
  obtain ⟨⟨⟨result, f'⟩, network⟩, hfetch⟩ : ∃ r, f.fetch i.catalog.info.lcut i.network = r :=
    ⟨_, rfl⟩
  have hfetched : i.fetched f = (result, { fetcher := f', network }) :=
    Fetcher.Session.fetch_eq_of_fetch hfetch
  rw [hfetched]
  unfold download
  rw [get_bind_apply, bind_apply, online_apply, hfetch]
  cases result <;> rfl

variable {i : Intake} {f : Fetcher} {m : Move}

theorem start_snd (hsource : i.feed.source = .remote f) :
    (start i).2 = (download f { i with feed := { i.feed with isListening := true } }).2 := by
  have hlisten : (listen i).2 = { i with feed := { i.feed with isListening := true } } := by
    show { i with feed := _ } = _
    dsimp only
    rw [hsource]
  unfold start
  rw [bind_apply, hlisten]
  unfold supply
  rw [get_bind_apply]
  dsimp only
  rw [hsource]

theorem poll_snd (hsource : i.feed.source = .remote f) : (poll i).2 =
    if i.feed.poller = .running then
      (afterPoll (download f i).1 (download f i).2).2
    else i := by
  unfold poll
  rw [get_bind_apply]
  split
  · rw [hsource]
    rfl
  · rfl

theorem afterPoll_snd (result : Except Failure Unit) (i : Intake) :
    (afterPoll result i).2.feed.source = i.feed.source ∧
      (afterPoll result i).2.network = i.network ∧
      (afterPoll result i).2.catalog = i.catalog := by
  unfold afterPoll
  split <;> exact ⟨rfl, rfl, rfl⟩

/-- A move in which a payload is downloaded. -/
theorem perform_of_downloads (hsource : i.feed.source = .remote f) (h : i.downloads m = true) :
    (i.perform m).feed.source = .remote (i.fetched f).2.fetcher ∧
      (i.perform m).network = (i.fetched f).2.network ∧
      (i.perform m).catalog = i.supplied (i.fetched f).1 := by
  cases m with
  | start =>
    show (start i).2.feed.source = _ ∧ (start i).2.network = _ ∧ (start i).2.catalog = _
    rw [start_snd hsource, download_eq]
    exact ⟨rfl, rfl, rfl⟩
  | poll =>
    have hrunning : i.feed.poller = .running := of_decide_eq_true h
    show (poll i).2.feed.source = _ ∧ (poll i).2.network = _ ∧ (poll i).2.catalog = _
    rw [poll_snd hsource, if_pos hrunning]
    obtain ⟨hsource', hnetwork, hcatalog⟩ := afterPoll_snd (download f i).1 (download f i).2
    rw [hsource', hnetwork, hcatalog, download_eq]
    exact ⟨rfl, rfl, rfl⟩
  | schedule => cases h
  | shutdown => cases h
  | wait => cases h
  | change => cases h

/-- A move in which none is. -/
theorem perform_of_not_downloads (hsource : i.feed.source = .remote f)
    (h : i.downloads m = false) :
    (i.perform m).feed.source = .remote f ∧ (i.perform m).network = i.network := by
  cases m with
  | start => cases h
  | poll =>
    have hnot : ¬ i.feed.poller = .running := of_decide_eq_false h
    show (poll i).2.feed.source = _ ∧ (poll i).2.network = _
    rw [poll_snd hsource, if_neg hnot]
    exact ⟨hsource, rfl⟩
  | schedule =>
    show (schedule i).2.feed.source = _ ∧ (schedule i).2.network = _
    unfold schedule
    rw [get_bind_apply, hsource]
    dsimp only
    unfold appoint
    rw [get_bind_apply]
    split <;> exact ⟨hsource, rfl⟩
  | shutdown timeout =>
    show (shutdown timeout i).2.feed.source = _ ∧ (shutdown timeout i).2.network = _
    unfold shutdown
    rw [get_bind_apply, hsource]
    exact ⟨hsource, rfl⟩
  | wait => exact ⟨hsource, rfl⟩
  | change => exact ⟨hsource, rfl⟩

/-- A move of a feed goes as agreed: it asks only for changes since what is published, and it leaves
the catalog alone unless the catalog takes what was downloaded. -/
structure Syncs (i : Intake) (f : Fetcher) (m : Move) : Prop where
  source : i.feed.source = .remote f
  /-- The payload of a server is asked for, with the time of the published specs if there are
  any. -/
  requests : ∃ asked : List SentRequest,
    (i.perform m).network.asked = i.network.asked ++ asked ∧
      (f.isUnauthorized = true ∨ i.downloads m = false → asked = []) ∧
      ∀ w ∈ asked, ∃ server ∈ f.base :: f.fallback.toList, ∃ r,
        f.request? server none = some r ∧
          w = { client := f.client, request := r.sincePublished i.catalog }
  /-- Nothing else is asked than what a fetch asks. -/
  network : i.downloads m = true → (i.perform m).network = (i.fetched f).2.network
  ofFailure : ∀ failure, i.downloads m = true → (i.fetched f).1 = .error failure →
    (i.perform m).catalog = i.catalog
  ofRejection : ∀ text failure, i.downloads m = true → (i.fetched f).1 = .ok text →
    (i.catalog.receive (i.arrival text)).1 = .error failure → (i.perform m).catalog = i.catalog
  ofAcceptance : ∀ text, i.downloads m = true → (i.fetched f).1 = .ok text →
    (i.perform m).catalog = (i.catalog.receive (i.arrival text)).2

theorem syncs_of_source (hsource : i.feed.source = .remote f) (m : Move) : i.Syncs f m := by
  cases h : i.downloads m with
  | false =>
    have hnot : ¬ i.downloads m = true := by
      rw [h]
      decide
    refine ⟨hsource, ⟨[], ?_, fun _ => rfl, fun _ hw => absurd hw List.not_mem_nil⟩,
      fun h => absurd h hnot, fun _ h => absurd h hnot, fun _ _ h => absurd h hnot,
      fun _ h => absurd h hnot⟩
    rw [(perform_of_not_downloads hsource h).2, List.append_nil]
  | true =>
    obtain ⟨-, hnetwork, hcatalog⟩ := perform_of_downloads hsource h
    obtain ⟨asked, hasked, hnone, hservers⟩ :=
      Fetcher.Session.exists_asked { fetcher := f, network := i.network } i.catalog.info.lcut
    refine ⟨hsource, ⟨asked, ?_, ?_, fun w hw => ?_⟩, fun _ => hnetwork, ?_, ?_, ?_⟩
    · rw [hnetwork]
      exact hasked
    · exact fun hor => hor.elim hnone fun hfalse => absurd (h.symm.trans hfalse) (by decide)
    · obtain ⟨server, hserver, hsent⟩ := hservers w hw
      unfold Fetcher.sent at hsent
      dsimp only at hserver hsent
      rw [Fetcher.request?_lcut] at hsent
      obtain ⟨r', hr', rfl⟩ := List.mem_map.1 hsent
      obtain ⟨r, hr, rfl⟩ := Option.map_eq_some_iff.1 (Option.mem_toList.1 hr')
      exact ⟨server, hserver, r, hr, rfl⟩
    · intro failure _ hfailure
      rw [hcatalog, hfailure]
      rfl
    · intro text failure _ htext hrejected
      rw [hcatalog, htext]
      exact Catalog.receive_of_error hrejected
    · intro text _ htext
      rw [hcatalog, htext]
      rfl

/-- A feed that downloads payloads goes on to do so, with the same settings. -/
theorem exists_source_run (hsource : i.feed.source = .remote f) (moves : List Move) :
    ∃ f', (i.run moves).feed.source = .remote f' ∧
      f' = { f with isUnauthorized := f'.isUnauthorized } ∧
      (f.isUnauthorized = true → f'.isUnauthorized = true) := by
  induction moves using List.reverseRecOn with
  | nil => exact ⟨f, hsource, rfl, id⟩
  | append_singleton moves m ih =>
    obtain ⟨f', hsource', hsettings, hunauthorized⟩ := ih
    rw [run, List.foldl_concat]
    cases h : (i.run moves).downloads m with
    | false =>
      exact ⟨f', (perform_of_not_downloads hsource' h).1, hsettings, hunauthorized⟩
    | true =>
      have hfetches := Fetcher.Session.fetches
        { fetcher := f', network := (i.run moves).network } (i.run moves).catalog.info.lcut
      refine ⟨_, (perform_of_downloads hsource' h).1, ?_, fun hf => ?_⟩
      · exact hfetches.settings.trans (by rw [hsettings]; rfl)
      · exact hfetches.unauthorized.2 (.inl (hunauthorized hf))

/-- One of the servers that are asked in a move refuses the key. -/
def IsRefused (i : Intake) (m : Move) : Prop :=
  i.downloads m = true ∧ ∃ f, i.feed.source = .remote f ∧
    Fetcher.Session.IsRefused { fetcher := f, network := i.network } i.catalog.info.lcut

/-- A refusal is never forgotten. -/
theorem isUnauthorized_of_isRefused {earlier : List Move} {m : Move}
    (h : (i.run earlier).IsRefused m) {later : List Move} {f' : Fetcher}
    (hsource : (i.run (earlier ++ m :: later)).feed.source = .remote f') :
    f'.isUnauthorized = true := by
  obtain ⟨hdownloads, f, hf, hrefused⟩ := h
  have hunauthorized : ((i.run earlier).fetched f).2.fetcher.isUnauthorized = true :=
    (Fetcher.Session.fetches _ _).unauthorized.2 (.inr hrefused)
  have hsource₁ : (i.run (earlier ++ [m])).feed.source =
      .remote ((i.run earlier).fetched f).2.fetcher := by
    rw [run, List.foldl_concat]
    exact (perform_of_downloads hf hdownloads).1
  obtain ⟨f'', hsource', -, hkept⟩ := exists_source_run hsource₁ later
  rw [run, run, ← List.foldl_append, ← List.append_cons] at hsource'
  cases hsource.symm.trans hsource'
  exact hkept hunauthorized

/-- However often a fetcher has been asked, and whatever the servers answered, it asks the base, and
then the fallback exactly if there is one and the base fails without refusing the key, and comes to
the answer of the one asked last. A server is asked once. From a refusal on it comes to that, and
asks no more. Whatever has happened, a feed that downloads payloads asks for the changes since what
is published, not at all after a refusal, and leaves the catalog alone if the download fails or the
catalog does not take what was downloaded. -/
theorem fetches_and_syncs {f : Fetcher} (n : Network) (sinces : List (Option Nat))
    (since : Option Nat) {i : Intake} (hsource : i.feed.source = .remote f) (moves : List Move)
    (m : Move) :
    let s : Fetcher.Session := { fetcher := f, network := n }
    let t := s.after sinces
    (t.fetcher = { f with isUnauthorized := t.fetcher.isUnauthorized } ∧
      t.Fetches since ∧
      (∀ server : Url, server.IsServer → ∃ r, t.fetcher.request? server since = some r ∧
        t.fetcher.sent server since = [{ client := f.client, request := r }]) ∧
      (t.fetcher.isUnauthorized = false → ∀ fallback r, f.fallback = some fallback →
        t.fetcher.request? fallback since = some r →
        ((t.fetch since).2.network.asked = t.network.asked ++ t.fetcher.sent f.base since ++
            [{ client := f.client, request := r }] ↔
          ∃ failure, t.fetcher.answer f.base since t.network = .error failure ∧
            failure ≠ .unauthorized)) ∧
      (t.fetcher.isUnauthorized = true ↔ f.isUnauthorized = true ∨
        ∃ earlier since' later, sinces = earlier ++ since' :: later ∧
          (s.after earlier).IsRefused since') ∧
      ∀ earlier since' later, sinces = earlier ++ since' :: later →
        (s.after earlier).IsRefused since' →
        ((s.after earlier).fetch since').1 = .error .unauthorized ∧
          t = s.after (earlier ++ [since']) ∧ t.fetch since = (.error .unauthorized, t)) ∧
    ∃ f', f' = { f with isUnauthorized := f'.isUnauthorized } ∧ (i.run moves).Syncs f' m ∧
      ∀ earlier m' later, moves = earlier ++ m' :: later → (i.run earlier).IsRefused m' →
        f'.isUnauthorized = true := by
  intro s t
  obtain ⟨hsettings, hunauthorized⟩ := s.after_settings sinces
  obtain ⟨f', hsource', hsettings', -⟩ := exists_source_run hsource moves
  have hclient : t.fetcher.client = f.client := by rw [hsettings]
  have hbase : t.fetcher.base = f.base := by rw [hsettings]
  have hfallback : t.fetcher.fallback = f.fallback := by rw [hsettings]
  refine ⟨⟨hsettings, t.fetches since, fun server hserver => ?_, fun ht fallback r hf hr => ?_,
    hunauthorized, ?_⟩, f', hsettings', syncs_of_source hsource' m, ?_⟩
  · rw [← hclient]
    exact t.fetcher.exists_sent hserver since
  · rw [← hclient, ← hbase]
    exact (t.fetches since).asked_iff ht (hfallback.trans hf) hr
  · rintro earlier since' later rfl hrefused
    obtain ⟨hafter, hlatched⟩ := Fetcher.Session.after_of_isRefused hrefused later
    refine ⟨((s.after earlier).fetches since').ofRefusal hrefused, hafter, ?_⟩
    show (s.after _).fetch since = (_, s.after _)
    rw [hafter]
    exact ((s.after (earlier ++ [since'])).fetches since).ofUnauthorized hlatched
  · rintro earlier m' later rfl hrefused
    exact isUnauthorized_of_isRefused hrefused hsource'

/-- A server on the same machine. -/
def here (path : String) : Url where
  scheme := "http"
  host := some (.ipv6 [0, 0, 0, 0, 0, 0, 0, 1])
  path := .segments [path]

theorem isServer_here : (here "").IsServer ∧ (here "b").IsServer :=
  ⟨⟨.inl rfl, rfl, List.all_iff_forall_prop.1 (by decide +kernel), by decide +kernel,
      ⟨_, _, rfl⟩, by decide +kernel⟩,
    ⟨.inl rfl, rfl, List.all_iff_forall_prop.1 (by decide +kernel), by decide +kernel,
      ⟨_, _, rfl⟩, by decide +kernel⟩⟩

/-- A fetcher with a fallback. -/
def withFallback : Fetcher where
  client := {}
  sdkKey := "secret-key"
  base := here ""
  fallback := some (here "b")
  headers := []

/-- A feed whose base fails first and refuses the key then. -/
def refused : Intake where
  feed := .ofSource (.remote withFallback)
  network :=
    { response? asked := match asked.length with
        | 1 => some ⟨503, ""⟩
        | 2 => some ⟨200, "\x7b\"time\":5\x7d"⟩
        | _ => some ⟨401, ""⟩ }
  now := 1

/-- The fetcher of that feed. -/
def refusedFetcher : Fetcher.Session where
  fetcher := withFallback
  network := refused.network

theorem fetches_and_syncs_refused :
    refused.feed.source = .remote withFallback ∧
    (∃ r, (refusedFetcher.fetch none).2.network.asked =
      refusedFetcher.network.asked ++ withFallback.sent (here "") none ++
        [{ client := {}, request := r }]) ∧
    (refusedFetcher.after [none, some 5]).fetch none =
      (.error .unauthorized, refusedFetcher.after [none, some 5]) ∧
    ((refused.run [.start, .schedule, .poll]).perform .poll).network.asked.map
        (·.request.url.toText) =
      ["http://[::1]/secret-key.json", "http://[::1]/b/secret-key.json",
        "http://[::1]/secret-key.json?sinceTime=5"] := by
  have hsource : refused.feed.source = .remote withFallback := rfl
  have hrefused : (refusedFetcher.after [none]).IsRefused (some 5) :=
    ⟨by decide +kernel, .inl ⟨{ status := 401, body := "" }, by decide +kernel, rfl⟩⟩
  have hfirst := (fetches_and_syncs refused.network [] none hsource [] .start).1.2.2
  obtain ⟨r, hr, -⟩ := hfirst.1 _ isServer_here.2
  have hfails : refusedFetcher.fetcher.answer (here "") none refusedFetcher.network =
      .error (.unexpectedStatus 503) := by
    decide +kernel
  refine ⟨hsource, ⟨r, ?_⟩, ?_, by decide +kernel⟩
  · exact (hfirst.2.1 rfl (here "b") r rfl hr).2 ⟨_, hfails, nofun⟩
  · exact ((fetches_and_syncs refused.network [none, some 5] none hsource [] .start).1.2.2.2.2.2
      [none] (some 5) [] rfl hrefused).2.2

end Intake

end Rollout
