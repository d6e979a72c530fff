import Rollout.Proofs.IdListReplay
import Rollout.Proofs.IdListTurns
import Rollout.Proofs.Runs

/-!
# Id lists in sync replay files that grow

A server keeps files to whose ends lines are added (`FileServer`), and a file that is written anew
is another one. If it answers a request for the rest of a file with just that or not at all
(`IdListSync.Turn.IsHonest`), every list in sync is what its file said from its start on, as far as
it has been read (`IdListSync.mirrors_run`), although no sync reads more than what has been added
and any download or manifest may fail (`IdListSync.synced_replays`).
-/

namespace Rollout

/-! ### Files -/

/-- The file that metadata are of. One that is written anew is another one. -/
def IdListMetadata.file (m : IdListMetadata) : Option String × Int := (m.fileId, m.creationTime)

/-- The files of id lists as a server keeps them: lines of ASCII characters are added at their
ends. -/
structure FileServer where
  /-- What a file of a list holds when the server has been asked so many times. -/
  content : String → Option String × Int → Nat → List Char
  isAscii : ∀ name file now, ∀ c ∈ content name file now, c.toNat < 128
  isWhole : ∀ name file now, Text.IsWhole (content name file now)
  grows : ∀ name file {now later : Nat}, now ≤ later →
    content name file now <+: content name file later

namespace IdListSync

/-- What the file of a turn holds then. -/
def Turn.content (f : FileServer) (t : Turn) : List Char :=
  f.content t.name t.metadata.file t.network.asked.length

/-- What is downloaded is what the file holds from the byte on that was asked for. -/
def Turn.IsHonest (s : IdListSync) (f : FileServer) (t : Turn) : Prop :=
  ∀ start changes, t.download? s = some (start, .ok changes) →
    changes.toList = (t.content f).drop start

/-- Of a list, a file is never replaced by an older one with the same id. -/
def Turn.Precedes (t t' : Turn) : Prop :=
  t.name = t'.name → t.metadata.fileId = t'.metadata.fileId →
    t.metadata.creationTime ≤ t'.metadata.creationTime

end IdListSync

namespace FileServer

/-- A list is what its file said from its start on, when the server had been asked no more than so
many times. -/
def Replays (f : FileServer) (name : String) (now : Nat) (list : IdList) : Prop :=
  ∃ t ≤ now, list.readBytes = (f.content name list.metadata.file t).length ∧
    list.ids = IdList.play ∅ (f.content name list.metadata.file t)

variable {f : FileServer} {name : String} {now later : Nat} {list : IdList}

theorem Replays.mono (h : f.Replays name now list) (hle : now ≤ later) :
    f.Replays name later list := by
  obtain ⟨t, ht, h⟩ := h
  exact ⟨t, Nat.le_trans ht hle, h⟩

/-- What was read of a file stands at its start for ever. -/
theorem Replays.adds (h : f.Replays name now list) :
    list.readBytes ≤ (f.content name list.metadata.file now).length ∧
      ∀ id, list.containsHash id = true ↔
        IdList.Adds ((f.content name list.metadata.file now).take list.readBytes) id := by
  obtain ⟨t, ht, hread, hids⟩ := h
  have hpre := f.grows name list.metadata.file ht
  refine ⟨hread ▸ hpre.length_le, fun id => ?_⟩
  rw [hread, ← List.prefix_iff_eq_take.1 hpre]
  unfold IdList.containsHash
  rw [hids]
  exact IdList.contains_play _ id

end FileServer

namespace IdListSync

section Files

variable {s : IdListSync} {f : FileServer} {t : Turn}

theorem file_eq_of_isSameFile {list : IdList} {m : IdListMetadata}
    (hsame : isSameFile list m = true)
    (hle : list.metadata.fileId = m.fileId → list.metadata.creationTime ≤ m.creationTime) :
    list.metadata.file = m.file := by
  obtain ⟨hid, htime⟩ := Bool.and_eq_true_iff.1 hsame
  have hid' : list.metadata.fileId = m.fileId := eq_of_beq hid
  exact Prod.ext hid' (Int.le_antisymm (hle hid') (of_decide_eq_true htime))

/-- A list that is what the start of a file says becomes, extended by the rest, what all of it
says. -/
theorem applyChanges_replay {list : IdList} {read content : List Char} {changes : String}
    (hpre : read <+: content) (hwhole : Text.IsWhole read)
    (hascii : ∀ c ∈ content, c.toNat < 128) (hread : list.readBytes = read.length)
    (hids : list.ids = IdList.play ∅ read)
    (hchanges : changes.toList = content.drop list.readBytes) :
    (list.applyChanges changes).readBytes = content.length ∧
      (list.applyChanges changes).ids = IdList.play ∅ content := by
  obtain ⟨rest, rfl⟩ := hpre
  rw [hread, List.drop_left] at hchanges
  have htext : changes = String.ofList rest := by rw [← hchanges, String.ofList_toList]
  constructor
  · show list.readBytes + changes.utf8ByteSize = _
    rw [htext, Text.utf8ByteSize_of_ascii fun c hc => hascii c (List.mem_append_right _ hc), hread,
      List.length_append]
  · show (Text.lines changes).foldl IdList.applyLine list.ids = _
    rw [IdList.play_append _ hwhole, ← hids, htext]
    rfl

/-- What a turn leaves: after a failed download the list as it was, otherwise one that replays the
file that the manifest tells of, and all of it if the manifest tells how large it is. -/
theorem Turn.result_replays (hhonest : t.IsHonest s f)
    (hexisting : ∀ list, t.existing = some list →
      f.Replays t.name t.network.asked.length list ∧
      (list.metadata.fileId = t.metadata.fileId →
        list.metadata.creationTime ≤ t.metadata.creationTime)) :
    (t.hasFailed s = true ∧ t.result s = t.existing) ∨
    (t.hasFailed s = false ∧ ∃ list, t.result s = some list ∧
      (list.metadata = t.metadata ∨ t.existing = some list) ∧
      list.metadata.file = t.metadata.file ∧ f.Replays t.name t.network.asked.length list ∧
      (t.metadata.size = (t.content f).length → list.readBytes = (t.content f).length)) := by
  obtain ⟨list, hlist, hsame, hsize, hdone, hresult⟩ | hfailed |
    ⟨list, changes, hlist, hdownload, hdone, hresult⟩ := t.result_cases s
  · obtain ⟨hreplays, hle⟩ := hexisting list hlist
    have hfile := file_eq_of_isSameFile hsame hle
    refine .inr ⟨hdone, list, hresult, .inr hlist, hfile, hreplays, fun hlength => ?_⟩
    have hread := hreplays.adds.1
    rw [hfile] at hread
    change list.readBytes ≤ (t.content f).length at hread
    omega
  · exact .inl hfailed
  · -- What was read of the list so far is the start of the file, or nothing if it is a new one.
    have hread : ∃ read, read <+: t.content f ∧ Text.IsWhole read ∧
        list.readBytes = read.length ∧ list.ids = IdList.play ∅ read := by
      rcases hlist with rfl | ⟨hlist, hsame⟩
      · exact ⟨[], List.nil_prefix, .inl rfl, rfl, (IdList.play_nil ∅).symm⟩
      · obtain ⟨⟨now, hnow, hread, hids⟩, hle⟩ := hexisting list hlist
        have hfile := file_eq_of_isSameFile hsame hle
        rw [hfile] at hread hids
        exact ⟨_, f.grows _ _ hnow, f.isWhole .., hread, hids⟩
    obtain ⟨read, hpre, hwhole, hread, hids⟩ := hread
    obtain ⟨hread', hids'⟩ := applyChanges_replay hpre hwhole (f.isAscii _ _ _) hread hids
      (hhonest _ _ hdownload)
    exact .inr ⟨hdone, _, hresult, .inl rfl, rfl, ⟨_, Nat.le_refl _, hread', hids'⟩,
      fun _ => hread'⟩

end Files

/-! ### Runs -/

/-- What can happen at one time where id lists are kept in sync. -/
inductive Move where
  /-- All lists are brought up to date. -/
  | sync
  /-- Somebody else uses the network. -/
  | send (client : HttpClient) (r : HttpRequest)
  /-- A payload arrives. -/
  | receive (u : Update)

/-- The intake after a move. -/
def perform (s : IdListSync) (i : Intake) : Move → Intake
  | .sync => (s.syncOnce i).2
  | .send client r => { i with network := (client.exchange r i.network).2 }
  | .receive u => (Intake.receive u i).2

/-- The intake after a run. -/
abbrev run (s : IdListSync) (i : Intake) (moves : List Move) : Intake := moves.foldl s.perform i

/-- The turns of a move. -/
def turnsIn (s : IdListSync) (i : Intake) : Move → List Turn
  | .sync => s.turns i
  | .send .. | .receive _ => []

/-- The turns of a run. -/
abbrev record (s : IdListSync) (i : Intake) (moves : List Move) : List Turn :=
  recordFrom s.perform s.turnsIn i moves

/-- An update does not change the id lists in sync. -/
theorem synced_receive (u : Update) (i : Intake) :
    (Intake.receive u i).2.catalog.synced = i.catalog.synced := by
  show (i.catalog.apply u.text u.source u.receivedAt).2.synced = _
  obtain ⟨-, hc⟩ | ⟨d, -, ⟨t, -, -, hc⟩ | ⟨-, hc⟩⟩ := i.catalog.apply_cases u
  · rw [hc]
  · rw [hc]
  · rw [hc]
    exact Catalog.writeThrough_synced ..

/-- Every list replays its file, of which the manifest has told in a turn. -/
def Mirrors (f : FileServer) (i : Intake) (past : List Turn) : Prop :=
  ∀ name list, i.catalog.synced.get? name = some list →
    f.Replays name i.network.asked.length list ∧
    ∃ t ∈ past, t.name = name ∧ t.metadata = list.metadata

namespace Mirrors

variable {s : IdListSync} {f : FileServer} {i : Intake} {past : List Turn}

theorem existing (h : Mirrors f i past)
    (hordered : ∀ t ∈ past, ∀ t' ∈ s.turns i, t.Precedes t') {t : Turn} (ht : t ∈ s.turns i) :
    ∀ list, t.existing = some list →
      f.Replays t.name t.network.asked.length list ∧
      (list.metadata.fileId = t.metadata.fileId →
        list.metadata.creationTime ≤ t.metadata.creationTime) := by
  intro list hlist
  rw [existing_of_mem_turns ht] at hlist
  obtain ⟨hreplays, t', ht', hname, hmetadata⟩ := h _ _ hlist
  refine ⟨hreplays.mono (asked_of_mem_turns ht).1, ?_⟩
  rw [← hmetadata]
  exact hordered t' ht' t ht hname

theorem sync (h : Mirrors f i past) (hhonest : ∀ t ∈ s.turns i, t.IsHonest s f)
    (hordered : ∀ t ∈ past, ∀ t' ∈ s.turns i, t.Precedes t') :
    Mirrors f (s.syncOnce i).2 (past ++ s.turns i) := by
  have hasked : i.network.asked.length ≤ (s.syncOnce i).2.network.asked.length := by
    rw [network_syncOnce]
    exact s.onlyAsks_sync _ _
  have hold : ∀ name list, i.catalog.synced.get? name = some list →
      f.Replays name (s.syncOnce i).2.network.asked.length list ∧
      ∃ t ∈ past ++ s.turns i, t.name = name ∧ t.metadata = list.metadata := by
    intro name list hlist
    obtain ⟨hreplays, t, ht, hmetadata⟩ := h name list hlist
    exact ⟨hreplays.mono hasked, t, List.mem_append_left _ ht, hmetadata⟩
  -- After the sync a list is one that was there before, or one that its turn has extended.
  intro name list hlist
  obtain ⟨failure, -, -, hcatalog⟩ | ⟨hok, -⟩ := s.syncOnce_cases i
  · rw [hcatalog] at hlist
    exact hold name list hlist
  · rw [get?_syncOnce hok] at hlist
    obtain ⟨t, hfind, hresult⟩ := Option.bind_eq_some_iff.1 hlist
    have ht := List.mem_of_find?_eq_some hfind
    have hfound := List.find?_some hfind
    have hname : t.name = name := eq_of_beq hfound
    obtain ⟨-, hkept⟩ | ⟨-, list', hresult', hmetadata, -, hreplays, -⟩ :=
      Turn.result_replays (hhonest t ht) (h.existing hordered ht)
    · rw [hkept, existing_of_mem_turns ht, hname] at hresult
      exact hold name list hresult
    · obtain rfl := Option.some.inj (hresult'.symm.trans hresult)
      subst hname
      rcases hmetadata with hmetadata | hlist'
      · exact ⟨hreplays.mono (asked_of_mem_turns ht).2, t, List.mem_append_right _ ht, rfl,
          hmetadata.symm⟩
      · rw [existing_of_mem_turns ht] at hlist'
        exact hold _ _ hlist'

theorem perform (h : Mirrors f i past) {m : Move} (hhonest : ∀ t ∈ s.turnsIn i m, t.IsHonest s f)
    (hordered : ∀ t ∈ past, ∀ t' ∈ s.turnsIn i m, t.Precedes t') :
    Mirrors f (s.perform i m) (past ++ s.turnsIn i m) := by
  cases m with
  | sync => exact h.sync hhonest hordered
  | send client r =>
    intro name list hlist
    obtain ⟨hreplays, hpast⟩ := h name list hlist
    exact ⟨hreplays.mono (onlyAsks_exchange client r i.network), by simpa [turnsIn] using hpast⟩
  | receive u =>
    intro name list hlist
    have hlist' : i.catalog.synced.get? name = some list := by
      rw [← synced_receive u i]
      exact hlist
    obtain ⟨hreplays, hpast⟩ := h name list hlist'
    exact ⟨hreplays, by simpa [turnsIn] using hpast⟩

/-- What a turn leaves in a sync. -/
theorem turn (h : Mirrors f i past) (hhonest : ∀ t ∈ s.turns i, t.IsHonest s f)
    (hordered : ∀ t ∈ past, ∀ t' ∈ s.turns i, t.Precedes t') (hok : (s.syncOnce i).1 = .ok ())
    {t : Turn} (ht : t ∈ s.turns i) :
    (t.hasFailed s = true → (s.syncOnce i).2.catalog.synced.get? t.name = t.existing) ∧
    (t.hasFailed s = false → ∃ list,
      (s.syncOnce i).2.catalog.synced.get? t.name = some list ∧
      list.metadata.file = t.metadata.file ∧
      (∀ id, list.containsHash id = true ↔
        IdList.Adds ((t.content f).take list.readBytes) id) ∧
      (t.metadata.size = (t.content f).length →
        list.readBytes = (t.content f).length ∧
          ∀ id, list.containsHash id = true ↔ IdList.Adds (t.content f) id)) := by
  rw [get?_of_mem_turns hok ht]
  obtain ⟨hfailed, hkept⟩ | ⟨hdone, list, hresult, -, hfile, hreplays, hsize⟩ :=
    Turn.result_replays (hhonest t ht) (h.existing hordered ht)
  · exact ⟨fun _ => hkept, fun hdone => (nomatch hfailed.symm.trans hdone)⟩
  · refine ⟨fun hfailed => (nomatch hdone.symm.trans hfailed),
      fun _ => ⟨list, hresult, hfile, ?_⟩⟩
    obtain ⟨-, hadds⟩ := hreplays.adds
    rw [hfile] at hadds
    change ∀ id, _ ↔ IdList.Adds ((t.content f).take list.readBytes) id at hadds
    refine ⟨hadds, fun hlength => ⟨hsize hlength, ?_⟩⟩
    rw [hsize hlength, List.take_length] at hadds
    exact hadds

/-- After a sync there is no list of a name if the manifest has none, or has a new one whose
download has failed. -/
theorem get?_syncOnce_eq_none_iff (h : Mirrors f i past)
    (hhonest : ∀ t ∈ s.turns i, t.IsHonest s f)
    (hordered : ∀ t ∈ past, ∀ t' ∈ s.turns i, t.Precedes t') (hok : (s.syncOnce i).1 = .ok ())
    (name : String) :
    (s.syncOnce i).2.catalog.synced.get? name = none ↔
      (∀ t ∈ s.turns i, t.name ≠ name) ∨
        ∃ t ∈ s.turns i, t.name = name ∧ t.existing = none ∧ t.hasFailed s = true := by
  constructor
  · intro hnone
    by_cases hmem : ∃ t ∈ s.turns i, t.name = name
    · obtain ⟨t, ht, rfl⟩ := hmem
      obtain ⟨hkept, hleft⟩ := h.turn hhonest hordered hok ht
      cases hfailed : t.hasFailed s with
      | true => exact .inr ⟨t, ht, rfl, (hkept hfailed).symm.trans hnone, hfailed⟩
      | false =>
        obtain ⟨list, hlist, -⟩ := hleft hfailed
        cases hnone.symm.trans hlist
    · exact .inl fun t ht hname => hmem ⟨t, ht, hname⟩
  · rintro (hne | ⟨t, ht, rfl, hexisting, hfailed⟩)
    · exact get?_of_forall_ne hok hne
    · rw [(h.turn hhonest hordered hok ht).1 hfailed, hexisting]

end Mirrors

theorem mirrors_run {s : IdListSync} {f : FileServer} {i : Intake} (hempty : i.catalog.synced = ∅)
    {moves : List Move} (hhonest : ∀ t ∈ s.record i moves, t.IsHonest s f)
    (hordered : (s.record i moves).Pairwise Turn.Precedes) :
    Mirrors f (s.run i moves) (s.record i moves) := by
  induction moves using List.reverseRecOn with
  | nil =>
    intro name list hlist
    change i.catalog.synced.get? name = some list at hlist
    rw [hempty] at hlist
    cases hlist
  | append_singleton moves m ih =>
    rw [record, recordFrom_concat] at hhonest hordered ⊢
    rw [run, List.foldl_concat]
    obtain ⟨hpast, -, hnow⟩ := List.pairwise_append.1 hordered
    exact (ih (fun t ht => hhonest t (List.mem_append_left _ ht)) hpast).perform
      (fun t ht => hhonest t (List.mem_append_right _ ht)) hnow

/-- In every run from an empty catalog, with downloads that are what the files hold and manifests
that never go back to an older file, each list is what the last lines about its ids say in the part
of its file that has been read. A sync without a manifest changes nothing. After any other one a
list is missing if the manifest has none, or has a new one whose download has failed; a list whose
download has failed is as it was; and any other one is of the file in the manifest, and says all
that the file says if the manifest tells how large it is. -/
theorem synced_replays {s : IdListSync} {f : FileServer} {i : Intake}
    (hempty : i.catalog.synced = ∅) {moves : List Move}
    (hhonest : ∀ t ∈ s.record i moves, t.IsHonest s f)
    (hordered : (s.record i moves).Pairwise Turn.Precedes) :
    (∀ before, before <+: moves → ∀ name list,
      (s.run i before).catalog.synced.get? name = some list →
      let content := f.content name list.metadata.file (s.run i before).network.asked.length
      list.readBytes ≤ content.length ∧
        ∀ id, list.containsHash id = true ↔ IdList.Adds (content.take list.readBytes) id) ∧
    ∀ before, before ++ [.sync] <+: moves →
      let old := s.run i before
      let new := s.run i (before ++ [.sync])
      (∀ failure, (s.syncOnce old).1 = .error failure → new.catalog = old.catalog) ∧
      ((s.syncOnce old).1 = .ok () →
        (∀ name, new.catalog.synced.get? name = none ↔
          (∀ t ∈ s.turns old, t.name ≠ name) ∨
            ∃ t ∈ s.turns old, t.name = name ∧ t.existing = none ∧ t.hasFailed s = true) ∧
        ∀ t ∈ s.turns old, t.existing = old.catalog.synced.get? t.name ∧
          (t.hasFailed s = true → new.catalog.synced.get? t.name = t.existing) ∧
          (t.hasFailed s = false → ∃ list, new.catalog.synced.get? t.name = some list ∧
            list.metadata.file = t.metadata.file ∧
            (∀ id, list.containsHash id = true ↔
              IdList.Adds ((t.content f).take list.readBytes) id) ∧
            (t.metadata.size = (t.content f).length →
              list.readBytes = (t.content f).length ∧
                ∀ id, list.containsHash id = true ↔ IdList.Adds (t.content f) id))) := by
  have hmirrors : ∀ before, before <+: moves → Mirrors f (s.run i before) (s.record i before) := by
    rintro before ⟨after, rfl⟩
    rw [record, recordFrom_append] at hhonest hordered
    exact mirrors_run hempty (fun t ht => hhonest t (List.mem_append_left _ ht))
      (List.pairwise_append.1 hordered).1
  refine ⟨fun before hbefore name list hlist => (hmirrors before hbefore name list hlist).1.adds,
    fun before hbefore => ?_⟩
  have hold := hmirrors before ((List.prefix_append _ _).trans hbefore)
  obtain ⟨after, rfl⟩ := hbefore
  rw [record, recordFrom_append, recordFrom_concat] at hhonest hordered
  obtain ⟨-, -, hnow⟩ := List.pairwise_append.1 (List.pairwise_append.1 hordered).1
  have hhonest' : ∀ t ∈ s.turns (s.run i before), t.IsHonest s f := fun t ht =>
    hhonest t (List.mem_append_left _ (List.mem_append_right _ ht))
  have hnew : s.run i (before ++ [.sync]) = (s.syncOnce (s.run i before)).2 :=
    List.foldl_concat ..
  dsimp only
  rw [hnew]
  refine ⟨fun failure hfailure => ?_,
    fun hok => ⟨hold.get?_syncOnce_eq_none_iff hhonest' hnow hok,
      fun t ht => ⟨existing_of_mem_turns ht, hold.turn hhonest' hnow hok ht⟩⟩⟩
  obtain ⟨-, -, -, hcatalog⟩ | ⟨hok, -⟩ := s.syncOnce_cases (s.run i before)
  · exact hcatalog
  · cases hok.symm.trans hfailure

/-- A client that asks its own machine. -/
def localSync : IdListSync where
  client := {}
  manifestUrl :=
    { scheme := "http", host := some (.ipv6 [0, 0, 0, 0, 0, 0, 0, 1]), path := .segments ["m"] }
  headers := []

/-- A manifest of one list. -/
def manifestText (size : String) : String :=
  "\x7b\"a\":\x7b\"size\":" ++ size ++
    ",\"url\":\"http://[::1]/a\",\"fileID\":\"f\",\"creationTime\":1\x7d\x7d"

/-- The responses to two syncs, between which the file of the list grows. -/
def growing : Network where
  response? asked := match asked.length with
    | 1 => some ⟨200, manifestText "3"⟩
    | 2 => some ⟨206, "+a\n"⟩
    | 3 => some ⟨200, manifestText "9"⟩
    | 4 => some ⟨206, "-a\n+b\n"⟩
    | _ => none

/-- The file. -/
def growingFile : FileServer where
  content _ _ now := if now < 3 then "+a\n".toList else "+a\n-a\n+b\n".toList
  isAscii _ _ now c hc := by
    have hall : ("+a\n-a\n+b\n".toList.all fun c => c.toNat < 128) = true := by decide
    have hsub : "+a\n".toList ⊆ "+a\n-a\n+b\n".toList := by decide
    split at hc
    · exact of_decide_eq_true (List.all_eq_true.1 hall c (hsub hc))
    · exact of_decide_eq_true (List.all_eq_true.1 hall c hc)
  isWhole _ _ now := by
    split
    · exact .inr ⟨"+a".toList, by decide⟩
    · exact .inr ⟨"+a\n-a\n+b".toList, by decide⟩
  grows _ _ now later hle := by
    split
    · split
      · exact List.prefix_refl _
      · exact ⟨"-a\n+b\n".toList, by decide⟩
    · split
      · omega
      · exact List.prefix_refl _

/-- Nothing has been downloaded yet. -/
def growingIntake : Intake := { network := growing, now := 0 }

theorem synced_replays_growing :
    (growingIntake.catalog.synced = ∅ ∧
      (∀ t ∈ localSync.record growingIntake [.sync, .sync], t.IsHonest localSync growingFile) ∧
      (localSync.record growingIntake [.sync, .sync]).Pairwise Turn.Precedes) ∧
    ∃ list, (localSync.run growingIntake [.sync, .sync]).catalog.synced.get? "a" = some list ∧
      list.readBytes = 9 ∧
      ∀ id, list.containsHash id = true ↔ IdList.Adds "+a\n-a\n+b\n".toList id := by
  have hhonest : ∀ t ∈ localSync.record growingIntake [.sync, .sync],
      t.IsHonest localSync growingFile := by
    have hall : ((localSync.record growingIntake [.sync, .sync]).all fun t =>
        (t.download? localSync).all fun d => d.2.toOption.all fun changes =>
          changes.toList == (t.content growingFile).drop d.1) = true := by decide +kernel
    intro t ht start changes hdownload
    have hanswer := List.all_eq_true.1 hall t ht
    rw [hdownload] at hanswer
    exact eq_of_beq hanswer
  have hordered : (localSync.record growingIntake [.sync, .sync]).Pairwise Turn.Precedes := by
    have hall : ((localSync.record growingIntake [.sync, .sync]).all fun t =>
        t.metadata.creationTime == 1) = true := by decide +kernel
    refine List.pairwise_of_forall_mem_list fun t ht t' ht' _ _ => ?_
    have htime := eq_of_beq (List.all_eq_true.1 hall t ht)
    have htime' := eq_of_beq (List.all_eq_true.1 hall t' ht')
    omega
  have hasked : (localSync.run growingIntake [.sync, .sync]).network.asked.length = 4 := by
    decide +kernel
  have hbytes : ((localSync.run growingIntake [.sync, .sync]).catalog.synced.get? "a").map
      (·.readBytes) = some 9 := by decide +kernel
  obtain ⟨list, hlist, hread⟩ := Option.map_eq_some_iff.1 hbytes
  obtain ⟨-, hadds⟩ :=
    (synced_replays rfl hhonest hordered).1 _ (List.prefix_refl _) "a" list hlist
  rw [hasked, hread] at hadds
  exact ⟨⟨rfl, hhonest, hordered⟩, list, hlist, hread, hadds⟩

end IdListSync

end Rollout
