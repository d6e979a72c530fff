import Rollout.Proofs.StaleStart

/-!
# A file over many starts

What one start of a feed of files leaves to the next one is the file. A start that refreshes the
file writes what it has downloaded before the catalog has seen it (`FileStart.outcome_eq`). So a
refresh that fails for want of an answer leaves the file as it is, while one whose payload is
malformed destroys it. A file that is not malformed to begin with survives a run of starts if and
only if none of them downloads a payload that is rejected as malformed
(`FileStart.fileSurvives_iff`).
-/

namespace Rollout

/-! ### Malformed payloads -/

/-- The text is no payload, or one that has updates but no time. -/
def Payload.isMalformed (text : String) : Bool :=
  match Payload.ofText? text with
  | none => true
  | some p => p.hasUpdates && p.time.isNone

theorem Update.delivery?_of_isMalformed (u : Update) (h : Payload.isMalformed u.text = true) :
    u.delivery? = none := by
  unfold Payload.isMalformed at h
  unfold Update.delivery?
  cases hp : Payload.ofText? u.text with
  | none => rfl
  | some p =>
    rw [hp] at h
    simp only [Bool.and_eq_true, Option.isNone_iff_eq_none] at h
    simp [h.2]

namespace Catalog

variable {c : Catalog} {u : Update}

variable (c u) in
/-- The catalog rejects the update as malformed. -/
def Rejects : Prop := ∃ fault, (c.receive u).1 = .error (.malformedPayload fault)

/-- What is rejected as malformed does not hang on the catalog. -/
theorem rejects_iff : c.Rejects u ↔ Payload.isMalformed u.text = true := by
  unfold Rejects receive Payload.isMalformed
  cases hp : Payload.ofText? u.text with
  | none => simp [apply, hp, Except.map]
  | some p =>
    cases hupdates : p.hasUpdates with
    | false => simp [apply, hp, hupdates, Except.map]
    | true =>
      cases htime : p.time with
      | none => simp [apply, hp, hupdates, htime, Except.map]
      | some lcut =>
        cases hs : c.snapshot with
        | none => simp [apply, hp, hupdates, htime, publish, hs, Except.map]
        | some s =>
          by_cases hstale : lcut ≤ s.lcut <;>
            simp [apply, hp, hupdates, htime, publish, hs, hstale, Except.map]

theorem receive_of_rejects (h : c.Rejects u) : (c.receive u).2 = c := by
  obtain ⟨fault, h⟩ := h
  exact receive_of_error h

end Catalog

/-! ### One start -/

/-- A start of a feed that reads a file and can download a new one, in a process of its own. -/
structure FileStart where
  fetcher : Fetcher
  maxAgeMs : Option Nat := none
  isReread : Bool := false
  /-- How long ago the file was written by then, in milliseconds. -/
  ageMs : Nat := 0
  network : Network := {}
  catalog : Catalog := {}
  now : Nat
  isFresh : catalog.snapshot = none

namespace FileStart

section Start

variable (t : FileStart) (file : Option String)

/-- The feed that finds the file with a text, if there is one. -/
def feed : FileFeed :=
  { text := file, ageMs := t.ageMs, isReread := t.isReread, fetcher := some t.fetcher,
    maxAgeMs := t.maxAgeMs }

/-- Starting the feed, and what is there afterwards. -/
def outcome : Except Failure Unit × Intake :=
  Intake.start { feed := .ofSource (.file (t.feed file)), catalog := t.catalog,
                 network := t.network, now := t.now }

/-- The text of the file after the start. -/
def fileAfter : Option String :=
  match (t.outcome file).2.feed.source with
  | .file f => f.text
  | _ => none

/-- The specs that are published after the start. -/
def published : Option Snapshot := (t.outcome file).2.catalog.snapshot

/-- The payload that the start downloads. -/
def download? : Option String := (t.feed file).fetched? t.network

/-- What the start brings to its catalog, and where that comes from. -/
def incoming? : Option (String × Source) :=
  ((t.download? file).map (·, .network)).or (file.map (·, .cache))

/-- The text that the start reads from the file. -/
def reads? : Option String := if (t.download? file).isSome then none else file

/-- The catalog of the start rejects a payload from the network as malformed. -/
def Rejects (text : String) : Prop :=
  t.catalog.Rejects { text, source := .network, receivedAt := t.now }

/-- The start tries to refresh the file, and either nothing is downloaded or the payload is
rejected. -/
def RefreshFails : Prop :=
  (t.feed file).needsRefresh = true ∧ ∀ text, t.download? file = some text → t.Rejects text

/-- The start leaves the file as it is, and publishes the specs in it. -/
structure Keeps : Prop where
  fileAfter : t.fileAfter file = file
  publishes : ∀ text d, file = some text →
    Update.delivery? { text, source := .cache, receivedAt := t.now } = some d →
      (t.outcome file).1 = .ok () ∧ t.published file = some (d.snapshot t.catalog.synced)

end Start

variable {t : FileStart} {file : Option String} {text : String}

theorem rejects_iff : t.Rejects text ↔ Payload.isMalformed text = true := Catalog.rejects_iff

/-- After a start there is in the file what has been downloaded, else what was there before. It is
brought to the catalog, whatever that says of it. -/
theorem outcome_eq (t : FileStart) (file : Option String) :
    t.fileAfter file = (t.download? file).or file ∧
      ((t.outcome file).1, (t.outcome file).2.catalog) = match t.incoming? file with
        | some (text, source) => t.catalog.receive { text, source, receivedAt := t.now }
        | none => (.error .io, t.catalog) := by
  let i : Intake :=
    { feed := { Feed.ofSource (.file (t.feed file)) with isListening := true }
      catalog := t.catalog, network := t.network, now := t.now }
  obtain ⟨i', f', hi', hcatalog, hsource, htext, hsupply⟩ :=
    Intake.supplyFile_eq (i := i) (f := t.feed file) rfl
  have houtcome : t.outcome file = match t.incoming? file with
      | some (text, source) => Intake.push text source i'
      | none => (.error .io, i') := hsupply
  have hpush (text : String) (source : Source) : Intake.push text source i' =
      ((t.catalog.receive { text, source, receivedAt := t.now }).1,
        { i' with
          catalog := (t.catalog.receive { text, source, receivedAt := t.now }).2 }) := by
    have hnow : t.now = i'.now := hi'.now.symm
    have hcatalog : t.catalog = i'.catalog := hcatalog.symm
    rw [hnow, hcatalog]
    rfl
  unfold fileAfter
  rw [houtcome]
  rcases t.incoming? file with _ | ⟨text, source⟩
  · dsimp only
    rw [hsource, hcatalog]
    exact ⟨htext, rfl⟩
  · dsimp only
    rw [hpush]
    dsimp only
    rw [hsource]
    exact ⟨htext, rfl⟩

theorem fileAfter_eq (t : FileStart) (file : Option String) :
    t.fileAfter file = (t.download? file).or file := (outcome_eq t file).1

theorem fileAfter_of_download (h : t.download? file = some text) :
    t.fileAfter file = some text := by
  rw [fileAfter_eq, h, Option.some_or]

theorem outcome_of_incoming {source : Source} (h : t.incoming? file = some (text, source)) :
    let r := t.catalog.receive { text, source, receivedAt := t.now }
    (t.outcome file).1 = r.1 ∧ t.published file = r.2.snapshot := by
  intro r
  have hparts := (outcome_eq t file).2
  rw [h] at hparts
  obtain ⟨hresult, hcatalog⟩ := Prod.mk.inj hparts
  exact ⟨hresult, congrArg Catalog.snapshot hcatalog⟩

/-- A start that downloads nothing leaves the file as it is and publishes the specs in it. -/
theorem keeps_of_download?_eq_none (h : t.download? file = none) : t.Keeps file where
  fileAfter := by
    rw [fileAfter_eq, h]
    rfl
  publishes := by
    rintro text d rfl hd
    have hincoming : t.incoming? (some text) = some (text, .cache) := by
      unfold incoming?
      rw [h]
      rfl
    obtain ⟨hresult, hpublished⟩ := outcome_of_incoming hincoming
    obtain ⟨hok, hsnapshot⟩ := Catalog.receive_of_new t.isFresh hd
    exact ⟨hresult.trans hok, hpublished.trans hsnapshot⟩

/-- A start that brings a malformed payload to its catalog fails and publishes nothing. -/
theorem outcome_of_isMalformed {source : Source} (h : t.incoming? file = some (text, source))
    (hmalformed : Payload.isMalformed text = true) :
    (∃ fault, (t.outcome file).1 = .error (.malformedPayload fault)) ∧ t.published file = none := by
  have hrejects : t.catalog.Rejects { text, source, receivedAt := t.now } :=
    Catalog.rejects_iff.2 hmalformed
  obtain ⟨hresult, hpublished⟩ := outcome_of_incoming h
  rw [Catalog.receive_of_rejects hrejects, t.isFresh] at hpublished
  obtain ⟨fault, hfault⟩ := hrejects
  exact ⟨⟨fault, hresult.trans hfault⟩, hpublished⟩

theorem incoming?_of_download (h : t.download? file = some text) :
    t.incoming? file = some (text, .network) := by
  unfold incoming?
  rw [h]
  rfl

theorem refreshFails_of_rejects (h : t.download? file = some text) (hrejects : t.Rejects text) :
    t.RefreshFails file := by
  refine ⟨?_, fun text' h' => ?_⟩
  · by_contra hneeds
    have hnone : t.download? file = none := if_neg hneeds
    rw [hnone] at h
    cases h
  · obtain rfl := Option.some.inj (h.symm.trans h')
    exact hrejects

/-! ### Many starts -/

/-- `P` holds of every start of a run, the file that it finds, and the starts after it. -/
def Along (P : FileStart → Option String → List FileStart → Prop) :
    Option String → List FileStart → Prop
  | _, [] => True
  | file, t :: rest => P t file rest ∧ Along P (t.fileAfter file) rest

/-- What holds along a run can be told of each start by itself, and an invariant of the file that
starts preserve. -/
theorem Along.imp {P Q : FileStart → Option String → List FileStart → Prop}
    {I : Option String → Prop}
    (hstep : ∀ t file rest, I file → P t file rest → Q t file rest ∧ I (t.fileAfter file))
    {starts : List FileStart} (hfile : I file) (h : Along P file starts) :
    Along Q file starts := by
  induction starts generalizing file with
  | nil => trivial
  | cons t rest ih =>
    obtain ⟨hq, hnext⟩ := hstep t file rest hfile h.1
    exact ⟨hq, ih hnext h.2⟩

/-- Whatever the start downloads, its catalog does not reject it. -/
def RejectsNothing (t : FileStart) (file : Option String) : Prop :=
  ∀ text, t.download? file = some text → ¬ t.Rejects text

/-- Each start of a run whose refresh fails leaves the file as it is and publishes the specs in it.
No start reads from the file what an earlier one has downloaded and rejected. -/
def FileSurvives : Option String → List FileStart → Prop :=
  Along fun t file rest =>
    (t.RefreshFails file → t.Keeps file) ∧
      ∀ text, t.download? file = some text → t.Rejects text →
        Along (fun u file _ => u.reads? file ≠ some text) (t.fileAfter file) rest

/-- A payload that the start downloads and rejects is in the file already, and no later start reads
it. -/
def Spares (t : FileStart) (file : Option String) (later : List FileStart) : Prop :=
  ∀ text, t.download? file = some text → t.Rejects text →
    file = some text ∧ Along (fun u file _ => u.reads? file ≠ some text) (some text) later

theorem keeps_of_spares {later : List FileStart} (h : t.Spares file later)
    (hfails : t.RefreshFails file) : t.Keeps file := by
  cases hdownload : t.download? file with
  | none => exact keeps_of_download?_eq_none hdownload
  | some text =>
    have hrejects := hfails.2 text hdownload
    obtain ⟨rfl, -⟩ := h text hdownload hrejects
    refine ⟨fileAfter_of_download hdownload, fun text' d htext hd => ?_⟩
    obtain rfl := Option.some.inj htext
    have hnone := Update.delivery?_of_isMalformed
      { text, source := .cache, receivedAt := t.now } (rejects_iff.1 hrejects)
    exact absurd (hd.symm.trans hnone) (Option.some_ne_none d)

/-- The file survives if and only if it is spared by each start of the run. -/
theorem fileSurvives_iff_spares {starts : List FileStart} :
    FileSurvives file starts ↔ Along Spares file starts := by
  constructor
  · intro h
    refine h.imp (I := fun _ => True) (fun t file rest _ hkeeps => ⟨?_, trivial⟩) trivial
    intro text hdownload hrejects
    have hafter := fileAfter_of_download hdownload
    have hkept := (hkeeps.1 (refreshFails_of_rejects hdownload hrejects)).fileAfter
    have hunread := hkeeps.2 text hdownload hrejects
    rw [hafter] at hunread
    exact ⟨hkept.symm.trans hafter, hunread⟩
  · intro h
    refine h.imp (I := fun _ => True) (fun t file rest _ hspares => ⟨?_, trivial⟩) trivial
    refine ⟨keeps_of_spares hspares, fun text hdownload hrejects => ?_⟩
    rw [fileAfter_of_download hdownload]
    exact (hspares text hdownload hrejects).2

/-- A file that is not malformed stays so as long as no payload is rejected, and a rejected one
would not be in it already. -/
theorem along_rejectsNothing_of_spares {starts : List FileStart}
    (hfile : ∀ text, file = some text → Payload.isMalformed text = false)
    (h : Along Spares file starts) : Along (fun t file _ => t.RejectsNothing file) file starts := by
  refine h.imp (I := fun file => ∀ text, file = some text → Payload.isMalformed text = false)
    (fun t file rest hfile hspares => ?_) hfile
  have hnothing : t.RejectsNothing file := by
    intro text hdownload hrejects
    have hmalformed := hfile text (hspares text hdownload hrejects).1
    rw [rejects_iff.1 hrejects] at hmalformed
    cases hmalformed
  refine ⟨hnothing, fun text htext => ?_⟩
  cases hdownload : t.download? file with
  | none =>
    rw [(keeps_of_download?_eq_none hdownload).fileAfter] at htext
    exact hfile text htext
  | some text' =>
    obtain rfl := Option.some.inj ((fileAfter_of_download hdownload).symm.trans htext)
    exact Bool.eq_false_iff.2 fun hmalformed => hnothing _ hdownload (rejects_iff.2 hmalformed)

theorem along_spares_of_rejectsNothing {starts : List FileStart}
    (h : Along (fun t file _ => t.RejectsNothing file) file starts) : Along Spares file starts :=
  h.imp (I := fun _ => True) (fun _ _ _ _ hnothing =>
    ⟨fun text hdownload hrejects => absurd hrejects (hnothing text hdownload), trivial⟩) trivial

/-- Starts that find a malformed text in the file and download nothing fail one like the other. -/
theorem along_of_isMalformed (hmalformed : Payload.isMalformed text = true)
    {starts : List FileStart} (h : ∀ u ∈ starts, u.download? (some text) = none) :
    Along (fun u file _ => file = some text ∧
      (∃ fault, (u.outcome file).1 = .error (.malformedPayload fault)) ∧ u.published file = none)
      (some text) starts := by
  induction starts with
  | nil => trivial
  | cons u rest ih =>
    rw [List.forall_mem_cons] at h
    have hincoming : u.incoming? (some text) = some (text, .cache) := by
      unfold incoming?
      rw [h.1]
      rfl
    refine ⟨⟨rfl, outcome_of_isMalformed hincoming hmalformed⟩, ?_⟩
    rw [(keeps_of_download?_eq_none h.1).fileAfter]
    exact ih h.2

/-- The file survives a run of starts if and only if each of them spares it: what they download and
reject is in the file already, and is not read from there. If the file is not malformed to begin
with, they must not download anything malformed. A start that does fails, publishes nothing, and
puts the payload in the place of the file; so later ones fail as well and publish nothing, until
one of them downloads another payload. -/
theorem fileSurvives_iff (file : Option String) (starts : List FileStart) :
    (FileSurvives file starts ↔ Along Spares file starts) ∧
    ((∀ text, file = some text → Payload.isMalformed text = false) →
      (FileSurvives file starts ↔ Along (fun t file _ => t.RejectsNothing file) file starts)) ∧
    ∀ (t : FileStart) (text : String), t.download? file = some text → t.Rejects text →
      (∃ fault, (t.outcome file).1 = .error (.malformedPayload fault)) ∧
        t.published file = none ∧ t.fileAfter file = some text ∧
        ∀ later : List FileStart, (∀ u ∈ later, u.download? (some text) = none) →
          Along (fun u file _ => file = some text ∧
            (∃ fault, (u.outcome file).1 = .error (.malformedPayload fault)) ∧
            u.published file = none) (t.fileAfter file) later := by
  refine ⟨fileSurvives_iff_spares, fun hfile => fileSurvives_iff_spares.trans
    ⟨along_rejectsNothing_of_spares hfile, along_spares_of_rejectsNothing⟩, ?_⟩
  intro t text hdownload hrejects
  have hmalformed := rejects_iff.1 hrejects
  have hafter := fileAfter_of_download hdownload
  obtain ⟨hfails, hnone⟩ := outcome_of_isMalformed (incoming?_of_download hdownload) hmalformed
  refine ⟨hfails, hnone, hafter, fun later hlater => ?_⟩
  rw [hafter]
  exact along_of_isMalformed hmalformed hlater

/-! ### A server that answers something else -/

/-- A start that finds the file too old, with a server that gives one answer to everything. -/
def answered (status : Nat) (body : String) : FileStart where
  fetcher := Engine.localFetcher
  maxAgeMs := some 0
  ageMs := 20
  network := { response? := fun _ => some ⟨status, body⟩ }
  now := 1
  isFresh := rfl

theorem fileSurvives_iff_versionFive :
    FileSurvives (some Engine.versionFive) [answered 503 "", answered 200 Engine.versionFive] ∧
    ¬ FileSurvives (some Engine.versionFive) [answered 503 "", answered 200 "busy"] := by
  have hfile : Payload.isMalformed Engine.versionFive = false := by decide +kernel
  have hiff (starts : List FileStart) := (fileSurvives_iff (some Engine.versionFive) starts).2.1
    fun text htext => Option.some.inj htext ▸ hfile
  have hfails : (answered 503 "").download? (some Engine.versionFive) = none := by decide +kernel
  have hkept := (keeps_of_download?_eq_none hfails).fileAfter
  constructor
  · refine (hiff _).2 ⟨fun text h => ?_, fun text h => ?_, trivial⟩
    · rw [hfails] at h
      cases h
    · have hdownload : (answered 200 Engine.versionFive).download? (some Engine.versionFive) =
          some Engine.versionFive := by decide +kernel
      rw [hkept, hdownload] at h
      rw [rejects_iff, ← Option.some.inj h, hfile]
      exact Bool.false_ne_true
  · intro h
    obtain ⟨-, hnothing, -⟩ := (hiff _).1 h
    rw [hkept] at hnothing
    exact hnothing "busy" (by decide +kernel) (rejects_iff.2 (by decide +kernel))

theorem not_forall_fileSurvives :
    ¬ ∀ (file : Option String) (starts : List FileStart), FileSurvives file starts := by
  intro h
  have hdownload : (answered 200 "busy").download? (some Engine.versionFive) = some "busy" := by
    decide +kernel
  have hrejects : (answered 200 "busy").Rejects "busy" := rejects_iff.2 (by decide +kernel)
  have hkept := ((h (some Engine.versionFive) [answered 200 "busy"]).1.1
    (refreshFails_of_rejects hdownload hrejects)).fileAfter
  rw [fileAfter_of_download hdownload] at hkept
  exact absurd hkept (by decide)

end FileStart

end Rollout
