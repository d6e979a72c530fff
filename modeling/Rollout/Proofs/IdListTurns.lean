import Rollout.Engine
import Rollout.Proofs.Publication

/-!
# The turns of a sync

A sync of id lists asks for the manifest, and then it is the turn of each list that the manifest has
an entry of (`IdListSync.turns`). A turn keeps the list, extends it by what is downloaded, or leaves
it as it was if the download fails (`IdListSync.Turn.result_cases`). After the sync there is what
the turns have left (`IdListSync.get?_of_mem_turns`, `IdListSync.get?_of_forall_ne`). A turn comes
with the network as it is then, so servers may answer each request as they like.
-/

namespace Rollout

/-! ### Requests -/

/-- Nothing that was asked is taken back. -/
def OnlyAsks {α : Type} (x : StateM Network α) : Prop :=
  ∀ n, n.asked.length ≤ (x n).2.asked.length

theorem onlyAsks_pure {α : Type} (a : α) : OnlyAsks (pure a) := fun _ => Nat.le_refl _

theorem OnlyAsks.bind {α β : Type} {x : StateM Network α} {f : α → StateM Network β}
    (hx : OnlyAsks x) (hf : ∀ a, OnlyAsks (f a)) : OnlyAsks (x >>= f) :=
  fun n => Nat.le_trans (hx n) (hf (x n).1 (x n).2)

theorem onlyAsks_exchange (c : HttpClient) (r : HttpRequest) : OnlyAsks (c.exchange r) := by
  intro n
  show _ ≤ (n.asked ++ [_]).length
  simp

namespace IdListSync

theorem onlyAsks_fetchManifest (s : IdListSync) : OnlyAsks s.fetchManifest :=
  (onlyAsks_exchange _ _).bind fun _ => onlyAsks_pure _

theorem onlyAsks_fetchChanges (s : IdListSync) (url : String) (start : Nat) :
    OnlyAsks (s.fetchChanges url start) := by
  unfold fetchChanges
  split
  · exact onlyAsks_pure _
  · exact (onlyAsks_exchange _ _).bind fun _ => onlyAsks_pure _

theorem onlyAsks_update (s : IdListSync) (existing : Option IdList) (m : IdListMetadata) :
    OnlyAsks (s.update existing m) := by
  unfold update
  split
  · exact onlyAsks_pure _
  · refine (onlyAsks_fetchChanges _ _ _).bind fun answer => ?_
    split <;> exact onlyAsks_pure _

/-! ### Turns -/

/-- A list is kept if its file has not grown, and otherwise it or an empty one is extended. -/
theorem next_cases (existing : Option IdList) (m : IdListMetadata) :
    (∃ list, existing = some list ∧ isSameFile list m = true ∧ m.size ≤ list.readBytes ∧
      next existing m = .keep list) ∨
    ∃ list, (list = { metadata := m } ∨ existing = some list ∧ isSameFile list m = true) ∧
      next existing m = .extend list := by
  unfold next
  cases existing with
  | none => exact .inr ⟨_, .inl rfl, rfl⟩
  | some list =>
    by_cases hsame : isSameFile list m = true
    · by_cases hsize : m.size ≤ list.readBytes
      · exact .inl ⟨list, rfl, hsame, hsize, by simp [hsame, hsize]⟩
      · exact .inr ⟨list, .inr ⟨rfl, hsame⟩, by simp [hsame, hsize]⟩
    · exact .inr ⟨_, .inl rfl, by simp [hsame]⟩

theorem update_of_keep {existing : Option IdList} {m : IdListMetadata} {list : IdList}
    (h : next existing m = .keep list) (s : IdListSync) (n : Network) :
    s.update existing m n = (some list, n) := by
  unfold update
  rw [h]
  rfl

theorem update_of_extend {existing : Option IdList} {m : IdListMetadata} {list : IdList}
    (h : next existing m = .extend list) (s : IdListSync) (n : Network) :
    (s.update existing m n).1 = match (s.fetchChanges m.url list.readBytes n).1 with
      | .ok changes => some { list.applyChanges changes with metadata := m }
      | .error _ => existing := by
  unfold update
  rw [h]
  dsimp only
  rw [bind_apply]
  cases (s.fetchChanges m.url list.readBytes n).1 <;> rfl

/-- A list whose turn it is in a sync. -/
structure Turn where
  name : String
  /-- The list as it was before. -/
  existing : Option IdList
  /-- What the manifest says. -/
  metadata : IdListMetadata
  network : Network

namespace Turn

/-- The list after its turn, if there is one. -/
def result (s : IdListSync) (t : Turn) : Option IdList :=
  (s.update t.existing t.metadata t.network).1

/-- What is asked for, from which byte on, and the answer to it. -/
def download? (s : IdListSync) (t : Turn) : Option (Nat × Except Failure String) :=
  match next t.existing t.metadata with
  | .keep _ => none
  | .extend list =>
    some (list.readBytes, (s.fetchChanges t.metadata.url list.readBytes t.network).1)

/-- Whether the download fails. -/
def hasFailed (s : IdListSync) (t : Turn) : Bool :=
  match t.download? s with
  | some (_, .error _) => true
  | _ => false

/-- What a turn can be: the list is kept, its download fails, or it is extended. -/
theorem result_cases (s : IdListSync) (t : Turn) :
    (∃ list, t.existing = some list ∧ isSameFile list t.metadata = true ∧
      t.metadata.size ≤ list.readBytes ∧ t.hasFailed s = false ∧ t.result s = some list) ∨
    (t.hasFailed s = true ∧ t.result s = t.existing) ∨
    ∃ list changes, (list = { metadata := t.metadata } ∨
        t.existing = some list ∧ isSameFile list t.metadata = true) ∧
      t.download? s = some (list.readBytes, .ok changes) ∧ t.hasFailed s = false ∧
      t.result s = some { list.applyChanges changes with metadata := t.metadata } := by
  obtain ⟨list, hexisting, hsame, hsize, hnext⟩ | ⟨list, hlist, hnext⟩ :=
    next_cases t.existing t.metadata
  · refine .inl ⟨list, hexisting, hsame, hsize, by simp [hasFailed, download?, hnext], ?_⟩
    unfold result
    rw [update_of_keep hnext]
  · have hresult := update_of_extend hnext s t.network
    cases hanswer : (s.fetchChanges t.metadata.url list.readBytes t.network).1 with
    | error failure =>
      rw [hanswer] at hresult
      exact .inr (.inl ⟨by simp [hasFailed, download?, hnext, hanswer], hresult⟩)
    | ok changes =>
      rw [hanswer] at hresult
      exact .inr (.inr ⟨list, changes, hlist, by simp [download?, hnext, hanswer],
        by simp [hasFailed, download?, hnext, hanswer], hresult⟩)

end Turn

/-- The turns of the entries of a manifest. -/
def turnsOf (s : IdListSync) (current : Dict IdList) :
    List (String × IdListMetadata) → Network → List Turn
  | [], _ => []
  | (name, m) :: rest, n =>
    ⟨name, current.get? name, m, n⟩ ::
      turnsOf s current rest (s.update (current.get? name) m n).2

theorem map_name_turnsOf (s : IdListSync) (current : Dict IdList)
    (entries : List (String × IdListMetadata)) (n : Network) :
    (s.turnsOf current entries n).map (·.name) = entries.map (·.1) := by
  induction entries generalizing n with
  | nil => rfl
  | cons e rest ih => exact congrArg _ (ih _)

theorem existing_of_mem_turnsOf {s : IdListSync} {current : Dict IdList}
    {entries : List (String × IdListMetadata)} {n : Network} {t : Turn}
    (h : t ∈ s.turnsOf current entries n) : t.existing = current.get? t.name := by
  induction entries generalizing n with
  | nil => cases h
  | cons e rest ih =>
    rcases List.mem_cons.1 h with rfl | h
    · rfl
    · exact ih h

/-- Bring the list of an entry up to date. -/
def updateEntry (s : IdListSync) (current : Dict IdList) (e : String × IdListMetadata) :
    StateM Network (Option (String × IdList)) := do
  return (← s.update (current.get? e.1) e.2).map fun list => (e.1, list)

theorem sync_eq (s : IdListSync) (current : Dict IdList) :
    s.sync current = s.fetchManifest >>= fun
      | .error f => pure (.error f)
      | .ok entries => entries.mapM (s.updateEntry current) >>= fun lists =>
        pure (.ok (.ofList (lists.filterMap id))) := rfl

theorem mapM_updateEntry (s : IdListSync) (current : Dict IdList)
    (entries : List (String × IdListMetadata)) (n : Network) :
    (entries.mapM (s.updateEntry current) n).1 =
      (s.turnsOf current entries n).map fun t => (t.result s).map (t.name, ·) := by
  induction entries generalizing n with
  | nil => rfl
  | cons e rest ih =>
    rw [List.mapM_cons, bind_apply, bind_apply]
    exact congrArg _ (ih _)

theorem onlyAsks_mapM (s : IdListSync) (current : Dict IdList)
    (entries : List (String × IdListMetadata)) :
    OnlyAsks (entries.mapM (s.updateEntry current)) := by
  induction entries with
  | nil => exact onlyAsks_pure _
  | cons e rest ih =>
    rw [List.mapM_cons]
    have hentry : OnlyAsks (s.updateEntry current e) :=
      (s.onlyAsks_update _ _).bind fun _ => onlyAsks_pure _
    exact hentry.bind fun _ => ih.bind fun _ => onlyAsks_pure _

/-- Each turn finds a network that has been asked no less than before the sync and no more than
after it. -/
theorem asked_of_mem_turnsOf {s : IdListSync} {current : Dict IdList}
    {entries : List (String × IdListMetadata)} {n : Network} {t : Turn}
    (h : t ∈ s.turnsOf current entries n) :
    n.asked.length ≤ t.network.asked.length ∧
      t.network.asked.length ≤ (entries.mapM (s.updateEntry current) n).2.asked.length := by
  induction entries generalizing n with
  | nil => cases h
  | cons e rest ih =>
    have hupdate := s.onlyAsks_update (current.get? e.1) e.2 n
    have hcons : ((e :: rest).mapM (s.updateEntry current) n).2 =
        (rest.mapM (s.updateEntry current) (s.update (current.get? e.1) e.2 n).2).2 := by
      rw [List.mapM_cons, bind_apply, bind_apply]
      rfl
    rw [hcons]
    -- The first turn finds the network as the sync does; the others come after it.
    rcases List.mem_cons.1 h with rfl | h
    · exact ⟨Nat.le_refl _, Nat.le_trans hupdate (s.onlyAsks_mapM current rest _)⟩
    · obtain ⟨hle, hle'⟩ := ih h
      exact ⟨Nat.le_trans hupdate hle, hle'⟩

/-! ### Syncs -/

theorem pairwise_of_manifest? {text : String} {entries : List (String × IdListMetadata)}
    (h : manifest? text = some entries) : entries.Pairwise (·.1 < ·.1) := by
  obtain ⟨d, -, rfl⟩ := Option.map_eq_some_iff.1 h
  exact List.pairwise_map.2 d.increasing

/-- A manifest has an entry of a list once. -/
theorem pairwise_of_fetchManifest {s : IdListSync} {n : Network}
    {entries : List (String × IdListMetadata)} (h : (s.fetchManifest n).1 = .ok entries) :
    entries.Pairwise (·.1 < ·.1) := by
  unfold fetchManifest at h
  rw [bind_apply] at h
  obtain ⟨r, -, hr⟩ := bind_eq_ok h
  unfold manifestOf at hr
  split at hr
  · cases hr
  · split at hr
    · cases hr
    · split at hr
      · next hm =>
        cases hr
        exact pairwise_of_manifest? hm
      · cases hr

/-- The turns of a sync. Without a manifest there are none. -/
def turns (s : IdListSync) (i : Intake) : List Turn :=
  match (s.fetchManifest i.network).1 with
  | .ok entries => s.turnsOf i.catalog.synced entries (s.fetchManifest i.network).2
  | .error _ => []

/-- Bring the id lists up to date, and publish them if there is a manifest. -/
def syncOnce (s : IdListSync) (i : Intake) : Except Failure Unit × Intake :=
  let (result, network) := s.sync i.catalog.synced i.network
  match result with
  | .error failure => (.error failure, { i with network })
  | .ok lists => (.ok (), { i with network, catalog := i.catalog.setIdLists lists })

/-- This is what a poller of an engine does that is running. -/
theorem intake_pollIdLists {e : Engine} {s : IdListSync} (hs : e.idLists = some s)
    (hrunning : e.idListPoller = .running) :
    (Engine.pollIdLists e).2.intake = (s.syncOnce e.intake).2 := by
  have honline : Engine.onIntake (Intake.online (s.sync e.intake.catalog.synced)) e =
      ((s.sync e.intake.catalog.synced e.intake.network).1,
        { e with intake :=
          { e.intake with network := (s.sync e.intake.catalog.synced e.intake.network).2 } }) := rfl
  unfold Engine.pollIdLists syncOnce
  rw [get_bind_apply]
  simp only [hs, hrunning]
  rw [bind_apply, honline]
  rcases (s.sync e.intake.catalog.synced e.intake.network) with ⟨failure | lists, network⟩
  · cases failure <;> rfl
  · rfl

/-- Without a manifest nothing is published, otherwise the lists after their turns are. -/
theorem syncOnce_cases (s : IdListSync) (i : Intake) :
    (∃ failure, (s.syncOnce i).1 = .error failure ∧ s.turns i = [] ∧
      (s.syncOnce i).2.catalog = i.catalog) ∨
    ((s.syncOnce i).1 = .ok () ∧ (s.syncOnce i).2.catalog = i.catalog.setIdLists
      (.ofList ((s.turns i).filterMap fun t => (t.result s).map (t.name, ·)))) := by
  unfold syncOnce turns
  rw [sync_eq, bind_apply]
  cases (s.fetchManifest i.network).1 with
  | error failure => exact .inl ⟨failure, rfl, rfl, rfl⟩
  | ok entries =>
    refine .inr ⟨rfl, ?_⟩
    have hlists := s.mapM_updateEntry i.catalog.synced entries (s.fetchManifest i.network).2
    dsimp only
    rw [bind_apply, hlists]
    show i.catalog.setIdLists (.ofList (List.filterMap id (List.map _ _))) = _
    rw [List.filterMap_map]
    rfl

theorem onlyAsks_sync (s : IdListSync) (current : Dict IdList) : OnlyAsks (s.sync current) := by
  rw [sync_eq]
  refine s.onlyAsks_fetchManifest.bind fun manifest => ?_
  cases manifest with
  | error failure => exact onlyAsks_pure _
  | ok entries => exact (s.onlyAsks_mapM current entries).bind fun _ => onlyAsks_pure _

theorem network_syncOnce (s : IdListSync) (i : Intake) :
    (s.syncOnce i).2.network = (s.sync i.catalog.synced i.network).2 := by
  unfold syncOnce
  rcases s.sync i.catalog.synced i.network with ⟨failure | lists, network⟩ <;> rfl

section Turns

variable {s : IdListSync} {i : Intake} {t : Turn}

theorem existing_of_mem_turns (h : t ∈ s.turns i) :
    t.existing = i.catalog.synced.get? t.name := by
  unfold turns at h
  split at h
  · exact existing_of_mem_turnsOf h
  · cases h

theorem asked_of_mem_turns (h : t ∈ s.turns i) :
    i.network.asked.length ≤ t.network.asked.length ∧
      t.network.asked.length ≤ (s.syncOnce i).2.network.asked.length := by
  unfold turns at h
  split at h
  · next entries hm =>
    obtain ⟨hle, hle'⟩ := asked_of_mem_turnsOf h
    refine ⟨Nat.le_trans (s.onlyAsks_fetchManifest i.network) hle, Nat.le_trans hle' ?_⟩
    rw [network_syncOnce, sync_eq, bind_apply, hm]
    exact Nat.le_refl _
  · cases h

theorem pairwise_turns (s : IdListSync) (i : Intake) :
    (s.turns i).Pairwise (·.name < ·.name) := by
  unfold turns
  split
  · next entries hm =>
    have hnames := s.map_name_turnsOf i.catalog.synced entries (s.fetchManifest i.network).2
    have hentries := List.pairwise_map.2 (pairwise_of_fetchManifest hm)
    rw [← hnames] at hentries
    exact List.pairwise_map.1 hentries
  · exact .nil

/-- After a sync there is a list of a name if there was a turn of it, which has left one. -/
theorem get?_syncOnce (h : (s.syncOnce i).1 = .ok ()) (name : String) :
    (s.syncOnce i).2.catalog.synced.get? name =
      ((s.turns i).find? (·.name == name)).bind (·.result s) := by
  obtain ⟨failure, hfailure, -⟩ | ⟨-, hcatalog⟩ := s.syncOnce_cases i
  · cases hfailure.symm.trans h
  · -- The turns are the entries of a map.
    let byName : Dict Turn :=
      ⟨(s.turns i).map fun t => (t.name, t), List.pairwise_map.2 (s.pairwise_turns i)⟩
    have hget : byName.get? name = (s.turns i).find? (·.name == name) := by
      show (List.find? _ (List.map _ _)).map _ = _
      rw [List.find?_map, Option.map_map]
      exact Option.map_id'
    have hlists := Dict.get?_ofList_filterMap byName (fun _ t => t.result s) name
    rw [hget] at hlists
    rw [hcatalog, ← hlists]
    show (Dict.ofList _).get? name = (Dict.ofList (List.filterMap _ (List.map _ _))).get? name
    rw [List.filterMap_map]
    rfl

theorem eq_of_mem_turns {t' : Turn} (ht : t ∈ s.turns i) (ht' : t' ∈ s.turns i)
    (h : t.name = t'.name) : t = t' := by
  have hnames : ((s.turns i).map (·.name)).Nodup := by
    refine List.pairwise_map.2 ((s.pairwise_turns i).imp fun hlt heq => ?_)
    rw [heq] at hlt
    exact String.lt_irrefl _ hlt
  exact List.inj_on_of_nodup_map hnames ht ht' h

theorem get?_of_mem_turns (h : (s.syncOnce i).1 = .ok ()) (ht : t ∈ s.turns i) :
    (s.syncOnce i).2.catalog.synced.get? t.name = t.result s := by
  rw [get?_syncOnce h]
  obtain ⟨t', hfind⟩ : ∃ t', (s.turns i).find? (·.name == t.name) = some t' :=
    Option.isSome_iff_exists.1 (List.find?_isSome.2 ⟨t, ht, BEq.rfl⟩)
  have hfound := List.find?_some hfind
  obtain rfl := eq_of_mem_turns (List.mem_of_find?_eq_some hfind) ht (eq_of_beq hfound)
  rw [hfind]
  rfl

theorem get?_of_forall_ne (h : (s.syncOnce i).1 = .ok ()) {name : String}
    (hne : ∀ t ∈ s.turns i, t.name ≠ name) :
    (s.syncOnce i).2.catalog.synced.get? name = none := by
  have hnone : (s.turns i).find? (·.name == name) = none :=
    List.find?_eq_none.2 fun t ht hname => hne t ht (eq_of_beq hname)
  rw [get?_syncOnce h, hnone]
  rfl

end Turns

end IdListSync

end Rollout
