import Rollout.Proofs.ConcurrentPublication

/-!
# What concurrent calls write to the data store

A caller publishes a payload while it is its turn, and writes it to the data store when its turn is
over. So the order in which payloads from the network are published need not be the one in which
they are written (`Catalog.Scene.Accounts`). When all calls have returned, the data store holds what
is published if and only if the caller that has published last has also written last
(`Catalog.Scene.holdsPublished_iff`).
-/

namespace Rollout

/-- What comes in the place of an element of a list comes in the place of what it gives. -/
theorem toList_append_filterMap_set_perm {α β : Type} (f : α → Option β) {l : List α} {i : Nat}
    {a : α} (h : l[i]? = some a) (b : α) :
    ((f a).toList ++ (l.set i b).filterMap f).Perm ((f b).toList ++ l.filterMap f) := by
  induction l generalizing i with
  | nil => cases h
  | cons x l ih =>
    have hcons : ∀ y (l : List α), (y :: l).filterMap f = (f y).toList ++ l.filterMap f := by
      intro y l
      rw [List.filterMap_cons]
      cases f y <;> rfl
    have hswap : ∀ l₁ l₂ l₃ : List β, (l₁ ++ (l₂ ++ l₃)).Perm (l₂ ++ (l₁ ++ l₃)) := by
      intro l₁ l₂ l₃
      rw [← List.append_assoc, ← List.append_assoc]
      exact List.perm_append_comm.append_right l₃
    cases i with
    | zero =>
      obtain rfl : x = a := Option.some.inj h
      rw [List.set_cons_zero, hcons, hcons]
      exact hswap _ _ _
    | succ i =>
      rw [List.set_cons_succ, hcons, hcons]
      exact (hswap _ _ _).trans (((ih h).append_left _).trans (hswap _ _ _))

/-- What of a delivery is published. -/
def Delivery.content (d : Delivery) : Payload × Nat := (d.payload, d.lcut)

namespace Catalog

/-- What is published, apart from id lists. -/
def current (c : Catalog) : Option (Payload × Nat) := c.snapshot.map fun t => (t.payload, t.lcut)

namespace Stage

/-- Whether the call is over. -/
def hasReturned : Stage → Bool
  | .returned _ => true
  | _ => false

/-- The update that a caller is still concerned with. -/
def update? : Stage → Option Update
  | .reading u => some u
  | .waiting a | .looking a | .deciding a _ | .writing a _ => some a.update
  | .glancing | .returned _ => none

theorem update?_resume {stage : Stage} {isFree : Bool} {c : Catalog} {u : Update}
    (h : (stage.resume isFree c).1.update? = some u) : stage.update? = some u := by
  cases stage with
  | reading v =>
    change (read v).update? = _ at h
    obtain ⟨a, rfl, ha⟩ | ha | ⟨result, ha⟩ := read_cases v <;> rw [ha] at h
    · exact h
    · cases h
    · cases h
  | waiting a => cases isFree <;> exact h
  | looking a => exact h
  | deciding a seen =>
    change (decided a (c.publishOver seen a.delivery).1).update? = _ at h
    cases hresult : (c.publishOver seen a.delivery).1 with
    | ok t =>
      rw [hresult] at h
      exact h
    | error failure =>
      rw [hresult] at h
      cases h
  | glancing => cases isFree <;> cases h
  | writing | returned => cases h

/-- Only a caller that writes changes the data store. -/
theorem resume_archive {stage : Stage} (h : stage.writing? = none) (isFree : Bool) (c : Catalog) :
    (stage.resume isFree c).2.archive = c.archive := by
  cases stage with
  | writing a => cases h
  | deciding a seen =>
    show (c.publishOver seen a.delivery).2.archive = _
    obtain ⟨t, -, -, hpublish⟩ | ⟨-, hpublish⟩ := publishOver_cases c seen a.delivery <;>
      rw [hpublish]
  | reading | glancing | waiting | looking | returned => rfl

/-- Nobody has anything to write next but who decides. -/
theorem writing?_resume {stage : Stage} (h : ∀ a seen, stage ≠ .deciding a seen) (isFree : Bool)
    (c : Catalog) : (stage.resume isFree c).1.writing? = none := by
  cases stage with
  | reading u =>
    show (read u).writing? = none
    obtain ⟨a, -, ha⟩ | ha | ⟨result, ha⟩ := read_cases u <;> rw [ha] <;> rfl
  | glancing | waiting => cases isFree <;> rfl
  | deciding a seen => exact absurd rfl (h a seen)
  | looking | writing | returned => rfl

/-- Who publishes something writes it next. -/
theorem current_resume (stage : Stage) (isFree : Bool) (c : Catalog) :
    (stage.resume isFree c).2.current =
      ((stage.resume isFree c).1.writing?.map (·.delivery.content)).or c.current := by
  by_cases h : ∃ a seen, stage = .deciding a seen
  · obtain ⟨a, seen, rfl⟩ := h
    show (c.publishOver seen a.delivery).2.current =
      ((decided a (c.publishOver seen a.delivery).1).writing?.map _).or c.current
    obtain ⟨t, -, -, hpublish⟩ | ⟨-, hpublish⟩ := publishOver_cases c seen a.delivery <;>
      rw [hpublish] <;> rfl
  · have hstage : ∀ a seen, stage ≠ .deciding a seen := fun a seen heq => h ⟨a, seen, heq⟩
    unfold current
    rw [writing?_resume hstage, resume_snapshot hstage]
    rfl

end Stage

namespace Scene

variable {s : Scene} {i : Nat} {stage : Stage}

theorem publishes_resume (h : s.callers[i]? = some stage) :
    s.publishes (.resume i) = (stage.resume s.isFree s.catalog).1.writing? := by
  unfold publishes
  rw [decides_resume h]
  cases stage with
  | deciding a seen =>
    show _ = (Stage.decided a (s.catalog.publishOver seen a.delivery).1).writing?
    obtain ⟨t, ht, hle, hpublish⟩ | ⟨hnewer, hpublish⟩ :=
      publishOver_cases s.catalog seen a.delivery
    · rw [hpublish, ht]
      simpa [Stage.decided, Stage.writing?] using hle
    · rw [hpublish]
      cases ht : s.catalog.snapshot with
      | none => simp [Stage.decided, Stage.writing?]
      | some t => simp [Stage.decided, Stage.writing?, hnewer t ht]
  | reading | glancing | waiting | looking | writing | returned =>
    exact (Stage.writing?_resume (by simp) s.isFree s.catalog).symm

theorem writes_resume (h : s.callers[i]? = some stage) :
    s.writes (.resume i) = stage.writing? := by
  simp [writes, h]

/-! ### One move -/

/-- What is published after a move. -/
theorem current_perform (s : Scene) (m : Move) :
    (s.perform m).catalog.current =
      ((s.publishes m).map (·.delivery.content)).or s.catalog.current := by
  cases m with
  | arrive u => rfl
  | resume i =>
    show (s.resume i).catalog.current = _
    cases hi : s.callers[i]? with
    | none =>
      rw [resume_of_none hi]
      simp [publishes, decides, hi]
    | some stage =>
      rw [publishes_resume hi, resume_of_some hi]
      exact stage.current_resume s.isFree s.catalog
  | remember lists =>
    obtain ⟨-, hs⟩ | ⟨-, hs⟩ := s.remember_cases lists <;> rw [hs] <;> rfl
  | republish =>
    obtain ⟨lists, -, -, hs⟩ | hs := s.republish_cases <;> rw [hs]
    · exact Option.map_map ..
    · rfl

/-- The data store after a move. -/
theorem archive_perform (s : Scene) (m : Move) :
    (s.perform m).catalog.archive = match s.writes m with
      | some a =>
        (s.catalog.writeThrough a.update.text a.update.source a.update.receivedAt).archive
      | none => s.catalog.archive := by
  cases m with
  | arrive u => rfl
  | resume i =>
    show (s.resume i).catalog.archive = _
    cases hi : s.callers[i]? with
    | none => simp [resume_of_none hi, writes, hi]
    | some stage =>
      rw [resume_of_some hi, writes_resume hi]
      cases stage with
      | writing a details => rfl
      | reading | glancing | waiting | looking | deciding | returned =>
        exact Stage.resume_archive rfl s.isFree s.catalog
  | remember lists =>
    obtain ⟨-, hs⟩ | ⟨-, hs⟩ := s.remember_cases lists <;> rw [hs] <;> rfl
  | republish =>
    obtain ⟨lists, -, -, hs⟩ | hs := s.republish_cases <;> rw [hs] <;> rfl

/-- What is published in a move has to be written, and what is written in it has not any more. -/
theorem writing_perform_perm (s : Scene) (m : Move) :
    ((s.writes m).toList ++ (s.perform m).callers.filterMap Stage.writing?).Perm
      ((s.publishes m).toList ++ s.callers.filterMap Stage.writing?) := by
  cases m with
  | arrive u =>
    show (List.filterMap Stage.writing? (s.callers ++ [.reading u])).Perm _
    rw [List.filterMap_append]
    exact .of_eq (List.append_nil _)
  | resume i =>
    show ((s.writes (.resume i)).toList ++ (s.resume i).callers.filterMap Stage.writing?).Perm _
    cases hi : s.callers[i]? with
    | none => simp [resume_of_none hi, writes, publishes, decides, hi]
    | some stage =>
      rw [publishes_resume hi, writes_resume hi, resume_of_some hi]
      exact toList_append_filterMap_set_perm Stage.writing? hi _
  | remember lists =>
    obtain ⟨-, hs⟩ | ⟨-, hs⟩ := s.remember_cases lists <;> rw [hs] <;> exact .refl _
  | republish =>
    obtain ⟨lists, -, -, hs⟩ | hs := s.republish_cases <;> rw [hs] <;> exact .refl _

/-- A move that brings nothing but updates from the network. -/
def Move.IsNetwork : Move → Prop
  | .arrive u => u.source = .network
  | _ => True

/-- All callers bring updates from the network. -/
def IsNetwork (s : Scene) : Prop :=
  ∀ stage ∈ s.callers, ∀ u, stage.update? = some u → u.source = .network

theorem IsNetwork.perform (h : s.IsNetwork) {m : Move} (hm : m.IsNetwork) :
    (s.perform m).IsNetwork := by
  cases m with
  | arrive u =>
    intro stage hstage v hv
    rcases List.mem_append.1 hstage with hstage | hstage
    · exact h stage hstage v hv
    · obtain rfl := List.mem_singleton.1 hstage
      obtain rfl : u = v := Option.some.inj hv
      exact hm
  | resume i =>
    show (s.resume i).IsNetwork
    cases hi : s.callers[i]? with
    | none =>
      rw [resume_of_none hi]
      exact h
    | some stage =>
      rw [resume_of_some hi]
      intro stage' hstage' u hu
      rcases List.mem_or_eq_of_mem_set hstage' with hmem | rfl
      · exact h stage' hmem u hu
      · exact h stage (List.mem_of_getElem? hi) u (Stage.update?_resume hu)
  | remember lists =>
    obtain ⟨-, hs⟩ | ⟨-, hs⟩ := s.remember_cases lists <;> rw [hs] <;> exact h
  | republish =>
    obtain ⟨lists, -, -, hs⟩ | hs := s.republish_cases <;> rw [hs] <;> exact h

/-- Who writes something brings it from the network. -/
theorem IsNetwork.source_of_writes (h : s.IsNetwork) {m : Move} {a : Arrival}
    (ha : s.writes m = some a) : a.update.source = .network := by
  cases m with
  | resume i =>
    obtain ⟨stage, hi, hstage⟩ := Option.bind_eq_some_iff.1 ha
    refine h stage (List.mem_of_getElem? hi) a.update ?_
    cases stage with
    | writing b details =>
      obtain rfl : b = a := Option.some.inj hstage
      rfl
    | reading | glancing | waiting | looking | deciding | returned => cases hstage
  | arrive | remember | republish => cases ha

/-! ### What has been published and written -/

/-- What has been published and what has been written, over the slot that the data store had before.
What is published last is newer than all before. What is published and not yet written is about to
be. -/
structure Accounts (s : Scene) (slot : Option String) (published written : List Arrival) :
    Prop where
  increasing : published.Pairwise (·.delivery.lcut < ·.delivery.lcut)
  current_eq : s.catalog.current = published.getLast?.map (·.delivery.content)
  perm : published.Perm (written ++ s.callers.filterMap Stage.writing?)
  archive : ∃ d, s.catalog.archive = some d ∧ d.setFails = false ∧
    d.slot = (written.getLast?.map (·.update.text)).or slot

/-- The last of the arrivals is the newest one. -/
theorem lcut_le_of_getLast? {l : List Arrival}
    (h : l.Pairwise (·.delivery.lcut < ·.delivery.lcut)) {a b : Arrival}
    (hb : l.getLast? = some b) (ha : a ∈ l) : a.delivery.lcut ≤ b.delivery.lcut := by
  obtain ⟨before, rfl⟩ := List.getLast?_eq_some_iff.1 hb
  rcases List.mem_append.1 ha with ha | ha
  · exact Nat.le_of_lt ((List.pairwise_append.1 h).2.2 a ha b (List.mem_singleton_self b))
  · exact Nat.le_of_eq (by rw [List.mem_singleton.1 ha])

theorem eq_of_lcut_eq {l : List Arrival} (h : l.Pairwise (·.delivery.lcut < ·.delivery.lcut))
    {a b : Arrival} (ha : a ∈ l) (hb : b ∈ l) (hab : a.delivery.lcut = b.delivery.lcut) :
    a = b := by
  have hnodup : (l.map (·.delivery.lcut)).Nodup := List.pairwise_map.2 (h.imp Nat.ne_of_lt)
  exact List.inj_on_of_nodup_map hnodup ha hb hab

variable {slot : Option String} {published written : List Arrival}

theorem Accounts.perform (h : s.Accounts slot published written) (hnetwork : s.IsNetwork)
    (m : Move) :
    (s.perform m).Accounts slot (published ++ (s.publishes m).toList)
      (written ++ (s.writes m).toList) := by
  refine ⟨?_, ?_, ?_, ?_⟩
  · cases ha : s.publishes m with
    | none => simpa using h.increasing
    | some a =>
      refine List.pairwise_append.2 ⟨h.increasing, List.pairwise_singleton .., fun b hb c hc => ?_⟩
      obtain rfl : c = a := List.mem_singleton.1 hc
      have hlast : published.getLast? ≠ none := by
        intro hnone
        rw [List.getLast?_eq_none_iff.1 hnone] at hb
        cases hb
      obtain ⟨last, hlast⟩ := Option.ne_none_iff_exists'.1 hlast
      have hcurrent := h.current_eq
      rw [hlast] at hcurrent
      obtain ⟨t, ht, hcontent⟩ := Option.map_eq_some_iff.1 hcurrent
      have hnewer := (Option.filter_eq_some_iff.1 ha).2
      rw [ht] at hnewer
      have hlt : t.lcut < c.delivery.lcut := of_decide_eq_true hnewer
      have heq : t.lcut = last.delivery.lcut := (Prod.mk.inj hcontent).2
      have hle := lcut_le_of_getLast? h.increasing hlast hb
      omega
  · rw [current_perform, h.current_eq, List.getLast?_append]
    cases s.publishes m <;> simp
  · calc published ++ (s.publishes m).toList
      _ |>.Perm (written ++ s.callers.filterMap Stage.writing? ++ (s.publishes m).toList) :=
        h.perm.append_right _
      _ |>.Perm (written ++ ((s.publishes m).toList ++ s.callers.filterMap Stage.writing?)) := by
        rw [List.append_assoc]
        exact List.perm_append_comm.append_left _
      _ |>.Perm (written ++ ((s.writes m).toList ++
          (s.perform m).callers.filterMap Stage.writing?)) :=
        (writing_perform_perm s m).symm.append_left _
      _ |>.Perm (written ++ (s.writes m).toList ++
          (s.perform m).callers.filterMap Stage.writing?) := by
        rw [List.append_assoc]
  · obtain ⟨d, hd, hset, hslot⟩ := h.archive
    rw [archive_perform]
    cases ha : s.writes m with
    | none => exact ⟨d, hd, hset, by simpa using hslot⟩
    | some a =>
      refine ⟨d.write a.update.text (some a.update.receivedAt), ?_, ?_, ?_⟩
      · simp [writeThrough, hnetwork.source_of_writes ha, hd]
      · simp [DataStore.write, hset]
      · simp [DataStore.write, hset]

/-! ### Runs -/

/-- The scene before anything has happened, with a data store. -/
def fresh (store : DataStore) : Scene := { catalog := { archive := some store } }

theorem isNetwork_run (store : DataStore) {moves : List Move} (h : ∀ m ∈ moves, m.IsNetwork) :
    ((fresh store).run moves).IsNetwork :=
  List.foldlRecOn moves perform (fun _ hmem => absurd hmem List.not_mem_nil)
    fun _ hs m hm => hs.perform (h m hm)

theorem accounts_run {store : DataStore} (hset : store.setFails = false) {moves : List Move}
    (h : ∀ m ∈ moves, m.IsNetwork) :
    ((fresh store).run moves).Accounts store.slot ((fresh store).record publishes moves)
      ((fresh store).record writes moves) := by
  induction moves using List.reverseRecOn with
  | nil => exact ⟨.nil, rfl, .nil, store, rfl, hset, rfl⟩
  | append_singleton moves m ih =>
    have hmoves : ∀ x ∈ moves, x.IsNetwork := fun x hx => h x (by simp [hx])
    rw [run, record, record, List.foldl_concat, recordFrom_concat, recordFrom_concat]
    exact (ih hmoves).perform (isNetwork_run store hmoves) m

/-- The data store holds the text of what is published, which is one of the arrivals. -/
def HoldsPublished (c : Catalog) (published : List Arrival) : Prop :=
  ∃ a ∈ published, ∃ d, c.current = some a.delivery.content ∧ c.archive = some d ∧
    d.slot = some a.update.text

/-- The last arrival that was published is what the data store should hold. -/
theorem Accounts.holds_iff (h : s.Accounts slot published written)
    (hidle : s.callers.filterMap Stage.writing? = []) (hsome : published ≠ []) :
    HoldsPublished s.catalog published ↔ written.getLast? = published.getLast? := by
  obtain ⟨d, hd, -, hslot⟩ := h.archive
  have hperm : published.Perm written := by simpa [hidle] using h.perm
  obtain ⟨last, hlast⟩ : ∃ last, published.getLast? = some last :=
    ⟨_, List.getLast?_eq_some_getLast hsome⟩
  have hmem : last ∈ published := List.mem_of_getLast? hlast
  constructor
  · rintro ⟨a, ha, d', hcurrent, hd', htext⟩
    obtain rfl : d = d' := Option.some.inj (hd.symm.trans hd')
    -- What is published has the time of the arrival that was published last, so it is that one.
    have hcontent : a.delivery.content = last.delivery.content := by
      rw [h.current_eq, hlast] at hcurrent
      exact (Option.some.inj hcurrent).symm
    obtain rfl := eq_of_lcut_eq h.increasing ha hmem (Prod.mk.inj hcontent).2
    -- What was written last has the text, and so the time.
    have hwritten : written ≠ [] := fun hnil => hsome (hnil ▸ hperm).eq_nil
    obtain ⟨w, hw⟩ : ∃ w, written.getLast? = some w :=
      ⟨_, List.getLast?_eq_some_getLast hwritten⟩
    rw [hw] at hslot
    have hsame : w.update.text = a.update.text := Option.some.inj (hslot.symm.trans htext)
    have hw' : w ∈ published := hperm.mem_iff.2 (List.mem_of_getLast? hw)
    rw [hw, hlast, eq_of_lcut_eq h.increasing hw' ha (Arrival.lcut_eq_of_text_eq hsame)]
  · intro heq
    refine ⟨last, hmem, d, by rw [h.current_eq, hlast]; rfl, hd, ?_⟩
    rw [hslot, heq, hlast]
    rfl

/-- After calls with updates from the network that have come at one time and have all returned, at
least one of which has published something, the data store holds what is published if and only if
what was published last was also written last. -/
theorem holdsPublished_iff {store : DataStore} (hset : store.setFails = false) {moves : List Move}
    (hnetwork : ∀ m ∈ moves, m.IsNetwork)
    (hreturned : ∀ stage ∈ ((fresh store).run moves).callers, stage.hasReturned = true)
    (hsome : (fresh store).record publishes moves ≠ []) :
    HoldsPublished ((fresh store).run moves).catalog ((fresh store).record publishes moves) ↔
      ((fresh store).record writes moves).getLast? =
        ((fresh store).record publishes moves).getLast? := by
  refine (accounts_run hset hnetwork).holds_iff ?_ hsome
  refine List.filterMap_eq_nil_iff.2 fun stage hstage => ?_
  have hover := hreturned stage hstage
  cases stage with
  | returned => rfl
  | reading | glancing | waiting | looking | deciding | writing => cases hover

/-! ### A write that comes late -/

/-- An update from the network. -/
def fromNetwork (text : String) : Update := { text, source := .network, receivedAt := 1 }

/-- Two callers, the second of which brings the newer payload. They publish one after the other. -/
def twoPublish : List Move :=
  [.arrive (fromNetwork "\x7b\"time\":1\x7d"), .arrive (fromNetwork "\x7b\"time\":2\x7d"),
    .resume 0, .resume 0, .resume 0, .resume 0, .resume 1, .resume 1, .resume 1, .resume 1]

/-- What remains to be done after that: they write in the one order or in the other. -/
def thenWrite (i j : Nat) : List Move := twoPublish ++ [.resume i, .resume j]

theorem isNetwork_of_mem_thenWrite (i j : Nat) : ∀ m ∈ thenWrite i j, m.IsNetwork := by
  intro m hm
  rcases List.mem_append.1 hm with hm | hm
  · have hends : m = .arrive (fromNetwork "\x7b\"time\":1\x7d") ∨
        m = .arrive (fromNetwork "\x7b\"time\":2\x7d") ∨ m = .resume 0 ∨ m = .resume 1 := by
      simp only [twoPublish, List.mem_cons, List.not_mem_nil, or_false] at hm
      tauto
    obtain rfl | rfl | rfl | rfl := hends
    · exact rfl
    · exact rfl
    · trivial
    · trivial
  · have hends : m = .resume i ∨ m = .resume j := by simpa using hm
    obtain rfl | rfl := hends
    · trivial
    · trivial

theorem holdsPublished_iff_thenWrite :
    (({ key := "k" } : DataStore).setFails = false ∧
      (∀ m ∈ thenWrite 0 1, m.IsNetwork) ∧
      (∀ stage ∈ ((fresh { key := "k" }).run (thenWrite 0 1)).callers,
        stage.hasReturned = true) ∧
      (fresh { key := "k" }).record publishes (thenWrite 0 1) ≠ []) ∧
    HoldsPublished ((fresh { key := "k" }).run (thenWrite 0 1)).catalog
      ((fresh { key := "k" }).record publishes (thenWrite 0 1)) := by
  have hreturned : ∀ stage ∈ ((fresh { key := "k" }).run (thenWrite 0 1)).callers,
      stage.hasReturned = true := List.all_eq_true.1 (by decide +kernel)
  have hsome : (fresh { key := "k" }).record publishes (thenWrite 0 1) ≠ [] :=
    List.isEmpty_eq_false_iff.1 (by decide +kernel)
  have hnetwork := isNetwork_of_mem_thenWrite 0 1
  have hlast : (((fresh { key := "k" }).record writes (thenWrite 0 1)).getLast?).map (·.update) =
      (((fresh { key := "k" }).record publishes (thenWrite 0 1)).getLast?).map (·.update) := by
    decide +kernel
  exact ⟨⟨rfl, hnetwork, hreturned, hsome⟩,
    (holdsPublished_iff rfl hnetwork hreturned hsome).2
      (Option.map_injective Arrival.update_injective hlast)⟩

/-- The data store holds the older payload while the newer one is published. -/
theorem not_forall_holdsPublished :
    ¬ ∀ (store : DataStore) (moves : List Move), store.setFails = false →
      (∀ m ∈ moves, m.IsNetwork) →
      (∀ stage ∈ ((fresh store).run moves).callers, stage.hasReturned = true) →
      (fresh store).record publishes moves ≠ [] →
      HoldsPublished ((fresh store).run moves).catalog ((fresh store).record publishes moves) := by
  intro h
  have hreturned : ∀ stage ∈ ((fresh { key := "k" }).run (thenWrite 1 0)).callers,
      stage.hasReturned = true := List.all_eq_true.1 (by decide +kernel)
  have hsome : (fresh { key := "k" }).record publishes (thenWrite 1 0) ≠ [] :=
    List.isEmpty_eq_false_iff.1 (by decide +kernel)
  have hnetwork := isNetwork_of_mem_thenWrite 1 0
  obtain ⟨a, -, d, hcurrent, hd, htext⟩ := h _ _ rfl hnetwork hreturned hsome
  have htime : (((fresh { key := "k" }).run (thenWrite 1 0)).catalog.current).map (·.2) =
      some 2 := by decide +kernel
  have hslot : (((fresh { key := "k" }).run (thenWrite 1 0)).catalog.archive).bind (·.slot) =
      some "\x7b\"time\":1\x7d" := by decide +kernel
  rw [hcurrent] at htime
  rw [hd] at hslot
  have htext' : a.update.text = "\x7b\"time\":1\x7d" := Option.some.inj (htext.symm.trans hslot)
  have hpayload := Update.payload_of_delivery? a.made
  rw [htext'] at hpayload
  have hone : (Payload.ofText? "\x7b\"time\":1\x7d").bind (·.time) = some 1 := by decide +kernel
  rw [hpayload] at hone
  have hlcut : a.delivery.lcut = 1 := Option.get_of_eq_some a.delivery.timed hone
  have htwo : a.delivery.lcut = 2 := Option.some.inj htime
  omega

end Scene

end Catalog

end Rollout
