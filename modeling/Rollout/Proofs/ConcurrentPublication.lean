import Rollout.Proofs.Turns

/-!
# What calls publish that come at one time

Whatever calls come at one time, what is published is the first newest one of the deliveries that
have been decided on, over id lists that were in sync when somebody looked (`Catalog.Scene.Agrees`).
Who looks is inside; the id lists are published again when nobody is. So as soon as the ones in sync
have been published again, the snapshot lies over them.

What has been decided on is what the callers bring: the delivery of each caller that has got past
its turn, and no others (`Catalog.Scene.Tracks`).
-/

namespace Rollout

namespace Catalog

namespace Stage

/-- No step of a caller changes the id lists in sync. -/
theorem resume_synced (stage : Stage) (isFree : Bool) (c : Catalog) :
    (stage.resume isFree c).2.synced = c.synced := by
  cases stage with
  | writing => exact writeThrough_synced ..
  | reading | glancing | waiting | looking | deciding | returned => rfl

/-- Only a caller that decides changes what is published. -/
theorem resume_snapshot {stage : Stage} (h : ∀ a seen, stage ≠ .deciding a seen) (isFree : Bool)
    (c : Catalog) : (stage.resume isFree c).2.snapshot = c.snapshot := by
  cases stage with
  | deciding a seen => exact absurd rfl (h a seen)
  | writing => exact writeThrough_snapshot ..
  | reading | glancing | waiting | looking | returned => rfl

/-- Who comes to decide has just seen the id lists in sync. -/
theorem seen_of_resume {stage : Stage} {isFree : Bool} {c : Catalog} {a : Arrival}
    {seen : Dict IdList} (h : (stage.resume isFree c).1 = .deciding a seen) : seen = c.synced := by
  cases stage with
  | reading u =>
    change read u = _ at h
    obtain ⟨b, -, hb⟩ | hb | ⟨result, hb⟩ := read_cases u <;> rw [hb] at h <;> cases h
  | glancing | waiting => cases isFree <;> cases h
  | looking => exact (deciding.inj h).2.symm
  | deciding b seen' =>
    change decided b (c.publishOver seen' b.delivery).1 = _ at h
    cases hresult : (c.publishOver seen' b.delivery).1 <;> rw [hresult] at h <;> cases h
  | writing | returned => cases h

/-! ### Whose update is decided on -/

/-- Whether a caller has got past its turn, or has returned without one. -/
def isPast : Stage → Bool
  | .writing _ _ | .returned _ => true
  | _ => false

/-- The stage is one of bringing an update, and what arrives with it has been decided on when the
caller is past its turn. -/
def Brings (u : Update) (l : List Delivery) : Stage → Prop
  | .reading v => v = u
  | .glancing => u.delivery? = none
  | .waiting a | .looking a | .deciding a _ => a.update = u
  | .writing _ _ | .returned _ => ∀ d, u.delivery? = some d → d ∈ l

variable {u : Update} {l : List Delivery} {stage : Stage}

theorem Brings.mono (h : stage.Brings u l) {l' : List Delivery} (hl : l ⊆ l') :
    stage.Brings u l' := by
  cases stage with
  | writing | returned => exact fun d hd => hl (h d hd)
  | reading | glancing | waiting | looking | deciding => exact h

theorem Brings.mem_of_isPast (h : stage.Brings u l) (hpast : stage.isPast = true) {d : Delivery}
    (hd : u.delivery? = some d) : d ∈ l := by
  cases stage with
  | writing | returned => exact h d hd
  | reading | glancing | waiting | looking | deciding => cases hpast

/-- A step of a caller that does not decide. -/
theorem Brings.resume_of_undecided (h : stage.Brings u l)
    (hstage : ∀ a seen, stage ≠ .deciding a seen) (isFree : Bool) (c : Catalog) :
    (stage.resume isFree c).1.Brings u l := by
  cases stage with
  | reading v =>
    obtain rfl : v = u := h
    show (read v).Brings v l
    cases hv : v.delivery? with
    | some d =>
      rw [read_of_some hv]
      rfl
    | none =>
      rw [read_of_none hv]
      split
      · exact fun d hd => nomatch hv.symm.trans hd
      · split
        · exact fun d hd => nomatch hv.symm.trans hd
        · exact hv
  | glancing =>
    cases isFree with
    | true => exact fun d hd => nomatch (show u.delivery? = none from h).symm.trans hd
    | false => exact h
  | waiting a => cases isFree <;> exact h
  | looking | writing | returned => exact h
  | deciding a seen => exact absurd rfl (hstage a seen)

/-- A caller that decides is past its turn then, whatever comes of it. -/
theorem Brings.decided {a : Arrival} (h : a.update = u) (ha : a.delivery ∈ l)
    (result : Except Failure Snapshot) : (decided a result).Brings u l := by
  have hmem : ∀ d, u.delivery? = some d → d ∈ l := fun d hd => by
    obtain rfl : a.delivery = d := Option.some.inj (a.made.symm.trans (h ▸ hd))
    exact ha
  cases result <;> exact hmem

end Stage

namespace Scene

variable {s : Scene}

/-! ### One move -/

/-- What is published is what the deliveries that have been decided on leave. Unless id lists are
pending, it lies over the ones in sync, and whoever decides next has seen them. -/
structure Agrees (s : Scene) (l : List Delivery) : Prop where
  synced_of_pending : ∀ lists, s.pending = some lists → s.catalog.synced = lists
  seen_eq : s.pending = none → ∀ a seen, .deciding a seen ∈ s.callers → seen = s.catalog.synced
  nil_of_none : s.catalog.snapshot = none → l = []
  newest_of_some : ∀ t, s.catalog.snapshot = some t → ∃ d under, FirstNewest l d ∧
    t = d.snapshot under ∧ (s.pending = none → under = s.catalog.synced)

theorem agrees_empty (archive : Option DataStore) : Agrees { catalog := { archive } } [] :=
  ⟨nofun, fun _ _ _ h => absurd h List.not_mem_nil, fun _ => rfl, nofun⟩

/-- Nothing is published in a step of a caller that does not decide. -/
theorem Agrees.resume_of_undecided {l : List Delivery} (h : s.Agrees l) {i : Nat} {stage : Stage}
    (hi : s.callers[i]? = some stage) (hstage : ∀ a seen, stage ≠ .deciding a seen) :
    (s.resume i).Agrees l := by
  have hsnapshot := Stage.resume_snapshot hstage s.isFree s.catalog
  have hsynced := stage.resume_synced s.isFree s.catalog
  rw [resume_of_some hi]
  refine ⟨fun lists hl => ?_, fun hp a seen hmem => ?_, fun hn => ?_, fun t ht => ?_⟩
  · exact hsynced.trans (h.synced_of_pending lists hl)
  · show seen = (stage.resume s.isFree s.catalog).2.synced
    rw [hsynced]
    rcases List.mem_or_eq_of_mem_set hmem with hmem | heq
    · exact h.seen_eq hp a seen hmem
    · exact Stage.seen_of_resume heq.symm
  · exact h.nil_of_none (hsnapshot.symm.trans hn)
  · obtain ⟨d, under, hd, ht, hunder⟩ := h.newest_of_some t (hsnapshot.symm.trans ht)
    exact ⟨d, under, hd, ht, fun hp => (hunder hp).trans hsynced.symm⟩

/-- A caller that decides publishes what is newer than all before, or is refused. -/
theorem Agrees.resume_deciding {l : List Delivery} (h : s.Agrees l) {i : Nat} {a : Arrival}
    {seen : Dict IdList} (hi : s.callers[i]? = some (.deciding a seen)) :
    (s.resume i).Agrees (l ++ [a.delivery]) := by
  have hother : ∀ b seen' result,
      .deciding b seen' ∈ s.callers.set i (.decided a result) → .deciding b seen' ∈ s.callers := by
    intro b seen' result hmem
    rcases List.mem_or_eq_of_mem_set hmem with hmem | heq
    · exact hmem
    · cases result <;> cases heq
  have hmem : .deciding a seen ∈ s.callers := List.mem_of_getElem? hi
  rw [resume_of_some hi]
  show Agrees { s with
    catalog := (s.catalog.publishOver seen a.delivery).2
    callers := s.callers.set i (.decided a (s.catalog.publishOver seen a.delivery).1) } _
  obtain ⟨t, ht, hle, hpublish⟩ | ⟨hnewer, hpublish⟩ := publishOver_cases s.catalog seen a.delivery
  · rw [hpublish]
    refine ⟨h.synced_of_pending, fun hp b seen' hb => h.seen_eq hp b seen' (hother _ _ _ hb),
      fun hn => ?_, fun t' ht' => ?_⟩
    · rw [hn] at ht
      cases ht
    · obtain ⟨d, under, hd, hd', hunder⟩ := h.newest_of_some t' ht'
      obtain rfl : t = t' := Option.some.inj (ht.symm.trans ht')
      refine ⟨d, under, hd.append_of_le ?_, hd', hunder⟩
      rw [hd'] at hle
      exact hle
  · rw [hpublish]
    refine ⟨h.synced_of_pending, fun hp b seen' hb => h.seen_eq hp b seen' (hother _ _ _ hb),
      nofun, fun t ht => ⟨a.delivery, seen, FirstNewest.append_of_lt fun x hx => ?_,
        (Option.some.inj ht).symm, fun hp => h.seen_eq hp a seen hmem⟩⟩
    cases hs : s.catalog.snapshot with
    | none =>
      rw [h.nil_of_none hs] at hx
      cases hx
    | some t' =>
      obtain ⟨d, under, hd, rfl, -⟩ := h.newest_of_some t' hs
      exact Nat.lt_of_le_of_lt (hd.lcut_le hx) (hnewer _ hs)

theorem Agrees.perform {l : List Delivery} (h : s.Agrees l) (m : Move) :
    (s.perform m).Agrees (l ++ (s.decides m).toList.map (·.delivery)) := by
  cases m with
  | arrive u =>
    have hother : ∀ a seen, .deciding a seen ∈ s.callers ++ [.reading u] →
        .deciding a seen ∈ s.callers := by simp
    simp only [decides, Option.toList_none, List.map_nil, List.append_nil]
    exact ⟨h.synced_of_pending, fun hp a seen hmem => h.seen_eq hp a seen (hother a seen hmem),
      h.nil_of_none, h.newest_of_some⟩
  | resume i =>
    show (s.resume i).Agrees _
    cases hi : s.callers[i]? with
    | none => simpa [decides, resume_of_none hi, hi] using h
    | some stage =>
      rw [decides_resume hi]
      cases stage with
      | deciding a seen => exact h.resume_deciding hi
      | reading | glancing | waiting | looking | writing | returned =>
        simpa using h.resume_of_undecided hi (by simp)
  | remember lists =>
    simp only [decides, Option.toList_none, List.map_nil, List.append_nil]
    obtain ⟨-, hs⟩ | ⟨-, hs⟩ := s.remember_cases lists <;> rw [hs]
    · have hpending : some lists ≠ (none : Option (Dict IdList)) := Option.some_ne_none lists
      refine ⟨fun lists' hl => Option.some.inj hl, fun hnone => absurd hnone hpending,
        h.nil_of_none, fun t ht => ?_⟩
      obtain ⟨d, under, hd, ht, -⟩ := h.newest_of_some t ht
      exact ⟨d, under, hd, ht, fun hnone => absurd hnone hpending⟩
    · exact h
  | republish =>
    simp only [decides, Option.toList_none, List.map_nil, List.append_nil]
    obtain ⟨lists, hp, hfree, hs⟩ | hs := s.republish_cases <;> rw [hs]
    · have hsynced := h.synced_of_pending lists hp
      refine ⟨fun lists' hl => absurd hl.symm (Option.some_ne_none lists'),
        fun _ a seen hmem => absurd hmem (not_mem_deciding_of_isFree hfree a seen),
        fun hn => h.nil_of_none (Option.map_eq_none_iff.1 hn), fun t ht => ?_⟩
      obtain ⟨t', ht', rfl⟩ := Option.map_eq_some_iff.1 ht
      obtain ⟨d, under, hd, rfl, -⟩ := h.newest_of_some t' ht'
      exact ⟨d, lists, hd, rfl, fun _ => hsynced.symm⟩
    · exact h

/-! ### Whose deliveries are decided on -/

/-- The update that a caller sets about to bring. -/
def Move.update? : Move → Option Update
  | .arrive u => some u
  | _ => none

/-- Each of the updates has a caller, in order, and the deliveries are those of callers. -/
structure Tracks (s : Scene) (updates : List Update) (l : List Delivery) : Prop where
  length_eq : s.callers.length = updates.length
  brings : ∀ (i : Nat) u stage, updates[i]? = some u → s.callers[i]? = some stage →
    stage.Brings u l
  exists_of_mem : ∀ d ∈ l, ∃ u ∈ updates, u.delivery? = some d

variable {updates : List Update} {l : List Delivery}

/-- A step of one caller, after which there may be more deliveries that have been decided on. -/
theorem Tracks.resume_of_brings (h : s.Tracks updates l) {l' : List Delivery} (hl : l ⊆ l')
    {i : Nat} {stage : Stage} (hi : s.callers[i]? = some stage)
    (hnext : ∀ u, updates[i]? = some u → (stage.resume s.isFree s.catalog).1.Brings u l')
    (hmem : ∀ d ∈ l', ∃ u ∈ updates, u.delivery? = some d) : (s.resume i).Tracks updates l' := by
  rw [resume_of_some hi]
  refine ⟨by simpa using h.length_eq, fun j u stage' hu hj => ?_, hmem⟩
  by_cases hji : i = j
  · subst hji
    rw [List.getElem?_set_self (List.getElem?_eq_some_iff.1 hi).1] at hj
    cases hj
    exact hnext u hu
  · rw [List.getElem?_set_ne hji] at hj
    exact (h.brings j u stage' hu hj).mono hl

/-- A caller that decides brings a delivery of its own. -/
theorem Tracks.resume_deciding (h : s.Tracks updates l) {i : Nat} {a : Arrival}
    {seen : Dict IdList} (hi : s.callers[i]? = some (.deciding a seen)) :
    (s.resume i).Tracks updates (l ++ [a.delivery]) := by
  refine h.resume_of_brings (List.subset_append_left ..) hi (fun u hu => ?_) fun d hd => ?_
  · exact .decided (h.brings i u _ hu hi) (by simp) _
  · rcases List.mem_append.1 hd with hd | hd
    · exact h.exists_of_mem d hd
    · have hlt : i < updates.length := h.length_eq ▸ (List.getElem?_eq_some_iff.1 hi).1
      have ha : a.update = updates[i] := h.brings i _ _ (List.getElem?_eq_getElem hlt) hi
      obtain rfl := List.mem_singleton.1 hd
      exact ⟨_, List.getElem_mem hlt, ha ▸ a.made⟩

/-- A caller that arrives is the last one. -/
theorem Tracks.arrive (h : s.Tracks updates l) (u : Update) :
    (s.perform (.arrive u)).Tracks (updates ++ [u]) l := by
  refine ⟨?_, fun i v stage hv hi => ?_, fun d hd => ?_⟩
  · show (s.callers ++ [_]).length = _
    rw [List.length_append, List.length_append, h.length_eq]
    rfl
  · change (s.callers ++ [.reading u])[i]? = some stage at hi
    rw [List.getElem?_append] at hv hi
    rw [h.length_eq] at hi
    by_cases hlt : i < updates.length
    · rw [if_pos hlt] at hv hi
      exact h.brings i v stage hv hi
    · rw [if_neg hlt] at hv hi
      rw [List.getElem?_singleton, Option.ite_none_right_eq_some] at hv hi
      obtain rfl := Option.some.inj hv.2
      obtain rfl := Option.some.inj hi.2
      rfl
  · obtain ⟨v, hv, hd⟩ := h.exists_of_mem d hd
    exact ⟨v, List.mem_append_left _ hv, hd⟩

theorem Tracks.perform (h : s.Tracks updates l) (m : Move) :
    (s.perform m).Tracks (updates ++ m.update?.toList)
      (l ++ (s.decides m).toList.map (·.delivery)) := by
  cases m with
  | arrive u => simpa [decides, Move.update?] using h.arrive u
  | resume i =>
    show (s.resume i).Tracks (updates ++ []) _
    rw [List.append_nil]
    cases hi : s.callers[i]? with
    | none => simpa [decides, resume_of_none hi, hi] using h
    | some stage =>
      rw [decides_resume hi]
      cases stage with
      | deciding a seen => exact h.resume_deciding hi
      | reading | glancing | waiting | looking | writing | returned =>
        simpa using h.resume_of_brings (List.Subset.refl l) hi
          (fun u hu => (h.brings i u _ hu hi).resume_of_undecided (by simp) _ _) h.exists_of_mem
  | remember lists =>
    simp only [decides, Move.update?, Option.toList_none, List.map_nil, List.append_nil]
    obtain ⟨-, hs⟩ | ⟨-, hs⟩ := s.remember_cases lists <;> rw [hs]
    · exact ⟨h.length_eq, h.brings, h.exists_of_mem⟩
    · exact h
  | republish =>
    simp only [decides, Move.update?, Option.toList_none, List.map_nil, List.append_nil]
    obtain ⟨lists, -, -, hs⟩ | hs := s.republish_cases <;> rw [hs]
    · exact ⟨h.length_eq, h.brings, h.exists_of_mem⟩
    · exact h

/-! ### Runs -/

/-- The updates that callers have set about to bring in a run, in order. -/
def brought (moves : List Move) : List Update := moves.filterMap Move.update?

/-- The deliveries that have been decided on in a run, published or refused. -/
def decided (s : Scene) (moves : List Move) : List Delivery :=
  (s.record decides moves).map (·.delivery)

theorem agrees_run (archive : Option DataStore) (moves : List Move) :
    (run { catalog := { archive } } moves).Agrees (decided { catalog := { archive } } moves) := by
  induction moves using List.reverseRecOn with
  | nil => exact agrees_empty archive
  | append_singleton moves m ih =>
    unfold decided at ih ⊢
    rw [run, record, List.foldl_concat, recordFrom_concat, List.map_append]
    exact ih.perform m

theorem tracks_run (archive : Option DataStore) (moves : List Move) :
    (run { catalog := { archive } } moves).Tracks (brought moves)
      (decided { catalog := { archive } } moves) := by
  induction moves using List.reverseRecOn with
  | nil => exact ⟨rfl, fun _ _ _ h => (nomatch h), fun _ h => (nomatch h)⟩
  | append_singleton moves m ih =>
    unfold decided brought at ih ⊢
    rw [run, record, List.foldl_concat, recordFrom_concat, List.map_append, filterMap_concat]
    exact ih.perform m

theorem synced_perform (s : Scene) (m : Move) :
    (s.perform m).catalog.synced = (s.remembers m).getD s.catalog.synced := by
  cases m with
  | arrive u => rfl
  | resume i =>
    show (s.resume i).catalog.synced = _
    cases hi : s.callers[i]? with
    | none => rw [resume_of_none hi]; rfl
    | some stage =>
      rw [resume_of_some hi]
      exact stage.resume_synced s.isFree s.catalog
  | remember lists =>
    show _ = (if s.pending.isNone then some lists else none).getD _
    obtain ⟨hp, hs⟩ | ⟨hp, hs⟩ := s.remember_cases lists
    · rw [hs, hp]
      rfl
    · rw [hs, if_neg (by simpa using Option.isSome_iff_ne_none.1 hp)]
      rfl
  | republish =>
    obtain ⟨lists, -, -, hs⟩ | hs := s.republish_cases <;> rw [hs] <;> rfl

/-- The id lists in sync are the last ones that have replaced others. -/
theorem synced_run (archive : Option DataStore) (moves : List Move) :
    (run { catalog := { archive } } moves).catalog.synced =
      ((record { catalog := { archive } } remembers moves).getLast?).getD ∅ := by
  induction moves using List.reverseRecOn with
  | nil => rfl
  | append_singleton moves m ih =>
    rw [run, record, List.foldl_concat, recordFrom_concat, synced_perform, ih, List.getLast?_append]
    cases remembers (run { catalog := { archive } } moves) m <;> simp

/-- The time of the published specs never decreases. -/
theorem exists_lcut_le_of_prefix (archive : Option DataStore) {before moves : List Move}
    (hp : before <+: moves) {t : Snapshot}
    (ht : (run { catalog := { archive } } before).catalog.snapshot = some t) :
    ∃ t', (run { catalog := { archive } } moves).catalog.snapshot = some t' ∧ t.lcut ≤ t'.lcut := by
  obtain ⟨after, rfl⟩ := hp
  obtain ⟨d, under, hd, rfl, -⟩ := (agrees_run archive before).newest_of_some t ht
  have hmem : d ∈ decided { catalog := { archive } } (before ++ after) := by
    unfold decided
    rw [record, recordFrom_append, List.map_append]
    exact List.mem_append_left _ hd.mem
  have hlater := agrees_run archive (before ++ after)
  cases ht' : (run { catalog := { archive } } (before ++ after)).catalog.snapshot with
  | none =>
    rw [hlater.nil_of_none ht'] at hmem
    cases hmem
  | some t' =>
    obtain ⟨d', under', hd', rfl, -⟩ := hlater.newest_of_some t' ht'
    exact ⟨_, rfl, hd'.lcut_le hmem⟩

/-- Whatever calls come at one time, the time of the published specs never decreases. The deliveries
that have been decided on are those of callers, each of which is among them once its caller is past
its turn. Whenever no id lists are pending, the snapshot is that of the first newest one of them,
even while it is the turn of somebody who has not decided yet: its own id lists lie over those in
sync, which are the last ones that have replaced others. -/
theorem run_publishes_over_synced (archive : Option DataStore) (moves : List Move) :
    (∀ before, before <+: moves → ∀ t,
      (run { catalog := { archive } } before).catalog.snapshot = some t →
      ∃ t', (run { catalog := { archive } } moves).catalog.snapshot = some t' ∧
        t.lcut ≤ t'.lcut) ∧
    ((run { catalog := { archive } } moves).callers.length = (brought moves).length ∧
      (∀ (i : Nat) u d stage, (brought moves)[i]? = some u → u.delivery? = some d →
        (run { catalog := { archive } } moves).callers[i]? = some stage → stage.isPast = true →
        d ∈ decided { catalog := { archive } } moves) ∧
      ∀ d ∈ decided { catalog := { archive } } moves,
        ∃ u ∈ brought moves, u.delivery? = some d) ∧
    (run { catalog := { archive } } moves).catalog.synced =
      ((record { catalog := { archive } } remembers moves).getLast?).getD ∅ ∧
    ((run { catalog := { archive } } moves).pending = none →
      (decided { catalog := { archive } } moves = [] ∧
        (run { catalog := { archive } } moves).catalog.snapshot = none) ∨
      ∃ d t, FirstNewest (decided { catalog := { archive } } moves) d ∧
        (run { catalog := { archive } } moves).catalog.snapshot = some t ∧
        t.payload = d.payload ∧ t.lcut = d.lcut ∧ t.source = d.source ∧
        t.receivedAt = d.receivedAt ∧
        ∀ name, t.idLists.get? name =
          ((d.payload.idLists.get? name).bind (·.list? name)).or
            ((run { catalog := { archive } } moves).catalog.synced.get? name)) := by
  have htracks := tracks_run archive moves
  refine ⟨fun before hp t ht => exists_lcut_le_of_prefix archive hp ht,
    ⟨htracks.length_eq, fun i u d stage hu hd hi hpast => ?_, htracks.exists_of_mem⟩,
    synced_run archive moves, fun hpending => ?_⟩
  · exact (htracks.brings i u stage hu hi).mem_of_isPast hpast hd
  have h := agrees_run archive moves
  cases ht : (run { catalog := { archive } } moves).catalog.snapshot with
  | none => exact .inl ⟨h.nil_of_none ht, rfl⟩
  | some t =>
    obtain ⟨d, under, hd, rfl, hunder⟩ := h.newest_of_some t ht
    refine .inr ⟨d, _, hd, rfl, rfl, rfl, rfl, rfl, fun name => ?_⟩
    rw [hunder hpending]
    exact d.get?_snapshot_idLists _ name

end Scene

end Catalog

end Rollout
