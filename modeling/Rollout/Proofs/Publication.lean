import Mathlib.Data.List.Induction
import Mathlib.Data.List.Nodup
import Rollout.Catalog
import Rollout.Proofs.Runs

/-!
# What a catalog publishes

A history is the list of calls on a catalog, in order. `Call.deliveries` are the payloads of a
history that can be published, and `Call.latestLists` the id lists in sync at its end. After every
history the snapshot is made of the first of the newest deliveries, with its own id lists over the
ones in sync (`Publishes`, `publishes_run`). Nothing else of a history shows in the catalog.
-/

namespace Rollout

/-! ### Deliveries -/

/-- A payload that can be published, with what was said of it when it arrived. -/
structure Delivery where
  payload : Payload
  source : Source
  receivedAt : Nat
  timed : payload.time.isSome

/-- The time of the payload. -/
def Delivery.lcut (d : Delivery) : Nat := d.payload.time.get d.timed

/-- The delivery that an update makes: its text is a payload that has updates and a time. -/
def Update.delivery? (u : Update) : Option Delivery :=
  match Payload.ofText? u.text with
  | none => none
  | some payload =>
    if h : payload.hasUpdates ∧ payload.time.isSome then
      some ⟨payload, u.source, u.receivedAt, h.2⟩
    else none

/-- The snapshot of a delivery over the id lists in sync. -/
def Delivery.snapshot (d : Delivery) (synced : Dict IdList) : Snapshot :=
  { payload := d.payload, idLists := synced.overlay d.payload.inlineIdLists, source := d.source,
    lcut := d.lcut, receivedAt := d.receivedAt }

/-- An id list of a snapshot is the one that the payload holds itself under that name, else the one
in sync. -/
theorem Delivery.get?_snapshot_idLists (d : Delivery) (synced : Dict IdList) (name : String) :
    (d.snapshot synced).idLists.get? name =
      ((d.payload.idLists.get? name).bind (·.list? name)).or (synced.get? name) := by
  unfold snapshot
  rw [Dict.get?_overlay, Payload.get?_inlineIdLists]

/-- `d` is the first of the newest deliveries of the list. -/
def FirstNewest (l : List Delivery) (d : Delivery) : Prop :=
  ∃ before after, l = before ++ d :: after ∧ (∀ e ∈ before, e.lcut < d.lcut) ∧
    ∀ e ∈ after, e.lcut ≤ d.lcut

namespace FirstNewest

variable {l l' : List Delivery} {d d' e : Delivery}

theorem mem (h : FirstNewest l d) : d ∈ l := by
  obtain ⟨before, after, rfl, -, -⟩ := h
  simp

theorem lcut_le (h : FirstNewest l d) (he : e ∈ l) : e.lcut ≤ d.lcut := by
  obtain ⟨before, after, rfl, hb, ha⟩ := h
  rcases List.mem_append.1 he with he | he
  · exact Nat.le_of_lt (hb e he)
  · rcases List.mem_cons.1 he with rfl | he
    · exact Nat.le_refl _
    · exact ha e he

theorem append_of_le (h : FirstNewest l d) (he : e.lcut ≤ d.lcut) : FirstNewest (l ++ [e]) d := by
  obtain ⟨before, after, rfl, hb, ha⟩ := h
  refine ⟨before, after ++ [e], by simp, hb, fun x hx => ?_⟩
  rcases List.mem_append.1 hx with hx | hx
  · exact ha x hx
  · obtain rfl := List.mem_singleton.1 hx
    exact he

theorem append_of_lt (h : ∀ x ∈ l, x.lcut < e.lcut) : FirstNewest (l ++ [e]) e :=
  ⟨l, [], rfl, h, by simp⟩

/-- Two deliveries of one payload have one time. -/
theorem lcut_eq_of_payload_eq (h : d.payload = e.payload) : d.lcut = e.lcut := by
  unfold Delivery.lcut
  congr 1
  rw [h]

/-- The payload of the newest delivery does not hang on the order in which payloads of distinct
times arrive. -/
theorem payload_eq_of_perm (h : FirstNewest l d) (h' : FirstNewest l' d')
    (hp : (l'.map (·.payload)).Perm (l.map (·.payload))) (hn : (l.map (·.lcut)).Nodup) :
    d'.payload = d.payload := by
  obtain ⟨e, he, hed⟩ := List.mem_map.1 (hp.mem_iff.1 (List.mem_map_of_mem h'.mem))
  obtain ⟨e', he', hed'⟩ := List.mem_map.1 (hp.mem_iff.2 (List.mem_map_of_mem h.mem))
  have hle := h.lcut_le he
  have hle' := h'.lcut_le he'
  rw [lcut_eq_of_payload_eq hed] at hle
  rw [lcut_eq_of_payload_eq hed'] at hle'
  have hlcut : e.lcut = d.lcut := (lcut_eq_of_payload_eq hed).trans (Nat.le_antisymm hle hle')
  rw [← hed, List.inj_on_of_nodup_map hn he h.mem hlcut]

end FirstNewest

namespace Catalog

/-! ### Histories -/

/-- A call on a catalog. -/
inductive Call where
  | apply (u : Update)
  | setIdLists (lists : Dict IdList)

namespace Call

def delivery? : Call → Option Delivery
  | .apply u => u.delivery?
  | .setIdLists _ => none

def idLists? : Call → Option (Dict IdList)
  | .apply _ => none
  | .setIdLists lists => some lists

/-- The payloads of a history that can be published. -/
def deliveries (calls : List Call) : List Delivery := calls.filterMap delivery?

/-- The id lists in sync at the end of a history. -/
def latestLists (calls : List Call) : Dict IdList := (calls.filterMap idLists?).getLast?.getD ∅

theorem deliveries_concat (calls : List Call) (call : Call) :
    deliveries (calls ++ [call]) = deliveries calls ++ call.delivery?.toList :=
  filterMap_concat ..

theorem latestLists_concat (calls : List Call) (call : Call) :
    latestLists (calls ++ [call]) = call.idLists?.getD (latestLists calls) := by
  unfold latestLists
  rw [filterMap_concat]
  cases call.idLists? <;> simp

end Call

open Call

/-- The catalog after a call. -/
def after (c : Catalog) : Call → Catalog
  | .apply u => (c.apply u.text u.source u.receivedAt).2
  | .setIdLists lists => c.setIdLists lists

/-- The catalog after a history. -/
abbrev run (c : Catalog) (calls : List Call) : Catalog := calls.foldl after c

/-! ### One call -/

theorem writeThrough_snapshot (c : Catalog) (text : String) (source : Source) (receivedAt : Nat) :
    (c.writeThrough text source receivedAt).snapshot = c.snapshot := by
  unfold writeThrough
  split <;> rfl

theorem writeThrough_synced (c : Catalog) (text : String) (source : Source) (receivedAt : Nat) :
    (c.writeThrough text source receivedAt).synced = c.synced := by
  unfold writeThrough
  split <;> rfl

/-- What an update does to a catalog: one that makes no delivery changes nothing, one that is not
newer than the published specs is refused, and any other is published. -/
theorem apply_cases (c : Catalog) (u : Update) :
    (u.delivery? = none ∧ (c.apply u.text u.source u.receivedAt).2 = c) ∨
    ∃ d, u.delivery? = some d ∧
      ((∃ s, c.snapshot = some s ∧ d.lcut ≤ s.lcut ∧
        c.apply u.text u.source u.receivedAt = (.error (.stale s.lcut d.lcut), c)) ∨
       (∀ s, c.snapshot = some s → s.lcut < d.lcut) ∧
        c.apply u.text u.source u.receivedAt =
          (.ok ((d.snapshot c.synced).details (.recognized d.source)),
            { c with snapshot := some (d.snapshot c.synced) }.writeThrough
              u.text u.source u.receivedAt)) := by
  cases hp : Payload.ofText? u.text with
  | none => exact .inl ⟨by simp [Update.delivery?, hp], by simp [apply, hp]⟩
  | some payload =>
    cases hu : payload.hasUpdates with
    | false => exact .inl ⟨by simp [Update.delivery?, hp, hu], by simp [apply, hp, hu]⟩
    | true =>
      cases ht : payload.time with
      | none => exact .inl ⟨by simp [Update.delivery?, hp, ht], by simp [apply, hp, hu, ht]⟩
      | some lcut =>
        let d : Delivery := ⟨payload, u.source, u.receivedAt, by simp [ht]⟩
        have hd : d.lcut = lcut := by simp [d, Delivery.lcut, ht]
        refine .inr ⟨d, by simp [Update.delivery?, hp, hu, ht, d], ?_⟩
        rw [hd]
        cases hs : c.snapshot with
        | none =>
          refine .inr ⟨by simp, ?_⟩
          simp [apply, hp, hu, ht, publish, hs, Delivery.snapshot, hd, d]
        | some s =>
          by_cases hle : lcut ≤ s.lcut
          · exact .inl ⟨s, rfl, hle, by simp [apply, hp, hu, ht, publish, hs, hle]⟩
          · refine .inr ⟨fun t h => ?_, ?_⟩
            · obtain rfl := Option.some.inj h
              exact Nat.lt_of_not_le hle
            · simp [apply, hp, hu, ht, publish, hs, hle, Delivery.snapshot, hd, d]

/-- An update that is answered with a failure, or whose payload has no updates, changes nothing. -/
theorem apply_eq_self_of_error_or_noUpdates (c : Catalog) (u : Update)
    (h : (∃ f, (c.apply u.text u.source u.receivedAt).1 = .error f) ∨
      ∃ p, Payload.ofText? u.text = some p ∧ p.hasUpdates = false) :
    (c.apply u.text u.source u.receivedAt).2 = c := by
  rcases apply_cases c u with ⟨-, hc⟩ | ⟨d, hd, ⟨s, -, -, ha⟩ | ⟨-, ha⟩⟩
  · exact hc
  · rw [ha]
  · rcases h with ⟨f, hf⟩ | ⟨p, hp, hu⟩
    · rw [ha] at hf
      cases hf
    · simp [Update.delivery?, hp, hu] at hd

/-- An update that is answered with a failure changes nothing. -/
theorem receive_of_error {c : Catalog} {u : Update} {failure : Failure}
    (h : (c.receive u).1 = .error failure) : (c.receive u).2 = c := by
  unfold receive at h
  cases hresult : (c.apply u.text u.source u.receivedAt).1 with
  | ok details =>
    dsimp only at h
    rw [hresult] at h
    cases h
  | error failure' => exact c.apply_eq_self_of_error_or_noUpdates u (.inl ⟨failure', hresult⟩)

/-! ### Histories -/

/-- The catalog is what a history with these deliveries and id lists leaves. -/
structure Publishes (c : Catalog) (l : List Delivery) (synced : Dict IdList) : Prop where
  synced_eq : c.synced = synced
  nil_of_none : c.snapshot = none → l = []
  newest_of_some : ∀ s, c.snapshot = some s → ∃ d, FirstNewest l d ∧ s = d.snapshot synced

theorem publishes_empty (archive : Option DataStore) : Publishes { archive } [] ∅ :=
  ⟨rfl, fun _ => rfl, by simp⟩

/-- One call keeps account of what is published. -/
theorem Publishes.after {c : Catalog} {l : List Delivery} {synced : Dict IdList}
    (h : Publishes c l synced) (call : Call) :
    Publishes (c.after call) (l ++ call.delivery?.toList) (call.idLists?.getD synced) := by
  cases call with
  | setIdLists lists =>
    refine ⟨rfl, fun hn => ?_, fun s hs => ?_⟩
    · simpa [delivery?] using h.nil_of_none (Option.map_eq_none_iff.1 hn)
    · obtain ⟨s', hs', rfl⟩ := Option.map_eq_some_iff.1 hs
      obtain ⟨d, hd, rfl⟩ := h.newest_of_some s' hs'
      exact ⟨d, by simpa [delivery?] using hd, rfl⟩
  | apply u =>
    simp only [Catalog.after, delivery?, idLists?, Option.getD_none]
    rcases apply_cases c u with ⟨hu, hc⟩ | ⟨d, hu, ⟨s, hs, hle, hc⟩ | ⟨hlt, hc⟩⟩
    · rw [hu, hc]
      simpa using h
    · rw [hu, hc]
      refine ⟨h.synced_eq, fun hn => ?_, fun t ht => ?_⟩
      · rw [hn] at hs
        cases hs
      · obtain ⟨e, he, rfl⟩ := h.newest_of_some t ht
        obtain rfl := Option.some.inj (hs.symm.trans ht)
        exact ⟨e, he.append_of_le hle, rfl⟩
    · rw [hu, hc]
      refine ⟨?_, fun hn => ?_, fun t ht => ⟨d, ?_, ?_⟩⟩
      · rw [writeThrough_synced]
        exact h.synced_eq
      · rw [writeThrough_snapshot] at hn
        cases hn
      · refine FirstNewest.append_of_lt fun x hx => ?_
        cases hs : c.snapshot with
        | none =>
          rw [h.nil_of_none hs] at hx
          cases hx
        | some s =>
          obtain ⟨e, he, rfl⟩ := h.newest_of_some s hs
          exact Nat.lt_of_le_of_lt (he.lcut_le hx) (hlt _ hs)
      · rw [writeThrough_snapshot] at ht
        rw [← Option.some.inj ht, h.synced_eq]

/-- Every history leaves the first of its newest deliveries published. -/
theorem publishes_run (archive : Option DataStore) (calls : List Call) :
    Publishes (run { archive } calls) (deliveries calls) (latestLists calls) := by
  induction calls using List.reverseRecOn with
  | nil => exact publishes_empty archive
  | append_singleton calls call ih =>
    rw [run, List.foldl_concat, deliveries_concat, latestLists_concat]
    exact ih.after call

/-- The time of the published specs never decreases. -/
theorem lcut_le_of_prefix (archive : Option DataStore) {before calls : List Call}
    (hp : before <+: calls) {s : Snapshot} (hs : (run { archive } before).snapshot = some s) :
    ∃ s', (run { archive } calls).snapshot = some s' ∧ s.lcut ≤ s'.lcut := by
  obtain ⟨d, hd, rfl⟩ := (publishes_run archive before).newest_of_some s hs
  have hmem : d ∈ deliveries calls := by
    obtain ⟨rest, rfl⟩ := hp
    unfold deliveries
    rw [List.filterMap_append]
    exact List.mem_append_left _ hd.mem
  cases hs' : (run { archive } calls).snapshot with
  | none =>
    rw [(publishes_run archive calls).nil_of_none hs'] at hmem
    cases hmem
  | some s' =>
    obtain ⟨d', hd', rfl⟩ := (publishes_run archive calls).newest_of_some s' hs'
    exact ⟨_, rfl, hd'.lcut_le hmem⟩

/-- Histories that deliver the same payloads, of distinct times, in whatever order leave the same
specs, and with the same id lists in sync the same id lists. -/
theorem snapshot_eq_of_perm (archive archive' : Option DataStore) {calls calls' : List Call}
    (hp : ((deliveries calls').map (·.payload)).Perm ((deliveries calls).map (·.payload)))
    (hn : ((deliveries calls).map (·.lcut)).Nodup) :
    (run { archive := archive' } calls').snapshot.map (fun s => (s.payload, s.lcut)) =
        (run { archive } calls).snapshot.map (fun s => (s.payload, s.lcut)) ∧
      (latestLists calls' = latestLists calls →
        (run { archive := archive' } calls').snapshot.map (·.idLists) =
          (run { archive } calls).snapshot.map (·.idLists)) := by
  have h := publishes_run archive calls
  have h' := publishes_run archive' calls'
  have hnil : deliveries calls' = [] ↔ deliveries calls = [] := by
    have hlen := hp.length_eq
    simp only [List.length_map] at hlen
    rw [← List.length_eq_zero_iff, ← List.length_eq_zero_iff, hlen]
  cases hs : (run { archive } calls).snapshot with
  | none =>
    have hs' : (run { archive := archive' } calls').snapshot = none := by
      by_contra hne
      obtain ⟨s', hs'⟩ := Option.ne_none_iff_exists'.1 hne
      obtain ⟨d', hd', -⟩ := h'.newest_of_some s' hs'
      have hmem := hd'.mem
      rw [hnil.2 (h.nil_of_none hs)] at hmem
      cases hmem
    rw [hs']
    exact ⟨rfl, fun _ => rfl⟩
  | some s =>
    obtain ⟨d, hd, rfl⟩ := h.newest_of_some s hs
    cases hs' : (run { archive := archive' } calls').snapshot with
    | none =>
      have hmem := hd.mem
      rw [hnil.1 (h'.nil_of_none hs')] at hmem
      cases hmem
    | some s' =>
      obtain ⟨d', hd', rfl⟩ := h'.newest_of_some s' hs'
      have hpay : d'.payload = d.payload := hd.payload_eq_of_perm hd' hp hn
      have hlcut : d'.lcut = d.lcut := FirstNewest.lcut_eq_of_payload_eq hpay
      refine ⟨by simp [Delivery.snapshot, hpay, hlcut], fun hl => ?_⟩
      simp [Delivery.snapshot, hpay, hl]

/-- What a history of calls on an empty catalog leaves: the snapshot of the first newest delivery,
with what its call said of it, over the id lists in sync; an update that is refused or has no
updates leaves no trace; times never decrease; and the order of payloads of distinct times does not
matter. -/
theorem run_publishes_first_newest (archive : Option DataStore) (calls : List Call) :
    ((deliveries calls = [] ∧ (run { archive } calls).snapshot = none) ∨
      ∃ d s, FirstNewest (deliveries calls) d ∧ (run { archive } calls).snapshot = some s ∧
        s.payload = d.payload ∧ s.lcut = d.lcut ∧ s.source = d.source ∧
        s.receivedAt = d.receivedAt ∧
        ∀ name, s.idLists.get? name =
          ((d.payload.idLists.get? name).bind (·.list? name)).or
            ((latestLists calls).get? name)) ∧
    (run { archive } calls).synced = latestLists calls ∧
    (∀ u : Update,
      ((∃ f, ((run { archive } calls).apply u.text u.source u.receivedAt).1 = .error f) ∨
        ∃ p, Payload.ofText? u.text = some p ∧ p.hasUpdates = false) →
      run { archive } (calls ++ [.apply u]) = run { archive } calls) ∧
    (∀ before, before <+: calls → ∀ s, (run { archive } before).snapshot = some s →
      ∃ s', (run { archive } calls).snapshot = some s' ∧ s.lcut ≤ s'.lcut) ∧
    ∀ (archive' : Option DataStore) (calls' : List Call),
      ((deliveries calls').map (·.payload)).Perm ((deliveries calls).map (·.payload)) →
      ((deliveries calls).map (·.lcut)).Nodup →
      (run { archive := archive' } calls').snapshot.map (fun s => (s.payload, s.lcut)) =
          (run { archive } calls).snapshot.map (fun s => (s.payload, s.lcut)) ∧
        (latestLists calls' = latestLists calls →
          (run { archive := archive' } calls').snapshot.map (·.idLists) =
            (run { archive } calls).snapshot.map (·.idLists)) := by
  have h := publishes_run archive calls
  refine ⟨?_, h.synced_eq, fun u hu => ?_, fun before hb s hs => lcut_le_of_prefix archive hb hs,
    fun archive' calls' hp hn => snapshot_eq_of_perm archive archive' hp hn⟩
  · cases hs : (run { archive } calls).snapshot with
    | none => exact .inl ⟨h.nil_of_none hs, rfl⟩
    | some s =>
      obtain ⟨d, hd, rfl⟩ := h.newest_of_some s hs
      exact .inr ⟨d, _, hd, rfl, rfl, rfl, rfl, rfl, d.get?_snapshot_idLists _⟩
  · rw [run, List.foldl_concat]
    exact apply_eq_self_of_error_or_noUpdates _ u hu

end Catalog

end Rollout
