import Mathlib.Data.List.Induction
import Rollout.Proofs.Publication

/-!
# Calls on a catalog that come at one time

Callers may bring updates to a catalog at one time, while the id lists in sync are replaced by one
who does nothing else. Each of them makes the steps of its call one after another
(`Catalog.Stage.resume`), and others may come between any two of them (`Catalog.Scene.run`). To
publish something a caller waits until it is its turn, which nobody else has then
(`Catalog.Scene.isFree`); the id lists in sync can be looked up and remembered at any time.

A caller that is left alone does what `Catalog.apply` does (`Catalog.Scene.exists_run_apply`), and
who replaces the id lists what `Catalog.setIdLists` does (`Catalog.Scene.run_setIdLists`).
-/

namespace Rollout

/-- An update that makes a delivery. -/
structure Arrival where
  update : Update
  delivery : Delivery
  made : update.delivery? = some delivery

theorem Update.payload_of_delivery? {u : Update} {d : Delivery} (h : u.delivery? = some d) :
    Payload.ofText? u.text = some d.payload := by
  unfold delivery? at h
  cases hp : Payload.ofText? u.text with
  | none =>
    rw [hp] at h
    cases h
  | some payload =>
    rw [hp] at h
    dsimp only at h
    split at h
    · cases h
      rfl
    · cases h

theorem Arrival.update_injective : Function.Injective Arrival.update := by
  rintro ⟨u, d, hd⟩ ⟨v, e, he⟩ (rfl : u = v)
  obtain rfl : d = e := Option.some.inj (hd.symm.trans he)
  rfl

/-- What arrives with one text has one time. -/
theorem Arrival.lcut_eq_of_text_eq {a b : Arrival} (h : a.update.text = b.update.text) :
    a.delivery.lcut = b.delivery.lcut := by
  have ha := Update.payload_of_delivery? a.made
  have hb := Update.payload_of_delivery? b.made
  rw [h, hb] at ha
  exact (FirstNewest.lcut_eq_of_payload_eq (Option.some.inj ha)).symm

namespace Catalog

/-! ### Publishing with a look back -/

/-- Publish a delivery over id lists that were in sync some time ago. -/
def publishOver (c : Catalog) (seen : Dict IdList) (d : Delivery) :
    Except Failure Snapshot × Catalog :=
  let (result, after) :=
    { c with synced := seen }.publish d.payload d.lcut d.source d.receivedAt
  (result, { after with synced := c.synced })

/-- A delivery that is not newer than the published specs is refused, any other one is published. -/
theorem publishOver_cases (c : Catalog) (seen : Dict IdList) (d : Delivery) :
    (∃ s, c.snapshot = some s ∧ d.lcut ≤ s.lcut ∧
      c.publishOver seen d = (.error (.stale s.lcut d.lcut), c)) ∨
    ((∀ s, c.snapshot = some s → s.lcut < d.lcut) ∧
      c.publishOver seen d =
        (.ok (d.snapshot seen), { c with snapshot := some (d.snapshot seen) })) := by
  cases hs : c.snapshot with
  | none => exact .inr ⟨nofun, by simp [publishOver, publish, hs, Delivery.snapshot]⟩
  | some s =>
    by_cases hle : d.lcut ≤ s.lcut
    · refine .inl ⟨s, rfl, hle, ?_⟩
      simp only [publishOver, publish, hs, if_pos hle]
      rw [← hs]
    · refine .inr ⟨fun t ht => ?_, ?_⟩
      · obtain rfl := Option.some.inj ht
        omega
      · simp [publishOver, publish, hs, hle, Delivery.snapshot]

/-! ### Callers -/

/-- What a caller does next that brings an update. -/
inductive Stage where
  | reading (u : Update)
  /-- The payload has no updates. It remains to look what is published. -/
  | glancing
  /-- It waits until it is its turn. -/
  | waiting (a : Arrival)
  /-- It is its turn, and it looks up the id lists in sync. -/
  | looking (a : Arrival)
  /-- It publishes the payload over the id lists that it has seen, or is refused. Then its turn is
  over. -/
  | deciding (a : Arrival) (seen : Dict IdList)
  /-- It writes the payload to the data store. -/
  | writing (a : Arrival) (details : Details)
  | returned (result : Except Failure Details)

namespace Stage

/-- Whether it is the turn of the caller. -/
def isInside : Stage → Bool
  | .looking _ | .deciding _ _ => true
  | _ => false

/-- The stage of a caller that has read an update. -/
def read (u : Update) : Stage :=
  match h : u.delivery? with
  | some d => .waiting ⟨u, d, h⟩
  | none =>
    match Payload.ofText? u.text with
    | none => .returned (.error (.malformedPayload .unreadable))
    | some payload =>
      if payload.hasUpdates then .returned (.error (.malformedPayload .missingTime)) else .glancing

/-- The stage of a caller that has published something, or has been refused. -/
def decided (a : Arrival) : Except Failure Snapshot → Stage
  | .ok s => .writing a (s.details (.recognized s.source))
  | .error failure => .returned (.error failure)

/-- The next step of a caller, which is atomic, and the catalog after it. Nobody comes in before it
is free. -/
def resume (isFree : Bool) : Stage → Catalog → Stage × Catalog
  | .reading u, c => (read u, c)
  | .glancing, c =>
    (if isFree then .returned (.ok (detailsFor c.snapshot .recognized)) else .glancing, c)
  | .waiting a, c => (if isFree then .looking a else .waiting a, c)
  | .looking a, c => (.deciding a c.synced, c)
  | .deciding a seen, c =>
    let (result, c) := c.publishOver seen a.delivery
    (decided a result, c)
  | .writing a details, c =>
    (.returned (.ok details), c.writeThrough a.update.text a.update.source a.update.receivedAt)
  | .returned result, c => (.returned result, c)

/-- The arrival that a caller has published and not written yet. -/
def writing? : Stage → Option Arrival
  | .writing a _ => some a
  | _ => none

theorem read_of_some {u : Update} {d : Delivery} (h : u.delivery? = some d) :
    read u = .waiting ⟨u, d, h⟩ := by
  unfold read
  split
  · next d' hd =>
    obtain rfl := Option.some.inj (hd.symm.trans h)
    rfl
  · next hd => cases hd.symm.trans h

theorem read_of_none {u : Update} (h : u.delivery? = none) :
    read u = match Payload.ofText? u.text with
      | none => .returned (.error (.malformedPayload .unreadable))
      | some payload =>
        if payload.hasUpdates then .returned (.error (.malformedPayload .missingTime))
        else .glancing := by
  unfold read
  split
  · next hd => cases hd.symm.trans h
  · rfl

/-- A caller that has read an update waits with what arrives, or has nothing to publish. -/
theorem read_cases (u : Update) :
    (∃ a : Arrival, a.update = u ∧ read u = .waiting a) ∨
      read u = .glancing ∨ ∃ result, read u = .returned result := by
  cases h : u.delivery? with
  | some d => exact .inl ⟨⟨u, d, h⟩, rfl, read_of_some h⟩
  | none =>
    rw [read_of_none h]
    split
    · exact .inr (.inr ⟨_, rfl⟩)
    · split
      · exact .inr (.inr ⟨_, rfl⟩)
      · exact .inr (.inl rfl)

end Stage

/-! ### Interleavings -/

/-- A catalog with those who have been called upon to bring updates to it. -/
structure Scene where
  catalog : Catalog
  callers : List Stage := []
  /-- The id lists that have been remembered and have not been published yet. -/
  pending : Option (Dict IdList) := none

namespace Scene

/-- What can happen at one time. -/
inductive Move where
  /-- A caller sets about to bring an update. -/
  | arrive (u : Update)
  /-- A caller makes its next step. -/
  | resume (i : Nat)
  /-- The id lists in sync are replaced. -/
  | remember (lists : Dict IdList)
  /-- The specs are published again over the id lists that have replaced the others. -/
  | republish

/-- Whether it is nobody's turn. -/
def isFree (s : Scene) : Bool := s.callers.all (!·.isInside)

/-- The scene after the next step of a caller. -/
def resume (s : Scene) (i : Nat) : Scene :=
  match s.callers[i]? with
  | some stage =>
    let (stage, catalog) := stage.resume s.isFree s.catalog
    { s with catalog, callers := s.callers.set i stage }
  | none => s

/-- The scene after a move; a move that cannot be made changes nothing. The id lists are replaced by
one call after another. -/
def perform (s : Scene) : Move → Scene
  | .arrive u => { s with callers := s.callers ++ [.reading u] }
  | .resume i => s.resume i
  | .remember lists =>
    match s.pending with
    | none => { s with catalog := s.catalog.storeSynced lists, pending := some lists }
    | some _ => s
  | .republish =>
    match s.pending with
    | some lists =>
      if s.isFree then { s with catalog := s.catalog.republish lists, pending := none } else s
    | none => s

/-- The scene after a run. -/
abbrev run (s : Scene) (moves : List Move) : Scene := moves.foldl perform s

/-! ### What happens in a run -/

/-- The arrival that is decided on in a move. -/
def decides (s : Scene) : Move → Option Arrival
  | .resume i =>
    match s.callers[i]? with
    | some (.deciding a _) => some a
    | _ => none
  | _ => none

/-- The arrival that is published in a move. -/
def publishes (s : Scene) (m : Move) : Option Arrival :=
  (s.decides m).filter fun a => s.catalog.snapshot.all (·.lcut < a.delivery.lcut)

/-- The arrival that is written to the data store in a move. -/
def writes (s : Scene) : Move → Option Arrival
  | .resume i => s.callers[i]?.bind Stage.writing?
  | _ => none

/-- The id lists that replace those in sync in a move. -/
def remembers (s : Scene) : Move → Option (Dict IdList)
  | .remember lists => if s.pending.isNone then some lists else none
  | _ => none

/-- All that happens of a kind in a run, in order. -/
abbrev record {α : Type} (s : Scene) (kind : Scene → Move → Option α) (moves : List Move) :
    List α :=
  recordFrom perform (fun s m => (kind s m).toList) s moves

/-! ### Single steps -/

variable {s : Scene} {i : Nat} {stage : Stage}

/-- Id lists are replaced if none are pending, and are pending then. -/
theorem remember_cases (s : Scene) (lists : Dict IdList) :
    (s.pending = none ∧ s.perform (.remember lists) =
      { s with catalog := s.catalog.storeSynced lists, pending := some lists }) ∨
    (s.pending.isSome = true ∧ s.perform (.remember lists) = s) := by
  cases hp : s.pending with
  | none => exact .inl ⟨rfl, by simp only [perform, hp]⟩
  | some pending => exact .inr ⟨rfl, by simp only [perform, hp]⟩

/-- The specs are published again if id lists are pending and it is nobody's turn. -/
theorem republish_cases (s : Scene) :
    (∃ lists, s.pending = some lists ∧ s.isFree = true ∧ s.perform .republish =
      { s with catalog := s.catalog.republish lists, pending := none }) ∨
    s.perform .republish = s := by
  cases hp : s.pending with
  | none => exact .inr (by simp only [perform, hp])
  | some lists =>
    by_cases hfree : s.isFree = true
    · exact .inl ⟨lists, rfl, hfree, by simp only [perform, hp, if_pos hfree]⟩
    · exact .inr (by simp only [perform, hp, if_neg hfree])

theorem resume_of_some (h : s.callers[i]? = some stage) :
    s.resume i =
      { s with
        catalog := (stage.resume s.isFree s.catalog).2
        callers := s.callers.set i (stage.resume s.isFree s.catalog).1 } := by
  unfold resume
  rw [h]

theorem resume_of_none (h : s.callers[i]? = none) : s.resume i = s := by
  unfold resume
  rw [h]

theorem decides_resume (h : s.callers[i]? = some stage) :
    s.decides (.resume i) = match stage with
      | .deciding a _ => some a
      | _ => none := by
  simp only [decides, h]
  cases stage <;> rfl

/-- While it is nobody's turn, nobody is about to publish. -/
theorem not_mem_deciding_of_isFree (h : s.isFree = true) (a : Arrival) (seen : Dict IdList) :
    .deciding a seen ∉ s.callers := by
  intro hmem
  have hout := List.all_eq_true.1 h _ hmem
  cases hout

/-! ### Calls that are left alone -/

/-- A scene with one caller. -/
def alone (c : Catalog) (stage : Stage) : Scene := { catalog := c, callers := [stage] }

theorem exists_run_apply (c : Catalog) (u : Update) :
    ∃ moves, (alone c (.reading u)).run moves =
      alone (c.apply u.text u.source u.receivedAt).2
        (.returned (c.apply u.text u.source u.receivedAt).1) := by
  have hread : (alone c (.reading u)).run [.resume 0] = alone c (.read u) := rfl
  cases hu : u.delivery? with
  | none =>
    rw [Stage.read_of_none hu] at hread
    unfold Update.delivery? at hu
    cases hp : Payload.ofText? u.text with
    | none =>
      have happly : c.apply u.text u.source u.receivedAt =
          (.error (.malformedPayload .unreadable), c) := by simp [apply, hp]
      exact ⟨[.resume 0], by rw [hread, hp, happly]⟩
    | some payload =>
      simp only [hp] at hread hu
      cases hh : payload.hasUpdates with
      | false =>
        have happly : c.apply u.text u.source u.receivedAt =
            (.ok (detailsFor c.snapshot .recognized), c) := by simp [apply, hp, hh]
        refine ⟨[.resume 0, .resume 0], ?_⟩
        show ((alone c (.reading u)).run [.resume 0]).run [.resume 0] = _
        rw [hread, hh, happly]
        rfl
      | true =>
        have ht : payload.time = none := by
          cases ht : payload.time with
          | none => rfl
          | some lcut => simp [hh, ht] at hu
        have happly : c.apply u.text u.source u.receivedAt =
            (.error (.malformedPayload .missingTime), c) := by simp [apply, hp, hh, ht]
        exact ⟨[.resume 0], by rw [hread, hh, happly]; rfl⟩
  | some d =>
    -- The caller waits, enters, looks the id lists up and decides.
    have hdecide : (alone c (.reading u)).run [.resume 0, .resume 0, .resume 0, .resume 0] =
        alone (c.publishOver c.synced d).2 (.decided ⟨u, d, hu⟩ (c.publishOver c.synced d).1) := by
      show (alone c (.read u)).run [.resume 0, .resume 0, .resume 0] = _
      rw [Stage.read_of_some hu]
      rfl
    obtain ⟨hnone, -⟩ | ⟨d', hd', happly⟩ := apply_cases c u
    · cases hnone.symm.trans hu
    obtain rfl := Option.some.inj (hd'.symm.trans hu)
    obtain ⟨s, hs, hle, hpublish⟩ | ⟨hnewer, hpublish⟩ := publishOver_cases c c.synced d' <;>
      obtain ⟨t, ht, hle', happly⟩ | ⟨hnewer', happly⟩ := happly
    · obtain rfl := Option.some.inj (hs.symm.trans ht)
      exact ⟨_, hdecide.trans (by rw [hpublish, happly]; rfl)⟩
    · exact absurd (hnewer' s hs) (by omega)
    · exact absurd (hnewer t ht) (by omega)
    · refine ⟨[.resume 0, .resume 0, .resume 0, .resume 0, .resume 0], ?_⟩
      show ((alone c (.reading u)).run [.resume 0, .resume 0, .resume 0, .resume 0]).run
        [.resume 0] = _
      rw [hdecide, hpublish, happly]
      rfl

theorem run_setIdLists (c : Catalog) (lists : Dict IdList) :
    run { catalog := c } [.remember lists, .republish] = { catalog := c.setIdLists lists } := rfl

end Scene

end Catalog

end Rollout
