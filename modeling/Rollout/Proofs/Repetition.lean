import Mathlib.Data.List.Dedup
import Mathlib.Data.List.Induction
import Mathlib.Data.List.Perm.Subperm
import Rollout.EventLog

/-!
# Repeated exposures

An exposure is logged unless one with its key was logged of late. The key is meant to say what was
shown to whom (`Showing.identity`), so that nothing but repetitions is left out. It falls short of
that in two ways: it does not say whether the rule of a config passed, and it joins texts by signs
that may occur in them.

So within a window just the repetitions are left out exactly if no two showings of different
identity share a key. Of plain texts the key says all but whether the rule of a config passed
(`EventLog.admits_iff_identity_new`).
-/

namespace Rollout

/-! ### Keys within a window -/

namespace RecentKeys

/-- What is kept are the keys of the calls, with times at which they came up. -/
structure Remembers (r : RecentKeys) (calls : List (String × Nat)) : Prop where
  known : ∀ e ∈ r.times.entries, e ∈ calls
  complete : ∀ e ∈ calls, (r.times.get? e.1).isSome = true

variable {r : RecentKeys} {calls : List (String × Nat)} {keys : List String} {key : String}
  {now : Nat}

theorem Remembers.isSome_iff (h : r.Remembers calls) :
    (r.times.get? key).isSome = true ↔ key ∈ calls.map (·.1) := by
  constructor
  · intro hsome
    obtain ⟨t, ht⟩ := Option.isSome_iff_exists.1 hsome
    exact List.mem_map.2 ⟨(key, t), h.known _ (Dict.mem_entries_iff.2 ht), rfl⟩
  · intro hmem
    obtain ⟨e, he, rfl⟩ := List.mem_map.1 hmem
    exact h.complete e he

/-- There are no more keys than came up. -/
theorem Remembers.size_le (h : r.Remembers calls) (hkeys : ∀ e ∈ calls, e.1 ∈ keys) :
    r.times.size ≤ keys.length := by
  have hnodup : (r.times.entries.map (·.1)).Nodup := by
    refine List.Pairwise.imp (fun hlt => ?_) (List.pairwise_map.2 r.times.increasing)
    exact String.ne_of_lt hlt
  have hsubset : r.times.entries.map (·.1) ⊆ keys := by
    intro k hk
    obtain ⟨e, he, rfl⟩ := List.mem_map.1 hk
    exact hkeys e (h.known e he)
  simpa [Dict.size] using (List.Nodup.subperm hnodup hsubset).length_le

/-- As long as all that came up is recent and little enough, nothing is dropped. -/
theorem Remembers.purge (h : r.Remembers calls) (hrecent : ∀ e ∈ calls, isRecent now e.2 = true)
    (hkeys : ∀ e ∈ calls, e.1 ∈ keys) (hfew : keys.length < limit) :
    (r.purge now).times = r.times := by
  have hkept : (r.times.filterMap fun _ time => if isRecent now time then some time else none) =
      r.times := by
    refine Dict.ext_get? fun k => ?_
    rw [Dict.get?_filterMap]
    cases ht : r.times.get? k with
    | none => rfl
    | some t => simp [hrecent _ (h.known _ (Dict.mem_entries_iff.2 ht))]
  have hsize : ¬ limit ≤ r.times.size := by
    have hle := h.size_le hkeys
    omega
  unfold RecentKeys.purge
  split
  · unfold drop
    rw [hkept]
    exact if_neg hsize
  · rfl

section Offer

variable (h : r.Remembers calls) (hrecent : ∀ e ∈ calls, isRecent now e.2 = true)
  (hkeys : ∀ e ∈ calls, e.1 ∈ keys) (hfew : keys.length < limit)

include h hrecent hkeys hfew

theorem any_isRecent_purge :
    ((r.purge now).times.get? key).any (isRecent now) = true ↔ key ∈ calls.map (·.1) := by
  rw [h.purge hrecent hkeys hfew, ← h.isSome_iff]
  cases ht : r.times.get? key with
  | none => simp
  | some t => simp [hrecent _ (h.known _ (Dict.mem_entries_iff.2 ht))]

/-- Within a window a key is new if it did not come up before. -/
theorem offer_fst (key : String) :
    (r.offer key now).1 = true ↔ key ∉ calls.map (·.1) := by
  rw [← any_isRecent_purge h hrecent hkeys hfew]
  unfold offer
  dsimp only
  split
  · next hany => simp [hany]
  · next hany => simp [hany]

theorem offer_snd (key : String) : (r.offer key now).2.Remembers (calls ++ [(key, now)]) := by
  have htimes := h.purge hrecent hkeys hfew
  by_cases hold : key ∈ calls.map (·.1)
  · have hstate : (r.offer key now).2 = r.purge now := by
      unfold offer
      rw [if_pos ((any_isRecent_purge h hrecent hkeys hfew).2 hold)]
    rw [hstate]
    refine ⟨fun e he => ?_, fun e he => ?_⟩
    · rw [htimes] at he
      exact List.mem_append_left _ (h.known e he)
    · rw [htimes]
      rcases List.mem_append.1 he with he | he
      · exact h.complete e he
      · rw [List.mem_singleton.1 he]
        exact h.isSome_iff.2 hold
  · have hstate : (r.offer key now).2.times = r.times.insert key now := by
      unfold offer
      rw [if_neg fun hany => hold ((any_isRecent_purge h hrecent hkeys hfew).1 hany), htimes]
    refine ⟨fun e he => ?_, fun e he => ?_⟩
    · rw [hstate] at he
      rcases Dict.mem_insertEntry he with rfl | he
      · exact List.mem_append_right _ (List.mem_singleton_self _)
      · exact List.mem_append_left _ (h.known e he)
    · rw [hstate, Dict.get?_insert]
      split
      · rfl
      · next hne =>
        rcases List.mem_append.1 he with he | he
        · exact h.complete e he
        · rw [List.mem_singleton.1 he] at hne
          exact absurd rfl hne

end Offer

end RecentKeys

/-! ### Runs of exposures -/

namespace EventLog

/-- Whether the exposure would be logged. -/
def admits (l : EventLog) (x : Exposure) : Bool := (l.seen.offer x.key x.event.time).1

/-- The log after some exposures. -/
def expose (l : EventLog) (run : List Exposure) : EventLog := run.foldl logExposure l

variable {l : EventLog} {run : List Exposure} {x : Exposure}

/-- What a log admits it takes up like any other event, and what it does not admit it leaves out. -/
theorem logExposure_queue (l : EventLog) (x : Exposure) :
    (l.logExposure x).queue = if l.admits x then (l.log x.event).queue else l.queue := by
  unfold logExposure admits
  generalize l.seen.offer x.key x.event.time = answer
  obtain ⟨_ | _, seen⟩ := answer <;> rfl

theorem logExposure_seen (l : EventLog) (x : Exposure) :
    (l.logExposure x).seen = (l.seen.offer x.key x.event.time).2 := by
  unfold logExposure
  dsimp only
  split <;> rfl

theorem remembers_expose {calls : List (String × Nat)} {keys : List String}
    (h : l.seen.Remembers calls) (hfew : keys.length < RecentKeys.limit)
    (hkeys : ∀ e ∈ calls ++ run.map fun x => (x.key, x.event.time), e.1 ∈ keys)
    (hwindow : ∀ x ∈ run, ∀ e ∈ calls ++ run.map fun x => (x.key, x.event.time),
      RecentKeys.isRecent x.event.time e.2 = true) :
    (l.expose run).seen.Remembers (calls ++ run.map fun x => (x.key, x.event.time)) := by
  induction run generalizing l calls with
  | nil => simpa [expose] using h
  | cons x run ih =>
    have hassoc : calls ++ (x :: run).map (fun x => (x.key, x.event.time)) =
        (calls ++ [(x.key, x.event.time)]) ++ run.map fun x => (x.key, x.event.time) := by
      simp
    rw [hassoc] at hkeys hwindow ⊢
    rw [List.forall_mem_cons] at hwindow
    have hstep : (l.logExposure x).seen.Remembers (calls ++ [(x.key, x.event.time)]) := by
      rw [logExposure_seen]
      refine RecentKeys.offer_snd h (fun e he => hwindow.1 e ?_) (fun e he => hkeys e ?_) hfew x.key
      · exact List.mem_append_left _ (List.mem_append_left _ he)
      · exact List.mem_append_left _ (List.mem_append_left _ he)
    exact ih hstep hkeys hwindow.2

/-- Within a window a new log admits just the exposures whose key did not come up before. -/
theorem admits_expose_iff {before after : List Exposure} (hnew : l.seen.times = ∅)
    (hrun : run = before ++ x :: after)
    (hwindow : ∀ x ∈ run, ∀ y ∈ run,
      RecentKeys.isRecent x.event.time y.event.time = true)
    (hfew : (run.map (·.key)).dedup.length < RecentKeys.limit) :
    (l.expose before).admits x = true ↔ ∀ y ∈ before, y.key ≠ x.key := by
  have hempty : l.seen.Remembers [] := by
    refine ⟨fun e he => ?_, fun e he => absurd he List.not_mem_nil⟩
    rw [hnew] at he
    exact absurd he List.not_mem_nil
  have hmem : ∀ y ∈ before, y ∈ run := fun y hy => hrun ▸ List.mem_append_left _ hy
  have hx : x ∈ run := hrun ▸ List.mem_append_right _ List.mem_cons_self
  have hcalls : ∀ e ∈ before.map fun x => (x.key, x.event.time),
      ∃ y ∈ before, (y.key, y.event.time) = e := fun e he => List.mem_map.1 he
  have hkeys : ∀ e ∈ before.map fun x => (x.key, x.event.time),
      e.1 ∈ (run.map (·.key)).dedup := by
    intro e he
    obtain ⟨y, hy, rfl⟩ := hcalls e he
    exact List.mem_dedup.2 (List.mem_map.2 ⟨y, hmem y hy, rfl⟩)
  have hrecent : ∀ z ∈ run, ∀ e ∈ before.map fun x => (x.key, x.event.time),
      RecentKeys.isRecent z.event.time e.2 = true := by
    intro z hz e he
    obtain ⟨y, hy, rfl⟩ := hcalls e he
    exact hwindow z hz y (hmem y hy)
  have hremembers := remembers_expose hempty hfew hkeys fun z hz => hrecent z (hmem z hz)
  unfold admits
  rw [RecentKeys.offer_fst hremembers (hrecent x hx) hkeys hfew]
  simp only [List.nil_append, List.map_map, List.mem_map, not_exists, not_and]
  exact Iff.rfl

end EventLog

/-! ### What an exposure says -/

/-- What a user is shown of an outcome. -/
inductive Display where
  | gate (name : String)
  | config (name : String)
  /-- A parameter of a layer. -/
  | parameter (layer name : String)

/-- An outcome is shown to a user. -/
structure Showing where
  user : User
  display : Display
  outcome : Outcome
  time : Nat

/-- What a report of an exposure says of the outcome. -/
inductive Report where
  | gate (value : Bool)
  | config (rulePassed : Bool)
  | layer (experiment parameter : String) (isExplicit : Bool)
  deriving DecidableEq

/-- What makes one exposure a repetition of another. -/
structure Identity where
  name : String
  ruleId : String
  userId : String
  customIds : Dict String
  report : Report
  deriving DecidableEq

namespace Showing

/-- The exposure that reports the showing. -/
def exposure (x : Showing) : Exposure :=
  match x.display with
  | .gate name => .ofGate x.user name x.outcome x.time
  | .config name => .ofConfig x.user name x.outcome x.time
  | .parameter layer name => .ofLayer x.user layer name x.outcome x.time

/-- The name of what is shown. -/
def name (x : Showing) : String :=
  match x.display with
  | .gate name => name
  | .config name => name
  | .parameter layer _ => layer

/-- What the exposure reports of the outcome. -/
def report (x : Showing) : Report :=
  match x.display with
  | .gate _ => .gate x.outcome.value
  | .config _ => .config x.outcome.value
  | .parameter _ name =>
    let isExplicit := x.outcome.explicitParameters.contains name
    .layer (if isExplicit then x.outcome.delegate.getD "" else "") name isExplicit

/-- What is shown, to whom. -/
def identity (x : Showing) : Identity :=
  { name := x.name, ruleId := x.outcome.ruleId, userId := x.user.userId.getD ""
    customIds := x.user.customIds, report := x.report }

end Showing

namespace Report

/-- What the key of an exposure says of the report. -/
def parts : Report → List String
  | .gate value => [Exposure.boolText value]
  | .config _ => []
  | .layer experiment parameter isExplicit =>
    [experiment, parameter, Exposure.boolText isExplicit]

/-- The report, but for whether the rule of a config passed. -/
def withoutPassed : Report → Report
  | .config _ => .config false
  | r => r

/-- The report is about an experiment, if at all, without a colon in its name. -/
def IsPlain : Report → Prop
  | .layer experiment _ _ => ':' ∉ experiment.toList
  | _ => True

end Report

namespace Identity

/-- The custom ids with their types. -/
def idTexts (i : Identity) : List String := i.customIds.toList.map fun e => e.1 ++ ":" ++ e.2

/-- The texts that the key of an exposure is joined from. -/
def parts (i : Identity) : List String :=
  [i.name, i.ruleId, i.userId] ++ i.idTexts ++ i.report.parts

/-- The identity, but for whether the rule of a config passed. -/
def withoutPassed (i : Identity) : Identity := { i with report := i.report.withoutPassed }

/-- The texts are free of the signs that join them. -/
structure IsPlain (i : Identity) : Prop where
  parts : ∀ part ∈ i.parts, '|' ∉ part.toList
  idTypes : ∀ e ∈ i.customIds.toList, ':' ∉ e.1.toList
  report : i.report.IsPlain

end Identity

theorem Showing.key_exposure (x : Showing) :
    x.exposure.key = "|".intercalate x.identity.parts := by
  obtain ⟨user, _ | _ | _, outcome, time⟩ := x <;> rfl

theorem Showing.time_exposure (x : Showing) : x.exposure.event.time = x.time := by
  obtain ⟨user, _ | _ | _, outcome, time⟩ := x <;> rfl

/-! ### Reading keys -/

theorem intercalate_inj {l l' : List String} (h : ∀ part ∈ l, '|' ∉ part.toList)
    (h' : ∀ part ∈ l', '|' ∉ part.toList) (hl : l ≠ []) (hl' : l' ≠ [])
    (heq : "|".intercalate l = "|".intercalate l') : l = l' := by
  have hsplit : ∀ m : List String, (∀ part ∈ m, '|' ∉ part.toList) → m ≠ [] →
      ("|".intercalate m).toList.splitOn '|' = m.map String.toList := by
    intro m hm hne
    rw [String.toList_intercalate]
    refine List.splitOn_intercalate '|' (fun part hpart => ?_) (by simpa using hne)
    obtain ⟨s, hs, rfl⟩ := List.mem_map.1 hpart
    exact hm s hs
  have hmap : l.map String.toList = l'.map String.toList := by
    rw [← hsplit l h hl, ← hsplit l' h' hl', heq]
  exact List.map_injective_iff.2 (fun _ _ he => String.toList_inj.1 he) hmap

theorem append_cons_inj_of_not_mem {α : Type} {a : α} {l l' m m' : List α} (h : a ∉ l)
    (h' : a ∉ l') (heq : l ++ a :: m = l' ++ a :: m') : l = l' ∧ m = m' := by
  induction l generalizing l' with
  | nil =>
    cases l' with
    | nil => simpa using heq
    | cons b l' =>
      rw [List.nil_append, List.cons_append, List.cons.injEq] at heq
      exact absurd (heq.1 ▸ List.mem_cons_self) h'
  | cons b l ih =>
    cases l' with
    | nil =>
      rw [List.nil_append, List.cons_append, List.cons.injEq] at heq
      exact absurd (heq.1 ▸ List.mem_cons_self) h
    | cons b' l' =>
      rw [List.cons_append, List.cons_append, List.cons.injEq] at heq
      obtain ⟨hl, hm⟩ := ih (fun hmem => h (List.mem_cons_of_mem _ hmem))
        (fun hmem => h' (List.mem_cons_of_mem _ hmem)) heq.2
      exact ⟨by rw [heq.1, hl], hm⟩

/-- The type of an id ends at the first colon. -/
theorem idText_inj {e e' : String × String} (h : ':' ∉ e.1.toList) (h' : ':' ∉ e'.1.toList)
    (heq : e.1 ++ ":" ++ e.2 = e'.1 ++ ":" ++ e'.2) : e = e' := by
  have hlist := congrArg String.toList heq
  simp only [String.toList_append, List.append_assoc] at hlist
  obtain ⟨htype, hid⟩ := append_cons_inj_of_not_mem h h' hlist
  exact Prod.ext (String.toList_inj.1 htype) (String.toList_inj.1 hid)

theorem idTexts_inj {l l' : List (String × String)} (h : ∀ e ∈ l, ':' ∉ e.1.toList)
    (h' : ∀ e ∈ l', ':' ∉ e.1.toList)
    (heq : l.map (fun e => e.1 ++ ":" ++ e.2) = l'.map fun e => e.1 ++ ":" ++ e.2) : l = l' := by
  induction l generalizing l' with
  | nil => exact (List.map_eq_nil_iff.1 heq.symm).symm
  | cons e l ih =>
    cases l' with
    | nil => cases heq
    | cons e' l' =>
      rw [List.forall_mem_cons] at h h'
      rw [List.map_cons, List.map_cons, List.cons.injEq] at heq
      rw [idText_inj h.1 h'.1 heq.1, ih h.2 h'.2 heq.2]

theorem colon_not_mem_boolText (b : Bool) : ':' ∉ (Exposure.boolText b).toList := by
  cases b <;> decide

theorem boolText_inj {a b : Bool} (h : Exposure.boolText a = Exposure.boolText b) : a = b := by
  cases a <;> cases b
  · rfl
  · exact absurd h (by decide)
  · exact absurd h (by decide)
  · rfl

namespace Report

theorem withoutPassed_eq_of_parts {r r' : Report} (h : r.parts = r'.parts) :
    r.withoutPassed = r'.withoutPassed := by
  cases r <;> cases r' <;> simp only [parts, List.cons.injEq, reduceCtorEq, and_false] at h
  case gate.gate value value' => rw [boolText_inj h.1]
  case config.config => rfl
  case layer.layer => rw [h.1, h.2.1, boolText_inj h.2.2.1]

theorem parts_withoutPassed (r : Report) : r.withoutPassed.parts = r.parts := by
  cases r <;> rfl

end Report

namespace Identity

variable {i j : Identity}

/-- The texts of ids are those that begin a list of parts and hold a colon. -/
theorem IsPlain.takeWhile (h : i.IsPlain) :
    (i.idTexts ++ i.report.parts).takeWhile (fun part => ':' ∈ part.toList) = i.idTexts := by
  have hids : ∀ part ∈ i.idTexts, decide (':' ∈ part.toList) = true := by
    intro part hpart
    obtain ⟨e, -, rfl⟩ := List.mem_map.1 hpart
    simp
  have hstop : i.report.parts.takeWhile (fun part => ':' ∈ part.toList) = [] := by
    have hplain := h.report
    cases hreport : i.report with
    | gate value => exact List.takeWhile_cons_of_neg (by simpa using colon_not_mem_boolText value)
    | config passed => rfl
    | layer experiment parameter isExplicit =>
      rw [hreport] at hplain
      have hexperiment : ':' ∉ experiment.toList := hplain
      exact List.takeWhile_cons_of_neg (by simpa using hexperiment)
  rw [List.takeWhile_append_of_pos hids, hstop, List.append_nil]

/-- Plain texts that are joined can be told apart again. -/
theorem parts_eq_iff (hi : i.IsPlain) (hj : j.IsPlain) :
    i.parts = j.parts ↔ i.withoutPassed = j.withoutPassed := by
  constructor
  · intro h
    -- The first three parts stand in their places; the ids end where the colons do.
    unfold parts at h
    rw [List.append_assoc, List.append_assoc] at h
    obtain ⟨hhead, hrest⟩ := List.append_inj h rfl
    have hids : i.idTexts = j.idTexts := by
      rw [← hi.takeWhile, ← hj.takeWhile, hrest]
    rw [hids] at hrest
    have hreport := Report.withoutPassed_eq_of_parts (List.append_cancel_left hrest)
    have hentries : i.customIds.entries = j.customIds.entries :=
      idTexts_inj hi.idTypes hj.idTypes hids
    have hcustom : i.customIds = j.customIds := by
      refine Dict.ext_get? fun k => ?_
      unfold Dict.get?
      rw [hentries]
    simp only [List.cons.injEq, and_true] at hhead
    unfold withoutPassed
    rw [hreport, hcustom, hhead.1, hhead.2.1, hhead.2.2]
  · intro h
    have hparts : ∀ k : Identity, k.withoutPassed.parts = k.parts := by
      intro k
      unfold parts withoutPassed
      rw [Report.parts_withoutPassed]
      rfl
    rw [← hparts i, ← hparts j, h]

theorem parts_ne_nil (i : Identity) : i.parts ≠ [] := List.cons_ne_nil _ _

theorem intercalate_parts_eq_iff (hi : i.IsPlain) (hj : j.IsPlain) :
    "|".intercalate i.parts = "|".intercalate j.parts ↔ i.withoutPassed = j.withoutPassed := by
  rw [← parts_eq_iff hi hj]
  constructor
  · intro h
    exact intercalate_inj hi.parts hj.parts i.parts_ne_nil j.parts_ne_nil h
  · intro h
    rw [h]

end Identity

/-! ### Repetitions -/

/-- In a list whose members of one identity have one key, a member is the first of its key just if
it is the first of its identity, throughout exactly if no two identities share a key. -/
theorem forall_first_iff {α κ ι : Type} {key : α → κ} {identity : α → ι}
    (hkey : ∀ x y, identity x = identity y → key x = key y) {l : List α} :
    (∀ before x after, l = before ++ x :: after →
        ((∀ y ∈ before, key y ≠ key x) ↔ ∀ y ∈ before, identity y ≠ identity x)) ↔
      ∀ x ∈ l, ∀ y ∈ l, key x = key y → identity x = identity y := by
  constructor
  · intro h
    induction l using List.reverseRecOn with
    | nil => exact fun x hx => absurd hx List.not_mem_nil
    | append_singleton l z ih =>
      have hl := ih fun before x after hsplit => h before x (after ++ [z]) (by simp [hsplit])
      -- A member that shares its key with the last one is preceded by one of the same identity.
      have hlast : ∀ y ∈ l, key y = key z → identity y = identity z := by
        intro y hy hyz
        by_contra hne
        have hrepeated : ¬ ∀ w ∈ l, identity w ≠ identity z := by
          rw [← h l z [] rfl]
          exact fun hnew => hnew y hy hyz
        refine hrepeated fun w hw hwz => hne ?_
        have hyw : key y = key w := hyz.trans (hkey w z hwz).symm
        exact (hl y hy w hw hyw).trans hwz
      intro x hx y hy hxy
      rcases List.mem_append.1 hx with hxl | hxz <;> rcases List.mem_append.1 hy with hyl | hyz
      · exact hl x hxl y hyl hxy
      · obtain rfl := List.mem_singleton.1 hyz
        exact hlast x hxl hxy
      · obtain rfl := List.mem_singleton.1 hxz
        exact (hlast y hyl hxy.symm).symm
      · rw [List.mem_singleton.1 hxz, List.mem_singleton.1 hyz]
  · rintro h before x after rfl
    have hx : x ∈ before ++ x :: after := List.mem_append_right _ List.mem_cons_self
    constructor
    · intro hnew y hy hyx
      exact hnew y hy (hkey y x hyx)
    · intro hnew y hy hyx
      exact hnew y hy (h y (List.mem_append_left _ hy) x hx hyx)

namespace EventLog

/-- Within a window, and with few enough keys, a new log leaves out just the repetitions of a run of
showings exactly if none of them share a key but those of one identity. Showings of one identity
have one key, and for plain texts the converse holds up to whether the rule of a config passed. What
is not left out is taken up like any other event. -/
theorem admits_iff_identity_new (l : EventLog) (run : List Showing) (hnew : l.seen.times = ∅)
    (hwindow : ∀ x ∈ run, ∀ y ∈ run, x.time - y.time < RecentKeys.window)
    (hfew : (run.map (·.exposure.key)).dedup.length < RecentKeys.limit) :
    ((∀ before x after, run = before ++ x :: after →
        ((l.expose (before.map (·.exposure))).admits x.exposure = true ↔
          ∀ y ∈ before, y.identity ≠ x.identity)) ↔
      ∀ x ∈ run, ∀ y ∈ run, x.exposure.key = y.exposure.key → x.identity = y.identity) ∧
    (∀ x y : Showing, x.identity = y.identity → x.exposure.key = y.exposure.key) ∧
    (∀ x y : Showing, x.identity.IsPlain → y.identity.IsPlain →
      (x.exposure.key = y.exposure.key ↔
        x.identity.withoutPassed = y.identity.withoutPassed)) ∧
    (∀ (l : EventLog) (x : Exposure),
      (l.logExposure x).queue = if l.admits x then (l.log x.event).queue else l.queue) := by
  have hkey : ∀ x y : Showing, x.identity = y.identity → x.exposure.key = y.exposure.key := by
    intro x y h
    rw [x.key_exposure, y.key_exposure, h]
  have hadmits : ∀ before x after, run = before ++ x :: after →
      ((l.expose (before.map (·.exposure))).admits x.exposure = true ↔
        ∀ y ∈ before, y.exposure.key ≠ x.exposure.key) := by
    rintro before x after hrun
    have hsplit : run.map (·.exposure) =
        before.map (·.exposure) ++ x.exposure :: after.map (·.exposure) := by
      simp [hrun]
    have hrecent : ∀ a ∈ run.map (·.exposure), ∀ b ∈ run.map (·.exposure),
        RecentKeys.isRecent a.event.time b.event.time = true := by
      intro a ha b hb
      obtain ⟨y, hy, rfl⟩ := List.mem_map.1 ha
      obtain ⟨z, hz, rfl⟩ := List.mem_map.1 hb
      rw [y.time_exposure, z.time_exposure]
      exact decide_eq_true (hwindow y hy z hz)
    have hkeys : ((run.map (·.exposure)).map (·.key)).dedup.length < RecentKeys.limit := by
      rw [List.map_map]
      exact hfew
    rw [admits_expose_iff hnew hsplit hrecent hkeys]
    exact List.forall_mem_map
  refine ⟨?_, hkey, fun x y hx hy => ?_, logExposure_queue⟩
  · rw [← forall_first_iff hkey]
    constructor
    · intro h before x after hrun
      rw [← hadmits before x after hrun, h before x after hrun]
    · intro h before x after hrun
      rw [hadmits before x after hrun, h before x after hrun]
  · rw [x.key_exposure, y.key_exposure]
    exact Identity.intercalate_parts_eq_iff hx hy

end EventLog

/-! ### Showings of one rule -/

namespace Repetition

/-- An outcome of a rule is shown to a user. -/
def shown (display : Display) (value : Bool) (time : Nat) : Showing :=
  { user := .withUserId "u", display
    outcome := { value, ruleId := "r", details := .uninitialized }, time }

/-- A log in which nothing was logged. -/
def log : EventLog := .make 10 5

/-- A gate is shown. -/
def gate (value : Bool) (time : Nat) : Showing := shown (.gate "g") value time

/-- A config is shown. -/
def config (rulePassed : Bool) (time : Nat) : Showing := shown (.config "c") rulePassed time

end Repetition

open Repetition in
/-- Of the showings of a gate the repetition is left out. -/
theorem admits_iff_identity_new_of_gates :
    (log.expose [(gate true 0).exposure]).admits (gate true 5).exposure = false ∧
      (log.expose [(gate true 0).exposure, (gate true 5).exposure]).admits
        (gate false 6).exposure = true := by
  let run := [gate true 0, gate true 5, gate false 6]
  have hwindow : ∀ x ∈ run, ∀ y ∈ run, x.time - y.time < RecentKeys.window := by decide +kernel
  have hfew : (run.map (·.exposure.key)).dedup.length < RecentKeys.limit := by decide +kernel
  have hkeys : ∀ x ∈ run, ∀ y ∈ run, x.exposure.key = y.exposure.key →
      x.identity = y.identity := by
    decide +kernel
  obtain ⟨hiff, -⟩ := EventLog.admits_iff_identity_new log run rfl hwindow hfew
  have hfirst := hiff.2 hkeys
  constructor
  · have hsecond := hfirst [gate true 0] (gate true 5) [gate false 6] rfl
    rw [Bool.eq_false_iff]
    exact fun hadmits => hsecond.1 hadmits (gate true 0) (List.mem_singleton_self _) rfl
  · have hthird := hfirst [gate true 0, gate true 5] (gate false 6) [] rfl
    exact hthird.2 (by decide +kernel)

open Repetition in
/-- Not just repetitions are left out: when the rule of a config does not pass any more, that is not
logged. -/
theorem not_forall_admits :
    ¬ ∀ (l : EventLog) (run : List Showing), l.seen.times = ∅ →
      (∀ x ∈ run, ∀ y ∈ run, x.time - y.time < RecentKeys.window) →
      (run.map (·.exposure.key)).dedup.length < RecentKeys.limit →
      ∀ before x after, run = before ++ x :: after →
        ((l.expose (before.map (·.exposure))).admits x.exposure = true ↔
          ∀ y ∈ before, y.identity ≠ x.identity) := by
  intro h
  let run := [config true 0, config false 5]
  have hwindow : ∀ x ∈ run, ∀ y ∈ run, x.time - y.time < RecentKeys.window := by decide +kernel
  have hfew : (run.map (·.exposure.key)).dedup.length < RecentKeys.limit := by decide +kernel
  have hdiffer : ∀ y ∈ [config true 0], y.identity ≠ (config false 5).identity := by
    decide +kernel
  have hadmits :=
    (h log run rfl hwindow hfew [config true 0] (config false 5) [] rfl).2 hdiffer
  have hleft : (log.expose [(config true 0).exposure]).admits (config false 5).exposure =
      false := by
    decide +kernel
  exact Bool.false_ne_true (hleft.symm.trans hadmits)

end Rollout
