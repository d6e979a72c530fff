import Rollout.Proofs.Interleaving

/-!
# Shutting down while starting

What one step can do to the phase of an engine is listed once (`Engine.Change`). As long as the
engine is not closing, it is initializing exactly while one caller is starting it (`Phase.Admits`,
`Engine.Scene.admits_run`).

An engine that is closing, and that nobody is starting, stays so (`Engine.Scene.IsShut`). A caller
that is starting it, however, completes the start whatever the phase is by then. So a shutdown is
for good if and only if it does not find the engine initializing (`Engine.Scene.stays_closed_iff`).
-/

namespace Rollout

/-- In a phase, how many callers may be starting the engine. One of them may have been overtaken by
a shutdown. -/
def Phase.Admits : Phase → Nat → Prop
  | .uninitialized, n | .ready, n => n = 0
  | .initializing, n => n = 1
  | .shuttingDown, n | .shutDown, n => n ≤ 1

theorem Phase.Admits.eq_zero {p : Phase} {n : Nat} (h : p.Admits n) (hopen : p.isClosing = false)
    (hp : p ≠ .initializing) : n = 0 := by
  cases p with
  | uninitialized | ready => exact h
  | initializing => exact absurd rfl hp
  | shuttingDown | shutDown => cases hopen

namespace Engine

/-! ### What keeps the life of an engine -/

section Keeping

theorem keeps_onIntake {α : Type} (x : StateM Intake α) : Keeps lifecycle (onIntake x) :=
  fun _ => rfl

theorem keeps_scheduleFeed : Keeps lifecycle scheduleFeed := by
  refine Keeps.bind (fun _ => rfl) fun e => ?_
  cases e.lifecycle.maySchedule with
  | false => exact keeps_pure _
  | true => exact keeps_onIntake Intake.schedule

theorem Keeps.phase {α : Type} {x : StateM Engine α} (h : Keeps lifecycle x) (e : Engine) :
    (x e).2.phase = e.phase :=
  congrArg Lifecycle.phase (h e)

end Keeping

/-! ### What a step changes -/

/-- Whether a caller is starting the engine, and the phase, before and after a step that it makes or
that somebody else makes. -/
inductive Change : Bool → Phase → Bool → Phase → Prop
  | nothing (b : Bool) (p : Phase) : Change b p b p
  | enters : Change false .uninitialized true .initializing
  /-- The engine becomes ready, even if it was closing. -/
  | completes (p : Phase) : Change true p false .ready
  | closes (p : Phase) {p' : Phase} (h : p'.isClosing = true) : Change false p false p'

namespace Change

variable {b b' : Bool} {p p' : Phase}

theorem of_eq (hb : b' = b) (hp : p' = p) : Change b p b' p' := by
  subst hb hp
  exact .nothing _ _

theorem admits (h : Change b p b' p') {n : Nat} (hp : p.Admits (n + b.toNat)) :
    p'.Admits (n + b'.toNat) := by
  cases h with
  | nothing => exact hp
  | enters => exact congrArg (· + 1) hp
  | completes =>
    show n = 0
    cases p <;> simp only [Phase.Admits, Bool.toNat_true] at hp <;> omega
  | closes _ hclosing =>
    have hle : n ≤ 1 := by
      cases p <;> simp only [Phase.Admits, Bool.toNat_false] at hp <;> omega
    cases p' <;> first | exact hle | cases hclosing

/-- What is closing is closing still, unless a caller completes the start. -/
theorem closing (h : Change false p b' p') (hp : p.isClosing = true) :
    b' = false ∧ p'.isClosing = true := by
  cases h with
  | nothing => exact ⟨rfl, hp⟩
  | enters => cases hp
  | closes _ hclosing => exact ⟨rfl, hclosing⟩

end Change

theorem change_resume (stage : Stage) (e : Engine) :
    Change stage.isStarting e.phase (stage.resume e).1.isStarting (stage.resume e).2.phase := by
  cases stage with
  | entering waits =>
    by_cases hp : e.phase = .uninitialized
    · rw [Stage.resume_entering hp, hp]
      exact .enters
    · obtain ⟨hstage, hsame⟩ := Stage.resume_entering_begun hp waits
      exact .of_eq hstage (congrArg _ hsame)
  | applyingBootstrap =>
    exact .of_eq rfl (Keeps.phase (keeps_applyBootstrap fun _ => keeps_onIntake _) e)
  | schedulingIdLists =>
    exact .of_eq rfl (Keeps.phase (keeps_scheduleIdLists fun _ => rfl) e)
  | completing waits =>
    show Change true e.phase (Stage.started waits).isStarting .ready
    rw [Stage.isStarting_started]
    exact .completes _
  | closing timeout =>
    cases hp : e.phase.isClosing with
    | true =>
      rw [Stage.resume_closing_again hp]
      exact .nothing _ _
    | false =>
      rw [Stage.resume_closing hp]
      exact .closes _ rfl
  | stoppingLog => exact .of_eq rfl (Keeps.phase (keeps_askLog (fun _ _ => rfl) (fun _ _ => rfl)
      (fun _ => keeps_onIntake _) _) e)
  | finishing => exact .closes _ rfl
  | spawning | waiting | stoppingFeed | stoppingIdLists | returned => exact .of_eq rfl rfl

theorem phase_startThread (e : Engine) : (startThread e).phase = e.phase := by
  unfold startThread
  cases e.lifecycle.thread with
  | absent | finished => rfl
  | starting =>
    dsimp only
    split
    · rfl
    · split <;> rfl
  | scheduling started =>
    refine Eq.trans ?_ (keeps_scheduleFeed.phase e)
    show (Lifecycle.feedScheduled _ _).phase = _
    unfold Lifecycle.feedScheduled
    split <;> rfl

namespace Scene

variable {s : Scene} {i : Nat} {stage : Stage}

/-- Whatever happens, it concerns one caller at most. -/
theorem change_perform (s : Scene) (m : Move) : ∃ n b b', s.starters = n + b.toNat ∧
    (s.perform m).starters = n + b'.toNat ∧ Change b s.phase b' (s.perform m).phase := by
  cases m with
  | start | shutdown =>
    refine ⟨s.starters, false, false, rfl, ?_, .nothing _ _⟩
    exact List.countP_append ..
  | thread => exact ⟨s.starters, false, false, rfl, rfl, .of_eq rfl (phase_startThread s.engine)⟩
  | release => exact ⟨s.starters, false, false, rfl, rfl, .nothing _ _⟩
  | resume i =>
    show ∃ n b b', s.starters = n + b.toNat ∧ (s.resume i).starters = n + b'.toNat ∧
      Change b s.phase b' (s.resume i).phase
    cases hi : s.callers[i]? with
    | none =>
      rw [resume_of_none hi]
      exact ⟨s.starters, false, false, rfl, rfl, .nothing _ _⟩
    | some stage =>
      rw [resume_of_some hi]
      obtain ⟨hlt, rfl⟩ := List.getElem?_eq_some_iff.1 hi
      -- Of those who are starting the engine, the one that makes the step is counted apart.
      have htoNat : ∀ b : Bool, (if b = true then 1 else 0) = b.toNat := by decide
      have hle := List.boole_getElem_le_countP (p := Stage.isStarting) hlt
      have hset := List.countP_set (p := Stage.isStarting)
        (a := (s.callers[i].resume s.engine).1) hlt
      rw [htoNat] at hle
      rw [htoNat, htoNat] at hset
      exact ⟨s.starters - s.callers[i].isStarting.toNat, _, _, (Nat.sub_add_cancel hle).symm, hset,
        change_resume s.callers[i] s.engine⟩

/-! ### What stays -/

theorem admits_perform (m : Move) (h : s.phase.Admits s.starters) :
    (s.perform m).phase.Admits (s.perform m).starters := by
  obtain ⟨n, b, b', hs, hs', hchange⟩ := s.change_perform m
  rw [hs] at h
  rw [hs']
  exact hchange.admits h

theorem admits_run (moves : List Move) (h : s.phase.Admits s.starters) :
    (s.run moves).phase.Admits (s.run moves).starters := by
  induction moves generalizing s with
  | nil => exact h
  | cons m moves ih => exact ih (admits_perform m h)

/-- The engine is closing and nobody is starting it. -/
structure IsShut (s : Scene) : Prop where
  closing : s.phase.isClosing = true
  starters : s.starters = 0

theorem IsShut.perform (h : s.IsShut) (m : Move) : (s.perform m).IsShut := by
  obtain ⟨n, b, b', hs, hs', hchange⟩ := s.change_perform m
  obtain ⟨rfl, hb⟩ := Nat.add_eq_zero_iff.1 (hs.symm.trans h.starters)
  obtain rfl : b = false := by cases b <;> first | rfl | cases hb
  obtain ⟨rfl, hclosing⟩ := hchange.closing h.closing
  exact ⟨hclosing, hs'⟩

theorem IsShut.run (h : s.IsShut) (moves : List Move) : (s.run moves).IsShut := by
  induction moves generalizing s with
  | nil => exact h
  | cons m moves ih => exact ih (h.perform m)

theorem IsShut.phase_ne (h : s.IsShut) {p : Phase} (hp : p.isClosing = false) : s.phase ≠ p := by
  intro heq
  have hclosing := h.closing
  rw [heq, hp] at hclosing
  cases hclosing

theorem IsShut.schedules (h : s.IsShut) (m : Move) : s.schedules m = false := by
  have hmay : s.engine.lifecycle.maySchedule = false := congrArg (!·) h.closing
  cases m with
  | start | shutdown | resume | release => rfl
  | thread =>
    show s.engine.isAboutToSchedule = false
    unfold isAboutToSchedule
    split
    · exact hmay
    · rfl

/-! ### Starts are completed -/

theorem exists_ready_of_perform (m : Move) (h : ∃ moves, ((s.perform m).run moves).phase = .ready) :
    ∃ moves, (s.run moves).phase = .ready := by
  obtain ⟨moves, h⟩ := h
  exact ⟨m :: moves, h⟩

/-- A caller that is starting the engine can go on until the engine is ready. -/
theorem exists_ready (h : s.callers[i]? = some stage) (hstage : stage.isStarting = true) :
    ∃ moves, (s.run moves).phase = .ready := by
  -- Each stage is one step further from the end of the start than the one before.
  have completing : ∀ {s : Scene} {waits}, s.callers[i]? = some (.completing waits) →
      ∃ moves, (s.run moves).phase = .ready := fun {s _} h =>
    ⟨[.resume i], congrArg phase (resume_of_some h)⟩
  have spawning : ∀ {s : Scene} {waits}, s.callers[i]? = some (.spawning waits) →
      ∃ moves, (s.run moves).phase = .ready := fun h =>
    exists_ready_of_perform (.resume i) (completing (callers_resume h))
  have schedulingIdLists : ∀ {s : Scene} {waits}, s.callers[i]? = some (.schedulingIdLists waits) →
      ∃ moves, (s.run moves).phase = .ready := fun h =>
    exists_ready_of_perform (.resume i) (spawning (callers_resume h))
  cases stage with
  | applyingBootstrap =>
    exact exists_ready_of_perform (.resume i) (schedulingIdLists (callers_resume h))
  | schedulingIdLists => exact schedulingIdLists h
  | spawning => exact spawning h
  | completing => exact completing h
  | entering | waiting | closing | stoppingFeed | stoppingIdLists | stoppingLog | finishing
  | returned => cases hstage

/-! ### Shutting down for good -/

variable {timeout : Nat}

theorem resume_closing (hi : s.callers[i]? = some (.closing timeout))
    (hopen : s.phase.isClosing = false) :
    s.resume i =
      { engine :=
          { s.engine with lifecycle := { s.engine.lifecycle with phase := .shuttingDown } }
        callers := s.callers.set i (.stoppingFeed timeout) } := by
  rw [resume_of_some hi, Stage.resume_closing hopen]

theorem isShut_resume_closing (hi : s.callers[i]? = some (.closing timeout))
    (hopen : s.phase.isClosing = false) (hs : s.starters = 0) : (s.resume i).IsShut := by
  rw [resume_closing hi hopen]
  refine ⟨rfl, List.countP_eq_zero.2 fun stage hmem => ?_⟩
  rcases List.mem_or_eq_of_mem_set hmem with hmem | rfl
  · exact List.countP_eq_zero.1 hs stage hmem
  · exact nofun

/-- A shutdown does not keep the callers that it overtakes from completing the start. -/
theorem exists_ready_after_closing (hi : s.callers[i]? = some (.closing timeout))
    (hopen : s.phase.isClosing = false) (hs : 0 < s.starters) :
    ∃ moves, ((s.resume i).run moves).phase = .ready := by
  obtain ⟨stage, hmem, hstage⟩ := List.countP_pos_iff.1 hs
  obtain ⟨j, hj⟩ := List.mem_iff_getElem?.1 hmem
  have hne : i ≠ j := by
    rintro rfl
    cases Option.some.inj (hi.symm.trans hj)
    cases hstage
  refine exists_ready (i := j) ?_ hstage
  rw [resume_closing hi hopen]
  exact (List.getElem?_set_ne hne).trans hj

/-- A shutdown of an engine that was not started before the run, whatever callers, start thread and
host have done by then. After it the engine is neither initializing nor ready any more and its feed
is not scheduled any more, if and only if the shutdown does not find the engine initializing. -/
theorem stays_closed_iff {e : Engine} (hnew : e.lifecycle = {}) (before : List Move)
    {i timeout : Nat} (hi : (run { engine := e } before).callers[i]? = some (.closing timeout))
    (hopen : (run { engine := e } before).phase.isClosing = false) :
    (∀ after,
      let s := run { engine := e } (before ++ .resume i :: after)
      s.phase ≠ .initializing ∧ s.phase ≠ .ready ∧ ∀ m, s.schedules m = false) ↔
      (run { engine := e } before).phase ≠ .initializing := by
  have hnone : phase { engine := e } = .uninitialized := congrArg Lifecycle.phase hnew
  have hadmits := admits_run (s := { engine := e }) before (hnone ▸ rfl)
  have hafter : ∀ after, run { engine := e } (before ++ .resume i :: after) =
      (run { engine := e } before).run (.resume i :: after) := fun _ => List.foldl_append
  simp only [hafter]
  generalize run { engine := e } before = s at hi hopen hadmits ⊢
  constructor
  · -- One caller is starting the engine, and will complete it.
    intro h hp
    have hone : s.starters = 1 := by
      rw [hp] at hadmits
      exact hadmits
    obtain ⟨after, hready⟩ :=
      exists_ready_after_closing hi hopen (Nat.lt_of_lt_of_eq Nat.one_pos hone.symm)
    exact (h after).2.1 hready
  · -- Nobody is starting the engine, and nobody can begin to.
    intro hp after
    have hlater : ((s.resume i).run after).IsShut :=
      (isShut_resume_closing hi hopen (hadmits.eq_zero hopen hp)).run after
    exact ⟨hlater.phase_ne rfl, hlater.phase_ne rfl, hlater.schedules⟩

/-! ### A shutdown between the steps of a start -/

/-- An engine with a feed of the host. -/
def idle : Engine := { settings := {}, intake := { feed := .ofSource (.host {}), now := 1 } }

/-- A start up to where it is complete, with a shutdown that begins afterwards. -/
def startThenShutdown : List Move :=
  [.start false, .resume 0, .resume 0, .resume 0, .resume 0, .thread, .resume 0, .shutdown 1000]

theorem stays_closed_iff_startThenShutdown :
    (idle.lifecycle = {} ∧
      (run { engine := idle } startThenShutdown).callers[1]? = some (.closing 1000) ∧
      (run { engine := idle } startThenShutdown).phase.isClosing = false) ∧
    ∀ after,
      let s := run { engine := idle } (startThenShutdown ++ .resume 1 :: after)
      s.phase ≠ .initializing ∧ s.phase ≠ .ready ∧ ∀ m, s.schedules m = false :=
  ⟨⟨rfl, rfl, rfl⟩, (stays_closed_iff (e := idle) rfl startThenShutdown rfl rfl).2 nofun⟩

/-- A start that has spawned its thread, and a shutdown that is about to begin. -/
def startMeetsShutdown : List Move :=
  [.start false, .resume 0, .resume 0, .resume 0, .resume 0, .shutdown 1000]

/-- The shutdown goes through to its end. Then the start is completed, and its thread goes on. -/
def overtaken : List Move :=
  [.resume 1, .resume 1, .resume 1, .resume 1, .resume 0, .thread, .thread]

/-- The engine is ready after it has been shut down, and its feed is scheduled then. -/
theorem not_forall_stays_closed :
    ¬ ∀ (e : Engine) (before : List Move) (i timeout : Nat), e.lifecycle = {} →
      (run { engine := e } before).callers[i]? = some (.closing timeout) →
      (run { engine := e } before).phase.isClosing = false →
      ∀ after,
        let s := run { engine := e } (before ++ .resume i :: after)
        s.phase ≠ .initializing ∧ s.phase ≠ .ready ∧ ∀ m, s.schedules m = false := by
  intro h
  exact (h idle startMeetsShutdown 1 1000 rfl rfl rfl overtaken).2.1 rfl

example :
    let s := run { engine := idle } (startMeetsShutdown ++ .resume 1 :: overtaken)
    s.phase = .ready ∧ s.schedules .thread = true ∧
      s.callers = [.returned (.ok ()), .returned (.ok ())] ∧
      (s.perform .thread).engine.intake.feed.calls = [.feedShutdown, .feedStart, .feedSchedule] :=
  ⟨rfl, rfl, rfl, rfl⟩

end Scene

end Engine

end Rollout
