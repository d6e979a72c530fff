import Rollout.Engine

/-!
# Calls that come at one time

Callers may start an engine and shut it down at one time. Each of them makes the steps of its call
one after another (`Engine.Stage.resume`), as the start thread makes its own
(`Engine.startThread`); others may come between any two of them (`Engine.Scene.run`). A caller that
is left alone does what `Engine.start`, `Engine.startAndWait` or `Engine.shutdown` does
(`Engine.Scene.exists_run_start`, `exists_run_startAndWait`, `exists_run_shutdown`).
-/

namespace Rollout

namespace Lifecycle

variable {l : Lifecycle}

theorem enter_of_uninitialized (h : l.phase = .uninitialized) :
    l.enter = (.ok true, { l with phase := .initializing }) := by
  unfold enter
  rw [h]

theorem enter_of_begun (h : l.phase ≠ .uninitialized) :
    l.enter.1 ≠ .ok true ∧ l.enter.2 = l := by
  unfold enter
  cases hp : l.phase with
  | uninitialized => exact absurd hp h
  | initializing | ready | shuttingDown | shutDown => exact ⟨nofun, rfl⟩

theorem close_of_open (h : l.phase.isClosing = false) :
    l.close = (true, { l with phase := .shuttingDown }) := by
  unfold close
  rw [h]
  rfl

theorem close_of_closing (h : l.phase.isClosing = true) : l.close = (false, l) := if_pos h

end Lifecycle

namespace Engine

/-! ### What computations keep -/

section Keeping

variable {α β γ : Type} {view : Engine → γ}

/-- The computation changes nothing of what is viewed. -/
def Keeps (view : Engine → γ) (x : StateM Engine α) : Prop := ∀ e, view (x e).2 = view e

theorem keeps_pure (a : α) : Keeps view (pure a) := fun _ => rfl

theorem Keeps.bind {x : StateM Engine α} {f : α → StateM Engine β} (hx : Keeps view x)
    (hf : ∀ a, Keeps view (f a)) : Keeps view (x >>= f) :=
  fun e => (hf _ _).trans (hx e)

theorem keeps_forIn (l : List α) {f : α → β → StateM Engine (ForInStep β)}
    (hf : ∀ a b, Keeps view (f a b)) (b : β) : Keeps view (forIn l b f) := by
  induction l generalizing b with
  | nil => exact keeps_pure b
  | cons a l ih =>
    rw [List.forIn_cons]
    refine (hf a b).bind fun step => ?_
    cases step with
    | done b => exact keeps_pure b
    | yield b => exact ih b

theorem keeps_applyBootstrap (hpush : ∀ text, Keeps view (onIntake (Intake.push text .bootstrap))) :
    Keeps view applyBootstrap := by
  refine Keeps.bind (fun _ => rfl) fun e => ?_
  cases e.settings.bootstrap with
  | none => exact keeps_pure ()
  | some text => exact (hpush text).bind fun _ => keeps_pure ()

theorem keeps_scheduleIdLists (hpoll : ∀ e, view { e with idListPoller := .running } = view e) :
    Keeps view scheduleIdLists := by
  intro e
  show view (if e.idLists.isSome then { e with idListPoller := .running } else e) = _
  split
  · exact hpoll e
  · rfl

theorem keeps_postBatches (hposted : ∀ e n, view { e with posted := n } = view e)
    (honline : ∀ x : StateM Network (Except Failure Unit),
      Keeps view (onIntake (Intake.online x))) : Keeps view postBatches := by
  refine Keeps.bind (fun _ => rfl) fun e => ?_
  cases e.poster with
  | none => exact keeps_pure ()
  | some poster =>
    cases e.log with
    | none => exact keeps_pure ()
    | some log =>
      exact Keeps.bind (fun e => hposted e _) fun _ => keeps_forIn _
        (fun _ _ => (honline _).bind fun _ => keeps_pure _) _

theorem keeps_askLog (hlog : ∀ e log, view { e with log := log } = view e)
    (hposted : ∀ e n, view { e with posted := n } = view e)
    (honline : ∀ x : StateM Network (Except Failure Unit),
      Keeps view (onIntake (Intake.online x)))
    (f : EventLog → Except Failure Unit × EventLog) : Keeps view (askLog f) := by
  refine Keeps.bind (fun _ => rfl) fun e => ?_
  cases e.log with
  | none => exact keeps_pure _
  | some log =>
    exact Keeps.bind (fun e => hlog e _) fun _ =>
      (keeps_postBatches hposted honline).bind fun _ => keeps_pure _

end Keeping

/-! ### Calls -/

/-- What a caller does next that starts an engine or shuts it down. A start may be one that waits
for the feed. -/
inductive Stage where
  | entering (waits : Bool)
  | applyingBootstrap (waits : Bool)
  | schedulingIdLists (waits : Bool)
  | spawning (waits : Bool)
  | completing (waits : Bool)
  | waiting
  | closing (timeout : Nat)
  | stoppingFeed (timeout : Nat)
  | stoppingIdLists (timeout : Nat) (feed : Except Failure Unit)
  | stoppingLog (timeout : Nat) (feed idLists : Except Failure Unit)
  | finishing (results : List (Except Failure Unit))
  | returned (result : Except Failure Unit)

namespace Stage

/-- The stage of a caller that finds the engine started. -/
def started (waits : Bool) : Stage := if waits then .waiting else .returned (.ok ())

/-- The stage of a caller that has tried to enter the start of the engine. -/
def entered (waits : Bool) : Except Failure Bool → Stage
  | .error failure => .returned (.error failure)
  | .ok false => .started waits
  | .ok true => .applyingBootstrap waits

/-- The next step of a caller, which is atomic. Waiting ends with the start of the feed, or when the
time is up. -/
def resume : Stage → Engine → Stage × Engine
  | .entering waits, e =>
    (.entered waits e.lifecycle.enter.1, { e with lifecycle := e.lifecycle.enter.2 })
  | .applyingBootstrap waits, e => (.schedulingIdLists waits, (applyBootstrap e).2)
  | .schedulingIdLists waits, e => (.spawning waits, (scheduleIdLists e).2)
  | .spawning waits, e => (.completing waits, (onLifecycle Lifecycle.spawn e).2)
  | .completing waits, e => (.started waits, (onLifecycle Lifecycle.becomeReady e).2)
  | .waiting, e => (.returned (e.lifecycle.await e.settings.initTimeout), e)
  | .closing timeout, e =>
    (if e.lifecycle.close.1 then .stoppingFeed timeout else .returned (.ok ()),
      { e with lifecycle := e.lifecycle.close.2 })
  | .stoppingFeed timeout, e =>
    let (feed, e) := onIntake (Intake.shutdown timeout) e
    (.stoppingIdLists timeout feed, e)
  | .stoppingIdLists timeout feed, e =>
    (.stoppingLog timeout feed (e.idListPoller.shutdown timeout),
      { e with idListPoller := .absent })
  | .stoppingLog timeout feed idLists, e =>
    let (log, e) := askLog (·.shutdown timeout) e
    (.finishing [feed, idLists, log], e)
  | .finishing results, e => (.returned (firstFailure results), (onLifecycle Lifecycle.closed e).2)
  | .returned result, e => (.returned result, e)

/-- Whether the caller has entered the start of the engine, and has not completed it. -/
def isStarting : Stage → Bool
  | .applyingBootstrap _ | .schedulingIdLists _ | .spawning _ | .completing _ => true
  | _ => false

end Stage

/-- The next step of the start thread, if it has one. It does not go on while the host holds the
feed. -/
def startThread (e : Engine) : Engine :=
  match e.lifecycle.thread with
  | .starting =>
    if !e.intake.feed.isListening then (onIntake Intake.listen e).2
    else if e.intake.feed.isHeld then e
    else
      let (started, e) := onIntake Intake.supply e
      (onLifecycle (·.feedStarted started) e).2
  | .scheduling _ =>
    let (scheduled, e) := scheduleFeed e
    (onLifecycle (·.feedScheduled scheduled) e).2
  | .absent | .finished => e

/-- Whether the next step of the start thread is to have the feed scheduled. -/
def isAboutToSchedule (e : Engine) : Bool :=
  match e.lifecycle.thread with
  | .scheduling _ => e.lifecycle.maySchedule
  | _ => false

/-! ### Interleavings -/

/-- An engine with those who have been called upon to start it or to shut it down. -/
structure Scene where
  engine : Engine
  callers : List Stage := []

namespace Scene

/-- What can happen at one time. -/
inductive Move where
  /-- A caller sets about to start the engine. -/
  | start (waits : Bool)
  /-- A caller sets about to shut the engine down. -/
  | shutdown (timeout : Nat)
  /-- A caller makes its next step. -/
  | resume (i : Nat)
  /-- The start thread makes its next step. -/
  | thread
  /-- The host lets the start of its feed go on. -/
  | release

/-- The scene after the next step of a caller. -/
def resume (s : Scene) (i : Nat) : Scene :=
  match s.callers[i]? with
  | some stage =>
    let (stage, engine) := stage.resume s.engine
    { engine, callers := s.callers.set i stage }
  | none => s

/-- The scene after a move; a move that cannot be made changes nothing. -/
def perform (s : Scene) : Move → Scene
  | .start waits => { s with callers := s.callers ++ [.entering waits] }
  | .shutdown timeout => { s with callers := s.callers ++ [.closing timeout] }
  | .resume i => s.resume i
  | .thread => { s with engine := startThread s.engine }
  | .release =>
    { s with engine := (onIntake (Intake.onFeed fun f => { f with isHeld := false }) s.engine).2 }

/-- The scene after a run. -/
abbrev run (s : Scene) (moves : List Move) : Scene := moves.foldl perform s

/-- The life of the engine so far. -/
def phase (s : Scene) : Phase := s.engine.phase

/-- How many callers are starting the engine. -/
def starters (s : Scene) : Nat := s.callers.countP Stage.isStarting

/-- Whether the feed is scheduled in a move. -/
def schedules (s : Scene) : Move → Bool
  | .thread => s.engine.isAboutToSchedule
  | _ => false

end Scene

/-! ### Single steps -/

namespace Stage

theorem isStarting_started (waits : Bool) : (started waits).isStarting = false := by
  cases waits <;> rfl

theorem isStarting_entered (waits : Bool) {result : Except Failure Bool} (h : result ≠ .ok true) :
    (entered waits result).isStarting = false := by
  match result with
  | .error _ => rfl
  | .ok false => exact isStarting_started waits
  | .ok true => exact absurd rfl h

variable {e : Engine}

theorem resume_entering (h : e.phase = .uninitialized) (waits : Bool) :
    (entering waits).resume e =
      (.applyingBootstrap waits,
        { e with lifecycle := { e.lifecycle with phase := .initializing } }) := by
  show (entered waits e.lifecycle.enter.1, { e with lifecycle := e.lifecycle.enter.2 }) = _
  rw [Lifecycle.enter_of_uninitialized h]
  rfl

theorem resume_entering_begun (h : e.phase ≠ .uninitialized) (waits : Bool) :
    ((entering waits).resume e).1.isStarting = false ∧ ((entering waits).resume e).2 = e := by
  obtain ⟨hentered, hsame⟩ := Lifecycle.enter_of_begun h
  refine ⟨isStarting_entered waits hentered, ?_⟩
  show { e with lifecycle := e.lifecycle.enter.2 } = e
  rw [hsame]

theorem resume_closing (h : e.phase.isClosing = false) (timeout : Nat) :
    (closing timeout).resume e =
      (.stoppingFeed timeout,
        { e with lifecycle := { e.lifecycle with phase := .shuttingDown } }) := by
  show (if e.lifecycle.close.1 then stoppingFeed timeout else returned (.ok ()),
    { e with lifecycle := e.lifecycle.close.2 }) = _
  rw [Lifecycle.close_of_open h]
  rfl

theorem resume_closing_again (h : e.phase.isClosing = true) (timeout : Nat) :
    (closing timeout).resume e = (.returned (.ok ()), e) := by
  show (if e.lifecycle.close.1 then stoppingFeed timeout else returned (.ok ()),
    { e with lifecycle := e.lifecycle.close.2 }) = _
  rw [Lifecycle.close_of_closing h]
  rfl

end Stage

theorem scheduleFeed_eq (e : Engine) :
    scheduleFeed e = (if e.lifecycle.maySchedule then onIntake Intake.schedule
      else return .ok () : StateM Engine (Except Failure Unit)) e := rfl

theorem intake_startThread_scheduling {e : Engine} {started : Except Failure Unit}
    (h : e.lifecycle.thread = .scheduling started) :
    (startThread e).intake =
      if e.isAboutToSchedule then (Intake.schedule e.intake).2 else e.intake := by
  unfold startThread isAboutToSchedule
  rw [h]
  show (scheduleFeed e).2.intake = _
  rw [scheduleFeed_eq]
  cases e.lifecycle.maySchedule <;> rfl

namespace Scene

variable {s : Scene} {i : Nat} {stage : Stage}

theorem resume_of_some (h : s.callers[i]? = some stage) :
    s.resume i =
      { engine := (stage.resume s.engine).2
        callers := s.callers.set i (stage.resume s.engine).1 } := by
  unfold resume
  rw [h]

theorem resume_of_none (h : s.callers[i]? = none) : s.resume i = s := by
  unfold resume
  rw [h]

theorem callers_resume (h : s.callers[i]? = some stage) :
    (s.resume i).callers[i]? = some (stage.resume s.engine).1 := by
  rw [resume_of_some h]
  exact List.getElem?_set_self (List.getElem?_eq_some_iff.1 h).1

end Scene

/-! ### Calls that are left alone -/

section Alone

variable {e : Engine}

theorem eq_of_make {sdkKey : String} {s : Settings} {h : HostParts}
    (hmake : make sdkKey s h = .ok e) :
    ∃ source poster idLists log, chooseFeed sdkKey s h = .ok source ∧
      e = { settings := s, poster, idLists, log, storage := h.storage
            intake :=
              { feed := .ofSource source, network := h.network, now := h.now
                catalog := { archive := h.dataStore } } } := by
  obtain ⟨_, -, hmake⟩ := bind_eq_ok hmake
  obtain ⟨_, -, hmake⟩ := bind_eq_ok hmake
  obtain ⟨source, hsource, hmake⟩ := bind_eq_ok hmake
  obtain ⟨poster, -, hmake⟩ := bind_eq_ok hmake
  obtain ⟨idLists, -, hmake⟩ := bind_eq_ok hmake
  cases hmake
  exact ⟨source, poster, idLists, _, hsource, rfl⟩

/-- An engine that has just been made has not been started, nor has its feed. -/
theorem new_of_make {sdkKey : String} {s : Settings} {h : HostParts}
    (hmake : make sdkKey s h = .ok e) :
    e.lifecycle = {} ∧ e.intake.feed.isListening = false := by
  obtain ⟨_, _, _, _, -, rfl⟩ := eq_of_make hmake
  exact ⟨rfl, rfl⟩

theorem isListening_listen (i : Intake) : (Intake.listen i).2.feed.isListening = true := by
  obtain ⟨⟨source⟩⟩ := i
  cases source <;> rfl

/-- In three steps the start thread comes to its end, or to where the host holds the feed. -/
theorem startThread_to_its_end (hthread : e.lifecycle.thread = .starting)
    (hfeed : e.intake.feed.isListening = false) :
    startThread (startThread (startThread e)) = (runStart e).2 := by
  have hlisten : startThread e = (onIntake Intake.listen e).2 := by
    unfold startThread
    rw [hthread, hfeed]
    rfl
  have hrun : runStart e = (if (onIntake Intake.listen e).2.intake.feed.isHeld then pure ()
      else finishStart) (onIntake Intake.listen e).2 := rfl
  have hlistening : (onIntake Intake.listen e).2.intake.feed.isListening = true :=
    isListening_listen e.intake
  rw [hlisten, hrun]
  have hthread' : (onIntake Intake.listen e).2.lifecycle.thread = .starting := hthread
  generalize (onIntake Intake.listen e).2 = e' at hlistening hthread' ⊢
  -- Where the host holds the feed, the other two steps change nothing.
  cases hheld : e'.intake.feed.isHeld with
  | true =>
    have hstay : startThread e' = e' := by
      unfold startThread
      rw [hthread', hlistening, hheld]
      rfl
    rw [hstay, hstay]
    rfl
  | false =>
    have hsupply : startThread e' =
        let (started, e) := onIntake Intake.supply e'
        (onLifecycle (·.feedStarted started) e).2 := by
      unfold startThread
      rw [hthread', hlistening, hheld]
      rfl
    rw [hsupply]
    rfl

/-- An engine whose start has come as far as to spawn the start thread. -/
def spawned (e : Engine) : Engine :=
  let e := { e with lifecycle := { e.lifecycle with phase := .initializing } }
  (onLifecycle Lifecycle.spawn (scheduleIdLists (applyBootstrap e).2).2).2

theorem feed_spawned (e : Engine) : (spawned e).intake.feed = e.intake.feed := by
  have hkeeps : Keeps (·.intake.feed) (applyBootstrap >>= fun _ => scheduleIdLists) :=
    (keeps_applyBootstrap fun _ _ => rfl).bind fun _ => keeps_scheduleIdLists fun _ => rfl
  exact hkeeps { e with lifecycle := { e.lifecycle with phase := .initializing } }

/-- `start` after its first step. -/
theorem start_eq (e : Engine) :
    start e = (match e.lifecycle.enter.1 with
      | .error failure => return .error failure
      | .ok false => return .ok ()
      | .ok true => do
        applyBootstrap
        scheduleIdLists
        onLifecycle Lifecycle.spawn
        runStart
        onLifecycle Lifecycle.becomeReady
        return .ok () : StateM Engine (Except Failure Unit))
      { e with lifecycle := e.lifecycle.enter.2 } := rfl

theorem start_of_uninitialized (h : e.phase = .uninitialized) :
    start e = (.ok (), (onLifecycle Lifecycle.becomeReady (runStart (spawned e)).2).2) := by
  rw [start_eq, Lifecycle.enter_of_uninitialized h]
  rfl

theorem start_of_begun (h : e.phase ≠ .uninitialized) :
    start e = (e.lifecycle.enter.1.map fun _ => (), e) := by
  obtain ⟨hentered, hsame⟩ := Lifecycle.enter_of_begun h
  rw [start_eq, hsame]
  cases hresult : e.lifecycle.enter.1 with
  | error failure => rfl
  | ok entered =>
    cases entered with
    | false => rfl
    | true => exact absurd hresult hentered

theorem startAndWait_of_error {failure : Failure} (h : (start e).1 = .error failure) :
    startAndWait e = (.error failure, (start e).2) := by
  unfold startAndWait
  rw [bind_apply, h]
  rfl

theorem startAndWait_of_ok (h : (start e).1 = .ok ()) :
    startAndWait e =
      ((start e).2.lifecycle.await (start e).2.settings.initTimeout, (start e).2) := by
  unfold startAndWait
  rw [bind_apply, h]
  rfl

/-- `shutdown` after its first step. -/
theorem shutdown_eq (timeout : Nat) (e : Engine) :
    shutdown timeout e = (if e.lifecycle.close.1 then do
        let feed ← onIntake (Intake.shutdown timeout)
        let idLists := (← get).idListPoller.shutdown timeout
        modify fun e => { e with idListPoller := .absent }
        let log ← askLog (·.shutdown timeout)
        onLifecycle Lifecycle.closed
        return firstFailure [feed, idLists, log]
      else return .ok () : StateM Engine (Except Failure Unit))
      { e with lifecycle := e.lifecycle.close.2 } := rfl

end Alone

namespace Scene

section Alone

variable {e : Engine}

/-- A scene with one caller. -/
def alone (e : Engine) (stage : Stage) : Scene := { engine := e, callers := [stage] }

/-- A caller that has been starting the engine alone finds it as `start` leaves it. By then it is
where a caller is that enters an engine that is started. -/
theorem exists_run_entering (hfeed : e.phase = .uninitialized → e.intake.feed.isListening = false)
    (waits : Bool) :
    ∃ moves, (alone e (.entering waits)).run moves =
      alone (start e).2 (.entered waits ((start e).1.map fun () => false)) := by
  by_cases hp : e.phase = .uninitialized
  · refine ⟨[.resume 0, .resume 0, .resume 0, .resume 0, .thread, .thread, .thread, .resume 0], ?_⟩
    have hthread := startThread_to_its_end (e := spawned e) rfl
      ((congrArg Feed.isListening (feed_spawned e)).trans (hfeed hp))
    rw [start_of_uninitialized hp]
    show (alone ((Stage.entering waits).resume e).2 ((Stage.entering waits).resume e).1).run
      [.resume 0, .resume 0, .resume 0, .thread, .thread, .thread, .resume 0] = _
    rw [Stage.resume_entering hp]
    show alone (onLifecycle Lifecycle.becomeReady
      (startThread (startThread (startThread (spawned e))))).2 (.started waits) = _
    rw [hthread]
    rfl
  · refine ⟨[.resume 0], ?_⟩
    obtain ⟨hentered, hsame⟩ := Lifecycle.enter_of_begun hp
    show alone { e with lifecycle := e.lifecycle.enter.2 } (.entered waits e.lifecycle.enter.1) = _
    rw [start_of_begun hp, hsame]
    cases hresult : e.lifecycle.enter.1 with
    | error failure => rfl
    | ok entered =>
      cases entered with
      | false => rfl
      | true => exact absurd hresult hentered

theorem exists_run_start (hfeed : e.phase = .uninitialized → e.intake.feed.isListening = false) :
    ∃ moves, (alone e (.entering false)).run moves =
      alone (start e).2 (.returned (start e).1) := by
  obtain ⟨moves, h⟩ := exists_run_entering hfeed false
  refine ⟨moves, h.trans ?_⟩
  cases (start e).1 <;> rfl

theorem exists_run_startAndWait
    (hfeed : e.phase = .uninitialized → e.intake.feed.isListening = false) :
    ∃ moves, (alone e (.entering true)).run moves =
      alone (startAndWait e).2 (.returned (startAndWait e).1) := by
  obtain ⟨moves, h⟩ := exists_run_entering hfeed true
  refine ⟨moves ++ [.resume 0], ?_⟩
  refine List.foldl_append.trans ((congrArg (run · [.resume 0]) h).trans ?_)
  cases hr : (start e).1 with
  | error failure =>
    rw [startAndWait_of_error hr]
    rfl
  | ok u =>
    rw [startAndWait_of_ok hr]
    rfl

theorem exists_run_shutdown (timeout : Nat) :
    ∃ moves, (alone e (.closing timeout)).run moves =
      alone (shutdown timeout e).2 (.returned (shutdown timeout e).1) := by
  rw [shutdown_eq]
  cases hp : e.phase.isClosing with
  | true =>
    refine ⟨[.resume 0], ?_⟩
    show alone ((Stage.closing timeout).resume e).2 ((Stage.closing timeout).resume e).1 = _
    rw [Stage.resume_closing_again hp, Lifecycle.close_of_closing hp]
    rfl
  | false =>
    refine ⟨[.resume 0, .resume 0, .resume 0, .resume 0, .resume 0], ?_⟩
    show (alone ((Stage.closing timeout).resume e).2 ((Stage.closing timeout).resume e).1).run
      [.resume 0, .resume 0, .resume 0, .resume 0] = _
    rw [Stage.resume_closing hp, Lifecycle.close_of_open hp]
    rfl

end Alone

end Scene

end Engine

end Rollout
