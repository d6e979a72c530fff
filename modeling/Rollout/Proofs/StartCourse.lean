import Mathlib.Data.List.Basic
import Rollout.Proofs.Runs
import Rollout.Proofs.ShutdownRace

/-!
# The course of a start

What happens to an engine and its feed while callers start it, and nobody shuts it down, is read off
the moves of a run (`Engine.Scene.deeds`). One caller goes through the start and spawns the start
thread; each of its stages, and each step of the thread, is where it is in one course of deeds
(`Engine.Course`). Every move that begins on the course ends on it, further on by what is done in
the move (`Engine.Scene.OnCourse.perform`).
-/

namespace Rollout

namespace Engine

/-- Whether the caller shuts the engine down. -/
def Stage.isEnding : Stage → Bool
  | .closing _ | .stoppingFeed _ | .stoppingIdLists .. | .stoppingLog .. | .finishing _ => true
  | _ => false

/-! ### Deeds -/

/-- What happens when an engine is started. -/
inductive Deed where
  /-- The payload at hand is taken in. -/
  | bootstraps (text : String)
  /-- The start of the feed begins. -/
  | feedStarts
  /-- The start of the feed ends. -/
  | feedStarted (result : Except Failure Unit)
  /-- The feed is scheduled. -/
  | feedScheduled (result : Except Failure Unit)
  /-- A caller that has waited finds no result when its time is up. -/
  | gaveUp (i : Nat)

/-- Whether something happens to the engine or its feed. -/
def Deed.isStep : Deed → Bool
  | .bootstraps _ | .feedStarts | .feedStarted _ | .feedScheduled _ => true
  | .gaveUp _ => false

/-- What happens in the next step of the start thread. -/
def threadDeed? (e : Engine) : Option Deed :=
  match e.lifecycle.thread with
  | .starting =>
    if !e.intake.feed.isListening then some .feedStarts
    else if e.intake.feed.isHeld then none
    else some (.feedStarted (Intake.supply e.intake).1)
  | .scheduling _ =>
    if e.isAboutToSchedule then some (.feedScheduled (Intake.schedule e.intake).1) else none
  | .absent | .finished => none

/-- What happens in the next step of a caller, the `i`-th one. -/
def Stage.deed? (i : Nat) (e : Engine) : Stage → Option Deed
  | .applyingBootstrap _ => e.settings.bootstrap.map .bootstraps
  | .waiting => if e.lifecycle.result.isNone then some (.gaveUp i) else none
  | _ => none

namespace Scene

/-- What happens in a move. -/
def deed? (s : Scene) : Move → Option Deed
  | .resume i => s.callers[i]?.bind (Stage.deed? i s.engine)
  | .thread => s.engine.threadDeed?
  | .start _ | .shutdown _ | .release => none

/-- What happens in a run, in order. -/
abbrev deeds (s : Scene) (moves : List Move) : List Deed :=
  recordFrom perform (fun s m => (s.deed? m).toList) s moves

end Scene

/-- Whether a move brings a caller that starts the engine, and whether that caller waits. -/
def Scene.Move.waits? : Scene.Move → Option Bool
  | .start waits => some waits
  | _ => none

/-- The callers of a run that start the engine, each with whether it waits. -/
def Scene.starts (moves : List Scene.Move) : List Bool := moves.filterMap Scene.Move.waits?

theorem Scene.starts_concat (moves : List Scene.Move) (m : Scene.Move) :
    Scene.starts (moves ++ [m]) = Scene.starts moves ++ m.waits?.toList :=
  filterMap_concat ..

/-! ### The course of a start -/

/-- The start thread, whether the feed has been started, the result, and what the thread has done
by then. -/
inductive ThreadCourse : StartThread → Bool → Option (Except Failure Unit) → List Deed → Prop
  | starting : ThreadCourse .starting false none []
  | listening : ThreadCourse .starting true none [.feedStarts]
  | scheduling (listening : Bool) (started : Except Failure Unit) :
    ThreadCourse (.scheduling started) listening none [.feedStarts, .feedStarted started]
  | finished (listening : Bool) (started scheduled : Except Failure Unit) :
    ThreadCourse .finished listening (some (Lifecycle.firstResult started scheduled))
      [.feedStarts, .feedStarted started, .feedScheduled scheduled]

theorem ThreadCourse.exists_outcome {thread : StartThread} {listening : Bool}
    {result : Option (Except Failure Unit)} {done : List Deed}
    (h : ThreadCourse thread listening result done) :
    ∃ started scheduled,
      done <+: [.feedStarts, .feedStarted started, .feedScheduled scheduled] ∧
        ∀ r ∈ result, .feedScheduled scheduled ∈ done ∧ r = started.bind fun () => scheduled := by
  cases h with
  | starting => exact ⟨.ok (), .ok (), List.nil_prefix, nofun⟩
  | listening => exact ⟨.ok (), .ok (), List.prefix_append _ _, nofun⟩
  | scheduling listening started => exact ⟨started, .ok (), List.prefix_append _ _, nofun⟩
  | finished listening started scheduled =>
    refine ⟨started, scheduled, List.prefix_rfl, ?_⟩
    rintro _ ⟨⟩
    exact ⟨by simp, rfl⟩

/-- Once the start of the feed has ended, the feed is about to be scheduled, or has been. -/
theorem ThreadCourse.of_feedStarted {thread : StartThread} {listening : Bool}
    {result : Option (Except Failure Unit)} {done : List Deed} {started : Except Failure Unit}
    (h : ThreadCourse thread listening result done) (hmem : .feedStarted started ∈ done) :
    thread = .scheduling started ∨ ∃ scheduled, .feedScheduled scheduled ∈ done := by
  cases h with
  | starting => cases hmem
  | listening => simp at hmem
  | scheduling listening started' =>
    obtain rfl : started = started' := by simpa using hmem
    exact .inl rfl
  | finished listening started' scheduled => exact .inr ⟨scheduled, by simp⟩

/-- What has been done before the start thread does anything. -/
def bootstrapDeeds (bootstrap : Option String) : List Deed :=
  (bootstrap.map Deed.bootstraps).toList

/-- The phase, the callers that are starting the engine, then as in `ThreadCourse`. -/
inductive Course (bootstrap : Option String) :
    Phase → List Stage → StartThread → Bool → Option (Except Failure Unit) → List Deed → Prop
  | fresh : Course bootstrap .uninitialized [] .absent false none []
  | entered (waits : Bool) :
    Course bootstrap .initializing [.applyingBootstrap waits] .absent false none []
  | bootstrapped (waits : Bool) :
    Course bootstrap .initializing [.schedulingIdLists waits] .absent false none
      (bootstrapDeeds bootstrap)
  | spawning (waits : Bool) :
    Course bootstrap .initializing [.spawning waits] .absent false none (bootstrapDeeds bootstrap)
  | completing (waits : Bool) {thread : StartThread} {listening : Bool}
    {result : Option (Except Failure Unit)} {done : List Deed}
    (h : ThreadCourse thread listening result done) :
    Course bootstrap .initializing [.completing waits] thread listening result
      (bootstrapDeeds bootstrap ++ done)
  | ready {thread : StartThread} {listening : Bool} {result : Option (Except Failure Unit)}
    {done : List Deed} (h : ThreadCourse thread listening result done) :
    Course bootstrap .ready [] thread listening result (bootstrapDeeds bootstrap ++ done)

namespace Course

variable {bootstrap : Option String} {p : Phase} {l : List Stage} {thread : StartThread}
  {listening : Bool} {result : Option (Except Failure Unit)} {done : List Deed}

theorem isClosing (h : Course bootstrap p l thread listening result done) :
    p.isClosing = false := by
  cases h <;> rfl

theorem finished {r : Except Failure Unit}
    (h : Course bootstrap p l thread listening (some r) done) : thread = .finished := by
  cases h with
  | completing waits h | ready h =>
    cases h
    rfl

/-- The start thread has not been spawned, or it goes on while phase and callers stay. -/
theorem of_thread (h : Course bootstrap p l thread listening result done) :
    thread = .absent ∨ ∃ before, ThreadCourse thread listening result before ∧
      done = bootstrapDeeds bootstrap ++ before ∧
      ∀ {thread' listening' result' after}, ThreadCourse thread' listening' result' after →
        Course bootstrap p l thread' listening' result' (bootstrapDeeds bootstrap ++ after) := by
  cases h with
  | fresh | entered | bootstrapped | spawning => exact .inl rfl
  | completing waits h => exact .inr ⟨_, h, rfl, .completing waits⟩
  | ready h => exact .inr ⟨_, h, rfl, .ready⟩

theorem exists_outcome (h : Course bootstrap p l thread listening result done) :
    ∃ started scheduled,
      done <+: bootstrapDeeds bootstrap ++
          [.feedStarts, .feedStarted started, .feedScheduled scheduled] ∧
        ∀ r ∈ result, .feedScheduled scheduled ∈ done ∧ r = started.bind fun () => scheduled := by
  cases h with
  | fresh | entered => exact ⟨.ok (), .ok (), List.nil_prefix, nofun⟩
  | bootstrapped | spawning => exact ⟨.ok (), .ok (), List.prefix_append _ _, nofun⟩
  | completing waits h | ready h =>
    obtain ⟨started, scheduled, hprefix, hresult⟩ := h.exists_outcome
    refine ⟨started, scheduled, (List.prefix_append_right_inj _).2 hprefix, fun r hr => ?_⟩
    exact ⟨List.mem_append_right _ (hresult r hr).1, (hresult r hr).2⟩

theorem of_feedStarted {started : Except Failure Unit}
    (h : Course bootstrap p l thread listening result done)
    (hmem : .feedStarted started ∈ done) :
    thread = .scheduling started ∨ ∃ scheduled, .feedScheduled scheduled ∈ done := by
  have hnot : .feedStarted started ∉ bootstrapDeeds bootstrap := by
    unfold bootstrapDeeds
    cases bootstrap <;> simp
  cases h with
  | fresh | entered => cases hmem
  | bootstrapped | spawning => exact absurd hmem hnot
  | completing waits h | ready h =>
    have hdone := (List.mem_append.1 hmem).resolve_left hnot
    refine (h.of_feedStarted hdone).imp_right ?_
    rintro ⟨scheduled, hscheduled⟩
    exact ⟨scheduled, List.mem_append_right _ hscheduled⟩

end Course

/-! ### Single steps -/

section Steps

variable {e : Engine}

theorem keeps_feed_applyBootstrap : Keeps (·.intake.feed) applyBootstrap :=
  keeps_applyBootstrap fun _ _ => rfl

theorem keeps_feed_scheduleIdLists : Keeps (·.intake.feed) scheduleIdLists :=
  keeps_scheduleIdLists fun _ => rfl

theorem Stage.resume_entering_open (h : e.phase = .initializing ∨ e.phase = .ready)
    (waits : Bool) : (Stage.entering waits).resume e = (.started waits, e) := by
  have henter : e.lifecycle.enter = (.ok false, e.lifecycle) := by
    change e.lifecycle.phase = _ ∨ e.lifecycle.phase = _ at h
    unfold Lifecycle.enter
    rcases h with h | h <;> rw [h]
  show (Stage.entered waits e.lifecycle.enter.1, { e with lifecycle := e.lifecycle.enter.2 }) = _
  rw [henter]
  rfl

theorem settings_startThread (e : Engine) : (startThread e).settings = e.settings := by
  unfold startThread
  cases e.lifecycle.thread with
  | absent | finished => rfl
  | starting =>
    dsimp only
    split
    · rfl
    · split <;> rfl
  | scheduling started =>
    show (scheduleFeed e).2.settings = _
    rw [scheduleFeed_eq]
    split <;> rfl

/-- Who does not shut the engine down changes neither settings, feed nor the result of the start. -/
theorem Stage.keeps_resume {stage : Stage} (h : stage.isEnding = false) :
    (stage.resume e).2.settings = e.settings ∧
      (stage.resume e).2.lifecycle.result = e.lifecycle.result ∧
      (stage.resume e).2.intake.feed = e.intake.feed := by
  cases stage with
  | entering waits =>
    refine ⟨rfl, ?_, rfl⟩
    show e.lifecycle.enter.2.result = _
    unfold Lifecycle.enter
    split <;> rfl
  | applyingBootstrap =>
    have hsettings : Keeps settings applyBootstrap := keeps_applyBootstrap fun _ _ => rfl
    have hlife : Keeps lifecycle applyBootstrap := keeps_applyBootstrap fun _ => keeps_onIntake _
    exact ⟨hsettings e, congrArg Lifecycle.result (hlife e), keeps_feed_applyBootstrap e⟩
  | schedulingIdLists =>
    have hsettings : Keeps settings scheduleIdLists := keeps_scheduleIdLists fun _ => rfl
    have hlife : Keeps lifecycle scheduleIdLists := keeps_scheduleIdLists fun _ => rfl
    exact ⟨hsettings e, congrArg Lifecycle.result (hlife e), keeps_feed_scheduleIdLists e⟩
  | spawning | completing | waiting | returned => exact ⟨rfl, rfl, rfl⟩
  | closing | stoppingFeed | stoppingIdLists | stoppingLog | finishing => cases h

theorem isStep_of_threadDeed? {d : Deed} (h : e.threadDeed? = some d) : d.isStep = true := by
  unfold threadDeed? at h
  split at h
  · split_ifs at h <;> cases h <;> rfl
  · split_ifs at h
    cases h
    rfl
  all_goals cases h

theorem startThread_of_idle (h : e.lifecycle.thread = .absent ∨ e.lifecycle.thread = .finished) :
    startThread e = e ∧ e.threadDeed? = none := by
  unfold startThread threadDeed?
  rcases h with h | h <;> rw [h] <;> exact ⟨rfl, rfl⟩

theorem isAboutToSchedule_of_open {started : Except Failure Unit}
    (h : e.lifecycle.thread = .scheduling started) (hopen : e.phase.isClosing = false) :
    e.isAboutToSchedule = true := by
  unfold isAboutToSchedule
  rw [h]
  exact congrArg (!·) hopen

theorem threadDeed?_scheduling {e : Engine} {started : Except Failure Unit}
    (h : e.lifecycle.thread = .scheduling started) (hopen : e.phase.isClosing = false) :
    e.threadDeed? = some (.feedScheduled (Intake.schedule e.intake).1) := by
  unfold threadDeed?
  rw [h]
  exact if_pos (isAboutToSchedule_of_open h hopen)

/-- The start thread stays on its course. -/
theorem ThreadCourse.startThread {done : List Deed}
    (h : ThreadCourse e.lifecycle.thread e.intake.feed.isListening e.lifecycle.result done)
    (hopen : e.phase.isClosing = false) :
    ThreadCourse (startThread e).lifecycle.thread (startThread e).intake.feed.isListening
      (startThread e).lifecycle.result (done ++ e.threadDeed?.toList) := by
  generalize hthread : e.lifecycle.thread = thread at h
  generalize hlistening : e.intake.feed.isListening = listening at h
  generalize hresult : e.lifecycle.result = result at h
  cases h with
  | starting =>
    have hstep : Engine.startThread e = (onIntake Intake.listen e).2 ∧
        e.threadDeed? = some .feedStarts := by
      unfold Engine.startThread threadDeed?
      rw [hthread, hlistening]
      exact ⟨rfl, rfl⟩
    have hlisten : (onIntake Intake.listen e).2.intake.feed.isListening = true :=
      isListening_listen e.intake
    have hsame : (onIntake Intake.listen e).2.lifecycle = e.lifecycle := rfl
    rw [hstep.1, hstep.2, hlisten, hsame, hthread, hresult]
    exact .listening
  | listening =>
    by_cases hheld : e.intake.feed.isHeld = true
    · have hstep : Engine.startThread e = e ∧ e.threadDeed? = none := by
        unfold Engine.startThread threadDeed?
        rw [hthread, hlistening, hheld]
        exact ⟨rfl, rfl⟩
      rw [hstep.1, hstep.2, hlistening, hthread, hresult]
      exact .listening
    · have hstep : Engine.startThread e =
            (onLifecycle (·.feedStarted (Intake.supply e.intake).1)
              (onIntake Intake.supply e).2).2 ∧
          e.threadDeed? = some (.feedStarted (Intake.supply e.intake).1) := by
        unfold Engine.startThread threadDeed?
        rw [hthread, hlistening, Bool.eq_false_iff.2 hheld]
        exact ⟨rfl, rfl⟩
      have hafter : (Engine.startThread e).lifecycle =
          e.lifecycle.feedStarted (Intake.supply e.intake).1 :=
        congrArg lifecycle hstep.1
      rw [hafter, hstep.2]
      unfold Lifecycle.feedStarted
      dsimp only
      rw [hresult]
      exact .scheduling _ _
  | scheduling listening started =>
    have habout := isAboutToSchedule_of_open hthread hopen
    have hdeed : e.threadDeed? = some (.feedScheduled (Intake.schedule e.intake).1) := by
      unfold threadDeed?
      rw [hthread, habout]
      rfl
    have hschedule : scheduleFeed e = onIntake Intake.schedule e := by
      rw [scheduleFeed_eq, if_pos]
      exact congrArg (!·) hopen
    have hafter : (Engine.startThread e).lifecycle =
        e.lifecycle.feedScheduled (Intake.schedule e.intake).1 := by
      unfold Engine.startThread
      rw [hthread]
      dsimp only
      rw [hschedule]
      rfl
    rw [hafter, hdeed]
    unfold Lifecycle.feedScheduled
    rw [hthread]
    exact .finished _ _ _
  | finished listening started scheduled =>
    obtain ⟨hsame, hdeed⟩ := startThread_of_idle (.inr hthread)
    rw [hsame, hdeed, hthread, hresult]
    exact .finished _ _ _

end Steps

/-! ### Callers that are starting the engine -/

namespace Scene

/-- The callers that are starting the engine. -/
def starting (s : Scene) : List Stage := s.callers.filter Stage.isStarting

section Starting

variable {l : List Stage} {i : Nat} {stage stage' : Stage}

theorem exists_filter_set (hi : l[i]? = some stage) :
    ∃ before after, l.filter Stage.isStarting =
        before ++ [stage].filter Stage.isStarting ++ after ∧
      ∀ stage', (l.set i stage').filter Stage.isStarting =
        before ++ [stage'].filter Stage.isStarting ++ after := by
  obtain ⟨hlt, rfl⟩ := List.getElem?_eq_some_iff.1 hi
  refine ⟨(l.take i).filter Stage.isStarting, (l.drop (i + 1)).filter Stage.isStarting, ?_,
    fun stage' => ?_⟩
  · conv_lhs => rw [← List.take_append_drop i l, ← List.getElem_cons_drop hlt]
    simp only [List.filter_append, List.filter_cons, List.filter_nil]
    split <;> simp
  · rw [List.set_eq_take_append_cons_drop, if_pos hlt]
    simp only [List.filter_append, List.filter_cons, List.filter_nil]
    split <;> simp

/-- Who is not starting the engine, before a step and after it, does not count. -/
theorem filter_set_of_not (hi : l[i]? = some stage) (hstage : stage.isStarting = false)
    (hstage' : stage'.isStarting = false) :
    (l.set i stage').filter Stage.isStarting = l.filter Stage.isStarting := by
  obtain ⟨before, after, hl, hset⟩ := exists_filter_set hi
  rw [hset, hl]
  simp [hstage, hstage']

theorem filter_set_of_nil (hi : l[i]? = some stage) (hnil : l.filter Stage.isStarting = []) :
    (l.set i stage').filter Stage.isStarting = [stage'].filter Stage.isStarting := by
  obtain ⟨before, after, hl, hset⟩ := exists_filter_set hi
  rw [hl] at hnil
  obtain ⟨hleft, hafter⟩ := List.append_eq_nil_iff.1 hnil
  obtain ⟨hbefore, -⟩ := List.append_eq_nil_iff.1 hleft
  rw [hset, hbefore, hafter, List.nil_append, List.append_nil]

/-- If one caller is starting the engine, it is the one that says so. -/
theorem filter_set_of_singleton {only : Stage} (hi : l[i]? = some stage)
    (hone : l.filter Stage.isStarting = [only]) (hstage : stage.isStarting = true) :
    stage = only ∧
      (l.set i stage').filter Stage.isStarting = [stage'].filter Stage.isStarting := by
  obtain ⟨before, after, hl, hset⟩ := exists_filter_set hi
  rw [hl, List.filter_cons_of_pos hstage, List.filter_nil, List.append_assoc,
    List.append_eq_singleton_iff] at hone
  obtain ⟨hbefore, hrest⟩ | ⟨-, hrest⟩ := hone
  · obtain ⟨rfl, hafter⟩ := List.cons.inj hrest
    change after = [] at hafter
    refine ⟨rfl, ?_⟩
    rw [hset, hbefore, hafter, List.nil_append, List.append_nil]
  · cases hrest

end Starting

/-! ### The course of a run -/

variable {s : Scene} {i : Nat} {stage : Stage} {bootstrap : Option String} {done : List Deed}

/-- The scene is where the start is when so much has been done. -/
def OnCourse (bootstrap : Option String) (s : Scene) (done : List Deed) : Prop :=
  Course bootstrap s.phase s.starting s.engine.lifecycle.thread s.engine.intake.feed.isListening
    s.engine.lifecycle.result done

theorem deed?_resume (hi : s.callers[i]? = some stage) :
    s.deed? (.resume i) = stage.deed? i s.engine := by
  show s.callers[i]?.bind _ = _
  rw [hi]
  rfl

namespace OnCourse

theorem of_course {p : Phase} {l : List Stage} {thread : StartThread} {listening : Bool}
    {result : Option (Except Failure Unit)} (h : Course bootstrap p l thread listening result done)
    (hphase : s.phase = p) (hstarting : s.starting = l)
    (hthread : s.engine.lifecycle.thread = thread)
    (hlistening : s.engine.intake.feed.isListening = listening)
    (hresult : s.engine.lifecycle.result = result) : s.OnCourse bootstrap done := by
  unfold OnCourse
  rw [hphase, hstarting, hthread, hlistening, hresult]
  exact h

theorem isClosing (h : s.OnCourse bootstrap done) : s.phase.isClosing = false :=
  Course.isClosing h

theorem finished {r : Except Failure Unit} (h : s.OnCourse bootstrap done)
    (hresult : s.engine.lifecycle.result = some r) : s.engine.lifecycle.thread = .finished := by
  unfold OnCourse at h
  rw [hresult] at h
  exact Course.finished h

/-- What nobody who is starting the engine does, and what does not change the engine, does not
count. -/
theorem of_eq (h : s.OnCourse bootstrap done) {s' : Scene} (hengine : s'.engine = s.engine)
    (hstarting : s'.starting = s.starting) : s'.OnCourse bootstrap done := by
  unfold OnCourse Scene.phase at *
  rw [hengine, hstarting]
  exact h

theorem thread (h : s.OnCourse bootstrap done) :
    (s.perform .thread).OnCourse bootstrap (done ++ s.engine.threadDeed?.toList) := by
  -- The thread does not look at the callers, so its own course goes on whoever is where.
  obtain habsent | ⟨before, hbefore, rfl, hcourse⟩ := Course.of_thread h
  · obtain ⟨hsame, hdeed⟩ := startThread_of_idle (.inl habsent)
    rw [hdeed, Option.toList_none, List.append_nil]
    exact h.of_eq hsame rfl
  · rw [List.append_assoc]
    have hphase : (s.perform .thread).phase = s.phase := phase_startThread s.engine
    exact of_course (hcourse (hbefore.startThread h.isClosing)) hphase rfl rfl rfl rfl

/-- A caller that is starting the engine goes on to its next stage. -/
theorem resume_starting (h : s.OnCourse bootstrap done) (hi : s.callers[i]? = some stage)
    (hsettings : s.engine.settings.bootstrap = bootstrap) (hstage : stage.isStarting = true) :
    (s.resume i).OnCourse bootstrap (done ++ (stage.deed? i s.engine).toList) := by
  rw [resume_of_some hi]
  unfold OnCourse at h
  generalize hphase : s.phase = p at h
  generalize hstarting : s.starting = l at h
  generalize hthread : s.engine.lifecycle.thread = thread at h
  generalize hlistening : s.engine.intake.feed.isListening = listening at h
  generalize hresult : s.engine.lifecycle.result = result at h
  -- On the course at most one caller is starting the engine, so it is the one that goes on.
  have hmem : stage ∈ s.starting :=
    List.mem_filter.2 ⟨List.mem_of_getElem? hi, hstage⟩
  cases h with
  | fresh | ready =>
    rw [hstarting] at hmem
    cases hmem
  | entered waits =>
    obtain ⟨rfl, hset⟩ := filter_set_of_singleton hi hstarting hstage
    have hlife : (applyBootstrap s.engine).2.lifecycle = s.engine.lifecycle :=
      keeps_applyBootstrap (fun _ => keeps_onIntake _) s.engine
    have hfeed : (applyBootstrap s.engine).2.intake.feed = s.engine.intake.feed :=
      keeps_feed_applyBootstrap s.engine
    have hdeeds : ((Stage.applyingBootstrap waits).deed? i s.engine).toList =
        bootstrapDeeds bootstrap := by
      rw [← hsettings]
      rfl
    rw [List.nil_append, hdeeds]
    exact of_course (.bootstrapped waits) ((congrArg Lifecycle.phase hlife).trans hphase) hset
      ((congrArg Lifecycle.thread hlife).trans hthread)
      ((congrArg Feed.isListening hfeed).trans hlistening)
      ((congrArg Lifecycle.result hlife).trans hresult)
  | bootstrapped waits =>
    obtain ⟨rfl, hset⟩ := filter_set_of_singleton hi hstarting hstage
    have hlife : (scheduleIdLists s.engine).2.lifecycle = s.engine.lifecycle :=
      keeps_scheduleIdLists (fun _ => rfl) s.engine
    have hfeed : (scheduleIdLists s.engine).2.intake.feed = s.engine.intake.feed :=
      keeps_feed_scheduleIdLists s.engine
    have hdeeds : ((Stage.schedulingIdLists waits).deed? i s.engine).toList = [] := rfl
    rw [hdeeds, List.append_nil]
    exact of_course (.spawning waits) ((congrArg Lifecycle.phase hlife).trans hphase) hset
      ((congrArg Lifecycle.thread hlife).trans hthread)
      ((congrArg Feed.isListening hfeed).trans hlistening)
      ((congrArg Lifecycle.result hlife).trans hresult)
  | spawning waits =>
    obtain ⟨rfl, hset⟩ := filter_set_of_singleton hi hstarting hstage
    exact of_course (.completing waits .starting) hphase hset rfl hlistening hresult
  | completing waits h =>
    obtain ⟨rfl, hset⟩ := filter_set_of_singleton hi hstarting hstage
    have hstarted : [Stage.started waits].filter Stage.isStarting = [] := by
      simp [Stage.isStarting_started]
    have hdeeds : ((Stage.completing waits).deed? i s.engine).toList = [] := rfl
    rw [hdeeds, List.append_nil]
    exact of_course (.ready h) rfl (hset.trans hstarted) hthread hlistening hresult

/-- A caller that enters the start goes on with it if nobody has, or else finds it begun. -/
theorem resume_entering {waits : Bool} (h : s.OnCourse bootstrap done)
    (hi : s.callers[i]? = some (.entering waits)) : (s.resume i).OnCourse bootstrap done := by
  rw [resume_of_some hi]
  by_cases hnew : s.phase = .uninitialized
  · rw [Stage.resume_entering hnew]
    unfold OnCourse at h
    generalize hstarting : s.starting = l at h
    generalize hthread : s.engine.lifecycle.thread = thread at h
    generalize hlistening : s.engine.intake.feed.isListening = listening at h
    generalize hresult : s.engine.lifecycle.result = result at h
    -- While the engine is uninitialized, nobody else is starting it.
    rw [hnew] at h
    cases h
    exact of_course (.entered waits) rfl (filter_set_of_nil hi hstarting) hthread hlistening hresult
  · have hopen : s.phase = .initializing ∨ s.phase = .ready := by
      have hclosing := h.isClosing
      cases hp : s.phase with
      | uninitialized => exact absurd hp hnew
      | initializing => exact .inl rfl
      | ready => exact .inr rfl
      | shuttingDown | shutDown =>
        rw [hp] at hclosing
        cases hclosing
    rw [Stage.resume_entering_open hopen]
    exact h.of_eq rfl (filter_set_of_not hi rfl (Stage.isStarting_started waits))

theorem resume (h : s.OnCourse bootstrap done) (hi : s.callers[i]? = some stage)
    (hsettings : s.engine.settings.bootstrap = bootstrap) (hstage : stage.isEnding = false) :
    (s.resume i).OnCourse bootstrap
      (done ++ (stage.deed? i s.engine).toList.filter Deed.isStep) := by
  cases stage with
  | entering waits =>
    have hdeeds : ((Stage.entering waits).deed? i s.engine).toList.filter Deed.isStep = [] := rfl
    rw [hdeeds, List.append_nil]
    exact h.resume_entering hi
  | applyingBootstrap waits =>
    have hdeeds : ((Stage.applyingBootstrap waits).deed? i s.engine).toList.filter Deed.isStep =
        ((Stage.applyingBootstrap waits).deed? i s.engine).toList := by
      unfold Stage.deed?
      cases s.engine.settings.bootstrap <;> rfl
    rw [hdeeds]
    exact h.resume_starting hi hsettings rfl
  | schedulingIdLists | spawning | completing => exact h.resume_starting hi hsettings rfl
  | waiting =>
    have hdeeds : (Stage.waiting.deed? i s.engine).toList.filter Deed.isStep = [] := by
      unfold Stage.deed?
      cases s.engine.lifecycle.result <;> rfl
    rw [hdeeds, List.append_nil, resume_of_some hi]
    exact h.of_eq rfl (filter_set_of_not hi rfl rfl)
  | returned result =>
    have hdeeds : ((Stage.returned result).deed? i s.engine).toList.filter Deed.isStep = [] := rfl
    rw [hdeeds, List.append_nil, resume_of_some hi]
    exact h.of_eq rfl (filter_set_of_not hi rfl rfl)
  | closing | stoppingFeed | stoppingIdLists | stoppingLog | finishing => cases hstage

/-- Nobody who sets about to start the engine, and nothing that the host lets go on, counts. -/
theorem perform (h : s.OnCourse bootstrap done) (m : Move) (hm : ∀ timeout, m ≠ .shutdown timeout)
    (hsettings : s.engine.settings.bootstrap = bootstrap)
    (hopen : ∀ stage ∈ s.callers, stage.isEnding = false) :
    (s.perform m).OnCourse bootstrap (done ++ (s.deed? m).toList.filter Deed.isStep) := by
  cases m with
  | start waits =>
    have hstarting : (s.perform (.start waits)).starting = s.starting := by
      show (s.callers ++ [Stage.entering waits]).filter Stage.isStarting = _
      rw [List.filter_append]
      exact List.append_nil _
    have hdeeds : (s.deed? (.start waits)).toList.filter Deed.isStep = [] := rfl
    rw [hdeeds, List.append_nil]
    exact h.of_eq rfl hstarting
  | shutdown timeout => exact absurd rfl (hm timeout)
  | release =>
    have hdeeds : (s.deed? .release).toList.filter Deed.isStep = [] := rfl
    rw [hdeeds, List.append_nil]
    exact h
  | thread =>
    have hdeeds : (s.deed? .thread).toList.filter Deed.isStep = s.engine.threadDeed?.toList := by
      show s.engine.threadDeed?.toList.filter Deed.isStep = _
      cases hdeed : s.engine.threadDeed? with
      | none => rfl
      | some d => exact List.filter_cons_of_pos (isStep_of_threadDeed? hdeed)
    rw [hdeeds]
    exact h.thread
  | resume i =>
    show (s.resume i).OnCourse _ _
    cases hi : s.callers[i]? with
    | none =>
      have hdeeds : (s.deed? (.resume i)).toList.filter Deed.isStep = [] := by
        show (s.callers[i]?.bind _).toList.filter _ = _
        rw [hi]
        rfl
      rw [hdeeds, List.append_nil, resume_of_none hi]
      exact h
    | some stage =>
      rw [deed?_resume hi]
      exact h.resume hi hsettings (hopen stage (List.mem_of_getElem? hi))

end OnCourse

end Scene

end Engine

end Rollout
