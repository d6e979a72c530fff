import Mathlib.Data.List.Induction
import Rollout.Proofs.StartCourse

/-!
# What those are told who start an engine

Any number of callers may start an engine and wait for its feed, while nobody shuts it down. The
payload at hand is taken in before the feed is started, the feed is started once and scheduled once
after that, and all who wait find the same result (`Engine.Scene.start_once_and_agree`).
-/

namespace Rollout

namespace Engine

namespace Scene

variable {s : Scene} {bootstrap : Option String} {done : List Deed}

/-! ### What callers are told -/

theorem settings_perform (m : Move) (hm : ∀ timeout, m ≠ .shutdown timeout)
    (hopen : ∀ stage ∈ s.callers, stage.isEnding = false) :
    (s.perform m).engine.settings = s.engine.settings := by
  cases m with
  | start | release => rfl
  | shutdown timeout => exact absurd rfl (hm timeout)
  | thread => exact settings_startThread s.engine
  | resume i =>
    show (s.resume i).engine.settings = _
    cases hi : s.callers[i]? with
    | none => rw [resume_of_none hi]
    | some stage =>
      rw [resume_of_some hi]
      exact (Stage.keeps_resume (hopen stage (List.mem_of_getElem? hi))).1

/-- The result of the start stays what it is. -/
theorem result_perform {result : Except Failure Unit} (h : s.OnCourse bootstrap done) (m : Move)
    (hm : ∀ timeout, m ≠ .shutdown timeout) (hopen : ∀ stage ∈ s.callers, stage.isEnding = false)
    (hresult : s.engine.lifecycle.result = some result) :
    (s.perform m).engine.lifecycle.result = some result := by
  cases m with
  | start | release => exact hresult
  | shutdown timeout => exact absurd rfl (hm timeout)
  | thread =>
    show (startThread s.engine).lifecycle.result = _
    rw [(startThread_of_idle (.inr (h.finished hresult))).1]
    exact hresult
  | resume i =>
    show (s.resume i).engine.lifecycle.result = _
    cases hi : s.callers[i]? with
    | none =>
      rw [resume_of_none hi]
      exact hresult
    | some stage =>
      rw [resume_of_some hi]
      exact (Stage.keeps_resume (hopen stage (List.mem_of_getElem? hi))).2.1.trans hresult

end Scene

/-- Where a caller can be that has set about to start the engine, and what it can be told. -/
def Stage.Fits (waits : Bool) (told : Except Failure Unit → Prop) : Stage → Prop
  | .entering b | .applyingBootstrap b | .schedulingIdLists b | .spawning b | .completing b =>
    b = waits
  | .waiting => waits = true
  | .returned result => waits = true → told result
  | .closing _ | .stoppingFeed _ | .stoppingIdLists .. | .stoppingLog .. | .finishing _ => False

namespace Stage.Fits

variable {stage : Stage} {waits : Bool} {told told' : Except Failure Unit → Prop} {e : Engine}

theorem isEnding (h : stage.Fits waits told) : stage.isEnding = false := by
  cases stage <;> first | rfl | cases h

theorem mono (h : stage.Fits waits told) (himp : ∀ result, told result → told' result) :
    stage.Fits waits told' := by
  cases stage with
  | returned result => exact fun hwaits => himp result (h hwaits)
  | _ => exact h

theorem started (waits : Bool) : (Stage.started waits).Fits waits told := by
  cases waits with
  | true => exact rfl
  | false => exact nofun

theorem resume (h : stage.Fits waits told) (hopen : e.phase.isClosing = false)
    (hwaiting : stage = .waiting → told (e.lifecycle.await e.settings.initTimeout)) :
    (stage.resume e).1.Fits waits told := by
  cases stage with
  | entering b =>
    obtain rfl : b = waits := h
    cases hp : e.phase with
    | uninitialized =>
      rw [resume_entering hp]
      exact rfl
    | initializing =>
      rw [resume_entering_open (.inl hp)]
      exact started b
    | ready =>
      rw [resume_entering_open (.inr hp)]
      exact started b
    | shuttingDown | shutDown =>
      rw [hp] at hopen
      cases hopen
  | applyingBootstrap | schedulingIdLists | spawning => exact h
  | completing b =>
    obtain rfl : b = waits := h
    exact started b
  | waiting => exact fun _ => hwaiting rfl
  | returned => exact h
  | closing | stoppingFeed | stoppingIdLists | stoppingLog | finishing => cases h

end Stage.Fits

namespace Scene

variable {s : Scene} {calls : List Bool} {deeds : List Deed} {settings : Settings}

/-- What the `i`-th caller can be told that has waited. -/
def Tells (s : Scene) (deeds : List Deed) (i : Nat) (result : Except Failure Unit) : Prop :=
  .gaveUp i ∈ deeds ∧
      result = .error (.timeout .initialization s.engine.settings.initTimeout) ∨
    s.engine.lifecycle.result = some result

/-- An engine that is being started, or has been, by callers each of which waits or does not. -/
structure Opening (settings : Settings) (s : Scene) (calls : List Bool) (deeds : List Deed) :
    Prop where
  settings_eq : s.engine.settings = settings
  course : s.OnCourse settings.bootstrap (deeds.filter Deed.isStep)
  length_eq : s.callers.length = calls.length
  fits : ∀ i (stage : Stage) waits, s.callers[i]? = some stage → calls[i]? = some waits →
    stage.Fits waits (s.Tells deeds i)

theorem length_callers_resume (i : Nat) : (s.resume i).callers.length = s.callers.length := by
  cases hi : s.callers[i]? with
  | none => rw [resume_of_none hi]
  | some stage =>
    rw [resume_of_some hi]
    exact List.length_set

namespace Opening

theorem isEnding (h : s.Opening settings calls deeds) (stage : Stage) (hmem : stage ∈ s.callers) :
    stage.isEnding = false := by
  obtain ⟨i, hi⟩ := List.mem_iff_getElem?.1 hmem
  have hlt : i < calls.length := h.length_eq ▸ (List.getElem?_eq_some_iff.1 hi).1
  exact (h.fits i stage _ hi (List.getElem?_eq_getElem hlt)).isEnding

theorem tells_perform (h : s.Opening settings calls deeds) {m : Move}
    (hm : ∀ timeout, m ≠ .shutdown timeout) {i : Nat} {result : Except Failure Unit}
    (htells : s.Tells deeds i result) :
    (s.perform m).Tells (deeds ++ (s.deed? m).toList) i result := by
  obtain ⟨hmem, hresult⟩ | hresult := htells
  · refine .inl ⟨List.mem_append_left _ hmem, ?_⟩
    rw [settings_perform m hm h.isEnding]
    exact hresult
  · exact .inr (result_perform h.course m hm h.isEnding hresult)

/-- What a waiting caller finds is what it can be told. -/
theorem tells_await (s : Scene) (deeds : List Deed) {i : Nat} (hi : s.callers[i]? = some .waiting) :
    (s.perform (.resume i)).Tells (deeds ++ (s.deed? (.resume i)).toList) i
      (s.engine.lifecycle.await s.engine.settings.initTimeout) := by
  have hafter : s.perform (.resume i) = { s with callers := s.callers.set i (.returned
      (s.engine.lifecycle.await s.engine.settings.initTimeout)) } := resume_of_some hi
  rw [deed?_resume hi, hafter]
  unfold Stage.deed? Lifecycle.await
  cases hresult : s.engine.lifecycle.result with
  | none => exact .inl ⟨List.mem_append_right _ (List.mem_singleton_self _), rfl⟩
  | some result => exact .inr hresult

theorem fits_start (h : s.Opening settings calls deeds) {b waits : Bool} {i : Nat} {stage : Stage}
    (hi : (s.callers ++ [.entering b])[i]? = some stage)
    (hwaits : (calls ++ [b])[i]? = some waits) : stage.Fits waits (s.Tells deeds i) := by
  by_cases hlt : i < s.callers.length
  · rw [List.getElem?_append_left hlt] at hi
    rw [List.getElem?_append_left (h.length_eq ▸ hlt)] at hwaits
    exact h.fits i stage waits hi hwaits
  · have hle : s.callers.length ≤ i := Nat.le_of_not_lt hlt
    rw [List.getElem?_append_right hle, List.getElem?_singleton] at hi
    rw [List.getElem?_append_right (h.length_eq ▸ hle), ← h.length_eq,
      List.getElem?_singleton] at hwaits
    split_ifs at hi hwaits
    cases hi
    cases hwaits
    exact rfl

theorem fits_resume (h : s.Opening settings calls deeds) {i j : Nat} {stage : Stage} {waits : Bool}
    (hi : (s.perform (.resume j)).callers[i]? = some stage) (hwaits : calls[i]? = some waits) :
    stage.Fits waits
      ((s.perform (.resume j)).Tells (deeds ++ (s.deed? (.resume j)).toList) i) := by
  -- A caller that stays where it is can only be told more than before.
  have hmono : ∀ {stage : Stage}, s.callers[i]? = some stage → stage.Fits waits
      ((s.perform (.resume j)).Tells (deeds ++ (s.deed? (.resume j)).toList) i) := fun hi =>
    (h.fits i _ waits hi hwaits).mono fun _ => h.tells_perform (m := .resume j) nofun
  change (s.resume j).callers[i]? = some stage at hi
  cases hj : s.callers[j]? with
  | none =>
    rw [resume_of_none hj] at hi
    exact hmono hi
  | some before =>
    rw [resume_of_some hj] at hi
    by_cases hij : j = i
    · subst hij
      rw [List.getElem?_set_self (List.getElem?_eq_some_iff.1 hj).1] at hi
      cases hi
      refine (hmono hj).resume h.course.isClosing ?_
      rintro rfl
      exact tells_await s deeds hj
    · rw [List.getElem?_set_ne hij] at hi
      exact hmono hi

theorem perform (h : s.Opening settings calls deeds) (m : Move)
    (hm : ∀ timeout, m ≠ .shutdown timeout) :
    (s.perform m).Opening settings (calls ++ m.waits?.toList)
      (deeds ++ (s.deed? m).toList) := by
  have hbootstrap : s.engine.settings.bootstrap = settings.bootstrap :=
    congrArg Settings.bootstrap h.settings_eq
  have hsettings := (settings_perform m hm h.isEnding).trans h.settings_eq
  have hcourse := h.course.perform m hm hbootstrap h.isEnding
  rw [← List.filter_append] at hcourse
  have hsame : ∀ i (stage : Stage) waits, s.callers[i]? = some stage → calls[i]? = some waits →
      stage.Fits waits ((s.perform m).Tells (deeds ++ (s.deed? m).toList) i) :=
    fun i stage waits hi hwaits =>
      (h.fits i stage waits hi hwaits).mono fun _ => h.tells_perform hm
  cases m with
  | start b =>
    refine ⟨hsettings, hcourse, ?_, fun i stage waits hi hwaits => ?_⟩
    · simp [Scene.perform, Move.waits?, h.length_eq]
    · exact (h.fits_start hi hwaits).mono fun _ => h.tells_perform (m := .start b) nofun
  | shutdown timeout => exact absurd rfl (hm timeout)
  | thread | release =>
    have hcalls : ∀ m : Move, m.waits? = none → calls ++ m.waits?.toList = calls := by
      intro m hm
      rw [hm]
      exact List.append_nil calls
    rw [hcalls _ rfl]
    exact ⟨hsettings, hcourse, h.length_eq, hsame⟩
  | resume j =>
    rw [show calls ++ (Move.waits? (.resume j)).toList = calls from List.append_nil calls]
    exact ⟨hsettings, hcourse, (length_callers_resume j).trans h.length_eq,
      fun i stage waits => h.fits_resume⟩

theorem run {e : Engine} (hnew : e.lifecycle = {} ∧ e.intake.feed.isListening = false)
    (moves : List Move) (hopen : ∀ timeout, .shutdown timeout ∉ moves) :
    Opening e.settings (Scene.run { engine := e } moves) (starts moves)
      (Scene.deeds { engine := e } moves) := by
  induction moves using List.reverseRecOn with
  | nil =>
    refine ⟨rfl, ?_, rfl, fun i stage waits hi => by cases hi⟩
    exact OnCourse.of_course .fresh (congrArg Lifecycle.phase hnew.1) rfl
      (congrArg Lifecycle.thread hnew.1) hnew.2 (congrArg Lifecycle.result hnew.1)
  | append_singleton moves m ih =>
    have hbefore := ih fun timeout hmem => hopen timeout (List.mem_append_left _ hmem)
    have hm : ∀ timeout, m ≠ .shutdown timeout := by
      rintro timeout rfl
      exact hopen timeout (List.mem_append_right _ (List.mem_singleton_self _))
    rw [Scene.run, deeds, List.foldl_concat, recordFrom_concat, starts_concat]
    exact hbefore.perform m hm

end Opening

end Scene

/-! ### Feeds of the host -/

section Host

variable {f : HostFeed} {i : Intake} {e : Engine}

theorem supply_of_host (h : i.feed.source = .host f) :
    Intake.supply i = Intake.supplyHost f i := by
  obtain ⟨⟨source⟩⟩ := i
  obtain rfl : source = .host f := h
  rfl

theorem supplyHost_spec (f : HostFeed) (i : Intake) :
    (Intake.supplyHost f i).2.feed = i.feed ∧
      ∀ failure, f.onStart.result .feedStart = .error failure →
        (Intake.supplyHost f i).1 = .error failure := by
  unfold Intake.supplyHost
  cases f.onStart.result .feedStart with
  | error failure => exact ⟨rfl, fun _ h => by cases h; rfl⟩
  | ok => cases f.update <;> exact ⟨rfl, nofun⟩

theorem schedule_of_host (h : i.feed.source = .host f) :
    Intake.schedule i =
      (f.onSchedule.result .feedSchedule, { i with feed := i.feed.record .feedSchedule }) := by
  obtain ⟨⟨source⟩⟩ := i
  obtain rfl : source = .host f := h
  rfl

theorem listen_of_host (h : i.feed.source = .host f) :
    (Intake.listen i).2.feed = { i.feed with isListening := true }.record .feedStart := by
  obtain ⟨⟨source⟩⟩ := i
  obtain rfl : source = .host f := h
  rfl

/-- What is known of a deed if the feed is one of the host. -/
def Deed.Answers (f : HostFeed) : Deed → Prop
  | .feedStarted result =>
    ∀ failure, f.onStart.result .feedStart = .error failure → result = .error failure
  | .feedScheduled result => result = f.onSchedule.result .feedSchedule
  | .bootstraps _ | .feedStarts | .gaveUp _ => True

/-- The function of the host that is called in a deed. -/
def Deed.call? : Deed → Option HostCall
  | .feedStarts => some .feedStart
  | .feedScheduled _ => some .feedSchedule
  | .bootstraps _ | .feedStarted _ | .gaveUp _ => none

/-- Between two engines such deeds are done, and the feed is one of the host. -/
structure HostCourse (f : HostFeed) (e : Engine) (deeds : List Deed) (e' : Engine) : Prop where
  source : e'.intake.feed.source = .host f
  calls : e'.intake.feed.calls = e.intake.feed.calls ++ deeds.filterMap Deed.call?
  answers : ∀ d ∈ deeds, d.Answers f

theorem HostCourse.nil (h : e.intake.feed.source = .host f) : HostCourse f e [] e :=
  ⟨h, (List.append_nil _).symm, nofun⟩

theorem HostCourse.append {e' e'' : Engine} {deeds deeds' : List Deed}
    (h : HostCourse f e deeds e') (h' : HostCourse f e' deeds' e'') :
    HostCourse f e (deeds ++ deeds') e'' := by
  refine ⟨h'.source, ?_, fun d hd => ?_⟩
  · rw [h'.calls, h.calls, List.filterMap_append, List.append_assoc]
  · obtain hd | hd := List.mem_append.1 hd
    · exact h.answers d hd
    · exact h'.answers d hd

theorem HostCourse.startThread (h : e.intake.feed.source = .host f) :
    HostCourse f e e.threadDeed?.toList (startThread e) := by
  cases hthread : e.lifecycle.thread with
  | absent | finished =>
    obtain ⟨hsame, hdeed⟩ := startThread_of_idle (e := e) (by simp [hthread])
    rw [hsame, hdeed]
    exact .nil h
  | starting =>
    unfold Engine.startThread threadDeed?
    rw [hthread]
    dsimp only
    split_ifs
    · have hfeed : (onIntake Intake.listen e).2.intake.feed = _ := listen_of_host h
      exact ⟨(congrArg Feed.source hfeed).trans h, congrArg Feed.calls hfeed,
        by simp [Deed.Answers]⟩
    · exact .nil h
    · obtain ⟨hfeed, hanswer⟩ := supplyHost_spec f e.intake
      rw [← supply_of_host h] at hfeed hanswer
      refine ⟨(congrArg Feed.source hfeed).trans h, ?_, by simpa [Deed.Answers] using hanswer⟩
      exact (congrArg Feed.calls hfeed).trans (List.append_nil _).symm
  | scheduling started =>
    have hintake := intake_startThread_scheduling hthread
    unfold threadDeed?
    rw [hthread]
    dsimp only
    split_ifs with habout
    · rw [if_pos habout, schedule_of_host h] at hintake
      refine ⟨(congrArg (·.feed.source) hintake).trans h, congrArg (·.feed.calls) hintake, ?_⟩
      simp [schedule_of_host h, Deed.Answers]
    · rw [if_neg habout] at hintake
      exact ⟨(congrArg (·.feed.source) hintake).trans h,
        (congrArg (·.feed.calls) hintake).trans (List.append_nil _).symm, nofun⟩

theorem Stage.of_deed? {stage : Stage} {d : Deed} {i : Nat} (h : stage.deed? i e = some d) :
    d.call? = none ∧ d.Answers f := by
  cases stage with
  | applyingBootstrap =>
    obtain ⟨text, -, rfl⟩ := Option.map_eq_some_iff.1 h
    exact ⟨rfl, trivial⟩
  | waiting =>
    unfold Stage.deed? at h
    split_ifs at h
    cases h
    exact ⟨rfl, trivial⟩
  | _ => cases h

theorem HostCourse.resume (h : e.intake.feed.source = .host f) (i : Nat) {stage : Stage}
    (hstage : stage.isEnding = false) :
    HostCourse f e (stage.deed? i e).toList (stage.resume e).2 := by
  have hfeed := (Stage.keeps_resume (e := e) hstage).2.2
  have hcalls : (stage.deed? i e).toList.filterMap Deed.call? = [] :=
    List.filterMap_eq_nil_iff.2 fun d hd => (Stage.of_deed? (Option.mem_toList.1 hd) (f := f)).1
  refine ⟨(congrArg Feed.source hfeed).trans h, ?_, fun d hd => ?_⟩
  · rw [hfeed, hcalls, List.append_nil]
  · exact (Stage.of_deed? (Option.mem_toList.1 hd)).2

namespace Scene

variable {s : Scene}

theorem hostCourse_perform (h : s.engine.intake.feed.source = .host f) (m : Move)
    (hm : ∀ timeout, m ≠ .shutdown timeout) (hopen : ∀ stage ∈ s.callers, stage.isEnding = false) :
    HostCourse f s.engine (s.deed? m).toList (s.perform m).engine := by
  cases m with
  | start => exact .nil h
  | release => exact ⟨h, (List.append_nil _).symm, nofun⟩
  | shutdown timeout => exact absurd rfl (hm timeout)
  | thread => exact .startThread h
  | resume i =>
    show HostCourse f s.engine (s.callers[i]?.bind _).toList (s.resume i).engine
    cases hi : s.callers[i]? with
    | none =>
      rw [resume_of_none hi]
      exact .nil h
    | some stage =>
      rw [resume_of_some hi]
      exact .resume h i (hopen stage (List.mem_of_getElem? hi))

/-- What a feed of the host is called for, and what it answers, is what is done to it. -/
theorem hostCourse_run (hnew : e.lifecycle = {} ∧ e.intake.feed.isListening = false)
    (moves : List Move) (hopen : ∀ timeout, .shutdown timeout ∉ moves)
    (h : e.intake.feed.source = .host f) :
    HostCourse f e (deeds { engine := e } moves) (run { engine := e } moves).engine := by
  induction moves using List.reverseRecOn with
  | nil => exact .nil h
  | append_singleton moves m ih =>
    have hbefore : ∀ timeout, .shutdown timeout ∉ moves := fun timeout hmem =>
      hopen timeout (List.mem_append_left _ hmem)
    have hm : ∀ timeout, m ≠ .shutdown timeout := by
      rintro timeout rfl
      exact hopen timeout (List.mem_append_right _ (List.mem_singleton_self _))
    have hcourse := ih hbefore
    rw [run, deeds, List.foldl_concat, recordFrom_concat]
    exact hcourse.append
      (hostCourse_perform hcourse.source m hm (Opening.run hnew moves hbefore).isEnding)

end Scene

end Host

/-! ### The outcome -/

namespace Scene

/-- An engine that is new when the run begins and that nobody shuts down, whoever starts it and
waits, whenever the thread goes on, and whatever comes of the feed. What is done to it is a first
part of one course: the payload at hand is taken in, the feed is started, and then it is scheduled.
It is so whether the start of the feed succeeds or fails. Whoever waits for the start finds that the
time is up, or is told the failure of the start of the feed, else how it was scheduled. For a feed
of the host these are what its functions answer. -/
theorem start_once_and_agree {e : Engine}
    (hnew : e.lifecycle = {} ∧ e.intake.feed.isListening = false) (moves : List Move)
    (hopen : ∀ timeout, .shutdown timeout ∉ moves) :
    ∃ started scheduled,
      ((deeds { engine := e } moves).filter Deed.isStep <+:
        bootstrapDeeds e.settings.bootstrap ++
          [.feedStarts, .feedStarted started, .feedScheduled scheduled]) ∧
      (.feedStarted started ∈ deeds { engine := e } moves →
        ∃ result, .feedScheduled result ∈ deeds { engine := e } (moves ++ [.thread])) ∧
      (∀ i result, (starts moves)[i]? = some true →
        (run { engine := e } moves).callers[i]? = some (.returned result) →
        .gaveUp i ∈ deeds { engine := e } moves ∧
            result = .error (.timeout .initialization e.settings.initTimeout) ∨
          .feedScheduled scheduled ∈ deeds { engine := e } moves ∧
            result = started.bind fun () => scheduled) ∧
      ∀ f, e.intake.feed.source = .host f →
        (run { engine := e } moves).engine.intake.feed.calls =
          e.intake.feed.calls ++ (deeds { engine := e } moves).filterMap Deed.call? ∧
        (.feedStarted started ∈ deeds { engine := e } moves → ∀ failure,
          f.onStart.result .feedStart = .error failure → started = .error failure) ∧
        (.feedScheduled scheduled ∈ deeds { engine := e } moves →
          scheduled = f.onSchedule.result .feedSchedule) := by
  have hopening := Opening.run hnew moves hopen
  obtain ⟨started, scheduled, hprefix, hresult⟩ := hopening.course.exists_outcome
  have hdone : ∀ {d : Deed}, d.isStep = true →
      (d ∈ (deeds { engine := e } moves).filter Deed.isStep ↔ d ∈ deeds { engine := e } moves) :=
    fun hd => List.mem_filter.trans (and_iff_left hd)
  refine ⟨started, scheduled, hprefix, fun hstarted => ?_, fun i result hwaits hi => ?_,
    fun f hf => ?_⟩
  · -- The feed has been scheduled already, or the next step of the thread schedules it.
    rw [deeds, recordFrom_concat]
    obtain hthread | ⟨result, hmem⟩ := hopening.course.of_feedStarted ((hdone rfl).2 hstarted)
    · have hdeed := threadDeed?_scheduling hthread hopening.course.isClosing
      exact ⟨_, List.mem_append_right _ (Option.mem_toList.2 hdeed)⟩
    · exact ⟨result, List.mem_append_left _ ((hdone rfl).1 hmem)⟩
  · obtain ⟨hmem, htimeout⟩ | htold := hopening.fits i _ true hi hwaits rfl
    · rw [hopening.settings_eq] at htimeout
      exact .inl ⟨hmem, htimeout⟩
    · obtain ⟨hmem, hagree⟩ := hresult result htold
      exact .inr ⟨(hdone rfl).1 hmem, hagree⟩
  · have hcourse := hostCourse_run hnew moves hopen hf
    exact ⟨hcourse.calls, fun hmem => hcourse.answers _ hmem, fun hmem => hcourse.answers _ hmem⟩

/-! ### A feed that panics while it is started -/

/-- A new engine with a payload at hand and a feed of the host that panics in its start. -/
def panicky : Engine :=
  { settings := { bootstrap := some "{}" }
    intake := { feed := .ofSource (.host { onStart := .panics }), now := 1 } }

/-- Two callers start the engine. The first goes through the start and waits, and the second gives
up waiting. Then the start thread comes to its end, and the first is told. -/
def twoStarts : List Move :=
  [.start true, .start true, .resume 0, .resume 1, .resume 0, .resume 0, .resume 0, .thread,
    .resume 1, .thread, .resume 0, .thread, .resume 0]

theorem start_once_and_agree_twoStarts :
    ((panicky.lifecycle = {} ∧ panicky.intake.feed.isListening = false) ∧
      ∀ timeout, .shutdown timeout ∉ twoStarts) ∧
    (run { engine := panicky } twoStarts).callers =
      [.returned (.error (.callback (.panicked .feedStart))),
        .returned (.error (.timeout .initialization panicky.settings.initTimeout))] ∧
    ∃ started scheduled,
      ((deeds { engine := panicky } twoStarts).filter Deed.isStep <+:
        [.bootstraps "\x7b\x7d", .feedStarts, .feedStarted started, .feedScheduled scheduled]) ∧
      .feedScheduled scheduled ∈ deeds { engine := panicky } twoStarts ∧
      .error (.callback (.panicked .feedStart)) = started.bind fun () => scheduled := by
  have hopen : ∀ timeout, .shutdown timeout ∉ twoStarts := by simp [twoStarts]
  have hcallers : (run { engine := panicky } twoStarts).callers =
      [.returned (.error (.callback (.panicked .feedStart))),
        .returned (.error (.timeout .initialization panicky.settings.initTimeout))] := rfl
  refine ⟨⟨⟨rfl, rfl⟩, hopen⟩, hcallers, ?_⟩
  obtain ⟨started, scheduled, hprefix, -, hagree, -⟩ :=
    start_once_and_agree (e := panicky) ⟨rfl, rfl⟩ twoStarts hopen
  refine ⟨started, scheduled, hprefix, ?_⟩
  obtain ⟨-, htimeout⟩ | htold := hagree 0 _ rfl (congrArg (·[0]?) hcallers)
  · cases htimeout
  · exact htold

end Scene

end Engine

end Rollout
