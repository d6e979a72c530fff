import Rollout.Proofs.FlushDelivery

/-!
# A full batch does not go unnoticed

A caller that finds a full batch queued asks for a flush. Only who is the first to ask sends the
command, and the worker takes the request back when it has received a command, whoever sent it.
Callers make the steps of their calls one after another (`EventQueue.Stage.resume`), and anything
may come between them (`EventQueue.Scene.run`); one that is left alone does what `enqueue`,
`sendFlush` and `sendShutdown` do (`exists_run_enqueue`, `run_sendFlush`, `run_sendShutdown`).

Neither the flag nor the length of the queue says by itself that a flush will come. What is kept
speaks of both (`Scene.Heeded`): while a flush counts as asked for, its command is promised, and
while none is promised, the worker is about to take so much that less than a batch is left. From
this, a full batch never waits for the timer alone (`Scene.flush_follows_full_batch`).
-/

namespace Rollout

namespace FlushWorker

variable {α : Type}

/-- Whether a flush is being carried out, from the moment on when its cause is known. -/
def isFlushing : FlushWorker α → Bool
  | .received _ | .starting _ | .flushing .. | .delivering .. => true
  | .idle | .finished => false

/-- How many batches the worker takes before it looks again how much is queued. -/
def left? : FlushWorker α → Option Nat
  | .idle => some 0
  | .flushing n _ | .delivering _ n _ => some n
  | .received _ | .starting _ | .finished => none

end FlushWorker

namespace EventQueue

variable {α : Type}

/-! ### Callers -/

/-- What a caller does next. -/
inductive Stage (α : Type) where
  /-- It looks whether the queue is closed, before it enqueues an event. -/
  | entering (e : α)
  | pushing (e : α)
  /-- It has found a full batch queued, and notes that a flush is asked for. -/
  | requesting
  /-- It was the first to note this, and sends the command. -/
  | demanding
  /-- It looks whether the queue is closed, before it asks for a flush. -/
  | asking
  | sending
  | closing
  /-- It has closed the queue, and asks for a last flush. -/
  | stopping
  | waiting (ticket : Nat)
  | returned

namespace Stage

/-- Whether the caller has found a full batch queued, and has not sent a command or left this to
somebody else. -/
def isSignalling : Stage α → Bool
  | .requesting | .demanding => true
  | _ => false

/-- The next step of a caller, which is atomic. -/
def resume : Stage α → EventQueue α → Stage α × EventQueue α
  | .entering e, q => (if q.isClosed then .returned else .pushing e, q)
  | .pushing e, q => (if (q.push e).isDue then .requesting else .returned, q.push e)
  | .requesting, q => (if q.request.1 then .demanding else .returned, q.request.2)
  | .demanding, q => (.returned, q.send (.flush none))
  | .asking, q => (if q.isClosed then .returned else .sending, q)
  | .sending, q => (.waiting q.sendFlush.1, q.sendFlush.2)
  | .closing, q => (if q.isClosed then .returned else .stopping, { q with isClosed := true })
  | .stopping, q => (.waiting q.sendShutdown.1, q.sendShutdown.2)
  | .waiting ticket, q => (.waiting ticket, q)
  | .returned, q => (.returned, q)

end Stage

/-! ### Steps of the worker -/

/-- The worker takes a request back when it begins to carry out a command to flush. -/
theorem flushRequested_advance? {q q' : EventQueue α} (h : q.advance? = some q') :
    q'.flushRequested = match q.worker with
      | .received (.flush _) => false
      | _ => q.flushRequested := by
  have hfinish : ∀ cause, (q.finish cause).flushRequested = q.flushRequested := by
    intro cause
    rcases cause with _ | ⟨_ | t⟩ | t <;> rfl
  unfold advance? at h
  split at h
  · next hw =>
    split at h <;> cases h
    rw [hw]
  · next hw =>
    cases h
    rw [hw]
  · next hw =>
    cases h
    rw [hw]
  · next hw =>
    cases h
    rw [hw]
  · next hw =>
    cases h
    rw [hw, hfinish]
  · next hw =>
    split at h <;> cases h
    · rw [hw, hfinish]
    · rw [hw]
  · cases h
  · cases h

/-- Only a last flush ends the work. -/
theorem exists_shutdown_of_finished {q : EventQueue α} {cause : Option FlushCommand}
    (h : (q.finish cause).worker = .finished) : ∃ t, cause = some (.shutdown t) := by
  rcases cause with _ | ⟨_ | t⟩ | t
  · cases h
  · cases h
  · cases h
  · exact ⟨t, rfl⟩

theorem left?_finish (q : EventQueue α) (cause : Option FlushCommand) {n : Nat}
    (h : (q.finish cause).worker.left? = some n) : n = 0 := by
  obtain hw | hw := worker_finish q cause
  · rw [hw] at h
    exact (Option.some.inj h).symm
  · rw [hw] at h
    cases h

theorem push_eq (q : EventQueue α) (e : α) :
    (q.push e).flushRequested = q.flushRequested ∧ (q.push e).commands = q.commands ∧
      (q.push e).worker = q.worker ∧ (q.push e).isClosed = q.isClosed := by
  unfold push
  split <;> exact ⟨rfl, rfl, rfl, rfl⟩

/-! ### Interleavings -/

/-- A queue with those who have been called upon to enqueue events, to flush it or to shut it
down. -/
structure Scene (α : Type) where
  queue : EventQueue α
  callers : List (Stage α) := []

namespace Scene

/-- What can happen at one time. -/
inductive Move (α : Type) where
  /-- A caller sets about to enqueue an event. -/
  | enqueue (e : α)
  /-- A caller sets about to flush the queue. -/
  | flush
  /-- A caller sets about to shut the queue down. -/
  | shutdown
  /-- A caller makes its next step. -/
  | resume (i : Nat)
  /-- The timer of the worker runs out. -/
  | tick
  /-- The worker makes its next step, which may take a batch. -/
  | work
  /-- The destination is done with the batch that is handed over. -/
  | answer (a : HostAnswer)

/-- The scene after the next step of a caller. -/
def resume (s : Scene α) (i : Nat) : Scene α :=
  match s.callers[i]? with
  | some stage =>
    { queue := (stage.resume s.queue).2, callers := s.callers.set i (stage.resume s.queue).1 }
  | none => s

/-- The scene after a move; a move that cannot be made changes nothing. -/
def perform (s : Scene α) : Move α → Scene α
  | .enqueue e => { s with callers := s.callers ++ [.entering e] }
  | .flush => { s with callers := s.callers ++ [.asking] }
  | .shutdown => { s with callers := s.callers ++ [.closing] }
  | .resume i => s.resume i
  | .tick => { s with queue := s.queue.tick?.getD s.queue }
  | .work => { s with queue := s.queue.advance?.getD s.queue }
  | .answer _ => { s with queue := s.queue.complete?.getD s.queue }

/-- The scene after a run. -/
abbrev run (s : Scene α) (moves : List (Move α)) : Scene α := moves.foldl perform s

variable {s : Scene α} {q' : EventQueue α} {i : Nat} {stage : Stage α}

theorem resume_of_some (h : s.callers[i]? = some stage) :
    s.resume i =
      { queue := (stage.resume s.queue).2
        callers := s.callers.set i (stage.resume s.queue).1 } := by
  unfold resume
  rw [h]

theorem resume_of_none (h : s.callers[i]? = none) : s.resume i = s := by
  unfold resume
  rw [h]

/-! ### Calls that are left alone -/

/-- A scene with one caller. -/
def alone (q : EventQueue α) (stage : Stage α) : Scene α := { queue := q, callers := [stage] }

theorem exists_run_enqueue (q : EventQueue α) (e : α) :
    ∃ moves, (alone q (.entering e)).run moves = alone (q.enqueue e) .returned := by
  unfold enqueue
  by_cases hc : q.isClosed = true
  · refine ⟨[.resume 0], ?_⟩
    show alone q (if q.isClosed then .returned else .pushing e) = _
    rw [if_pos hc, if_pos hc]
  · rw [if_neg hc]
    have hpush : (alone q (.entering e)).run [.resume 0, .resume 0] =
        alone (q.push e) (if (q.push e).isDue then .requesting else .returned) := by
      show (alone q (if q.isClosed then .returned else .pushing e)).run [.resume 0] = _
      rw [if_neg hc]
      rfl
    by_cases hdue : (q.push e).isDue = true
    · rw [if_pos hdue] at hpush
      by_cases hfirst : (q.push e).request.1 = true
      · refine ⟨[.resume 0, .resume 0] ++ [.resume 0, .resume 0], ?_⟩
        simp only [run, List.foldl_append] at hpush ⊢
        rw [hpush]
        simp [perform, resume, alone, Stage.resume, hdue, hfirst]
      · refine ⟨[.resume 0, .resume 0] ++ [.resume 0], ?_⟩
        simp only [run, List.foldl_append] at hpush ⊢
        rw [hpush]
        simp [perform, resume, alone, Stage.resume, hdue, hfirst]
    · refine ⟨[.resume 0, .resume 0], hpush.trans ?_⟩
      simp [hdue]

theorem run_sendFlush {q : EventQueue α} (h : q.isClosed = false) :
    (alone q .asking).run [.resume 0, .resume 0] =
      alone q.sendFlush.2 (.waiting q.sendFlush.1) := by
  show (alone q (if q.isClosed then .returned else .sending)).run [.resume 0] = _
  rw [h]
  rfl

theorem run_sendShutdown {q : EventQueue α} (h : q.isClosed = false) :
    (alone q .closing).run [.resume 0, .resume 0] =
      alone q.sendShutdown.2 (.waiting q.sendShutdown.1) := by
  show (alone { q with isClosed := true } (if q.isClosed then .returned else .stopping)).run
    [.resume 0] = _
  rw [h]
  rfl

/-! ### What is promised -/

/-- A command to flush waits for the worker, or a caller is about to send it. -/
def IsPromised (s : Scene α) : Prop :=
  .demanding ∈ s.callers ∨ ∃ t, .flush t ∈ s.queue.commands

/-- While a flush counts as asked for, it is promised, or a command has just been received; and a
caller is about to ask, or a flush is promised, or the worker leaves less than a batch. -/
structure Heeded (s : Scene α) : Prop where
  requested : s.queue.flushRequested = true →
    s.IsPromised ∨ ∃ t, s.queue.worker = .received (.flush t)
  covered : .requesting ∈ s.callers ∨ s.IsPromised ∨
    ∀ n, s.queue.worker.left? = some n →
      s.queue.queued.length < (n + 1) * s.queue.batchSize

theorem mem_set_of_ne {l : List (Stage α)} {a b : Stage α} (hi : l[i]? = some stage) (ha : a ∈ l)
    (hne : a ≠ stage) : a ∈ l.set i b := by
  obtain ⟨j, hj⟩ := List.mem_iff_getElem?.1 ha
  have hij : i ≠ j := by
    rintro rfl
    exact hne (Option.some.inj (hj.symm.trans hi))
  exact List.mem_iff_getElem?.2 ⟨j, (List.getElem?_set_ne hij).trans hj⟩

theorem mem_set_self {l : List (Stage α)} (hi : l[i]? = some stage) (b : Stage α) :
    b ∈ l.set i b :=
  List.mem_iff_getElem?.2 ⟨i, List.getElem?_set_self (List.getElem?_eq_some_iff.1 hi).1⟩

namespace Heeded

theorem of_isPromised (h : s.IsPromised) : s.Heeded := ⟨fun _ => .inl h, .inr (.inl h)⟩

/-- More callers and more commands do no harm. -/
theorem mono (h : s.Heeded) {s' : Scene α}
    (hflag : s'.queue.flushRequested = s.queue.flushRequested)
    (hworker : s'.queue.worker = s.queue.worker) (hqueued : s'.queue.queued = s.queue.queued)
    (hbatch : s'.queue.batchSize = s.queue.batchSize)
    (hrequesting : .requesting ∈ s.callers → .requesting ∈ s'.callers)
    (hdemanding : .demanding ∈ s.callers → .demanding ∈ s'.callers)
    (hcommands : s.queue.commands ⊆ s'.queue.commands) : s'.Heeded := by
  have hpromised : s.IsPromised → s'.IsPromised :=
    Or.imp hdemanding fun ⟨t, ht⟩ => ⟨t, hcommands ht⟩
  refine ⟨fun hr => ?_, ?_⟩
  · rw [hflag] at hr
    rw [hworker]
    exact (h.requested hr).imp_left hpromised
  · rw [hworker, hqueued, hbatch]
    exact h.covered.imp hrequesting (Or.imp_left hpromised)

/-- A caller that is neither about to ask nor about to send may go on as it likes. -/
theorem set (h : s.Heeded) (hi : s.callers[i]? = some stage) (hstage : stage.isSignalling = false)
    {q : EventQueue α} (hflag : q.flushRequested = s.queue.flushRequested)
    (hworker : q.worker = s.queue.worker) (hqueued : q.queued = s.queue.queued)
    (hbatch : q.batchSize = s.queue.batchSize) (hcommands : s.queue.commands ⊆ q.commands)
    (stage' : Stage α) : Heeded { queue := q, callers := s.callers.set i stage' } := by
  refine h.mono hflag hworker hqueued hbatch (fun hr => mem_set_of_ne hi hr ?_)
    (fun hd => mem_set_of_ne hi hd ?_) hcommands
  · rintro rfl
    cases hstage
  · rintro rfl
    cases hstage

theorem resume (h : s.Heeded) (hi : s.callers[i]? = some stage) : (s.resume i).Heeded := by
  rw [resume_of_some hi]
  cases stage with
  | entering | asking | waiting | returned =>
    exact h.set hi rfl rfl rfl rfl rfl (List.Subset.refl _) _
  | closing =>
    have hset := h.set (q := { s.queue with isClosed := true }) hi rfl rfl rfl rfl rfl
      (List.Subset.refl _)
    exact hset _
  | pushing e =>
    obtain ⟨hflag, hcommands, hworker, -⟩ := push_eq s.queue e
    obtain ⟨-, hbatch⟩ := books_push_sizes s.queue e
    change (s.queue.push e).batchSize = s.queue.batchSize at hbatch
    have hpromised : s.IsPromised → IsPromised
        { queue := s.queue.push e
          callers := s.callers.set i
            (if (s.queue.push e).isDue then .requesting else .returned) } :=
      Or.imp (fun hd => mem_set_of_ne hi hd nofun) fun ⟨t, ht⟩ => ⟨t, hcommands.symm ▸ ht⟩
    refine ⟨fun hr => ?_, ?_⟩
    · have hr' : s.queue.flushRequested = true := hflag.symm.trans hr
      exact (h.requested hr').imp hpromised fun ⟨t, ht⟩ => ⟨t, hworker.trans ht⟩
    · by_cases hdue : (s.queue.push e).isDue = true
      · left
        show Stage.requesting ∈ s.callers.set i (if _ then _ else _)
        rw [if_pos hdue]
        exact mem_set_self hi _
      · -- less than one batch is queued, so it does not matter how many are taken
        right; right
        intro n _
        have hless : (s.queue.push e).queued.length < (s.queue.push e).batchSize := by
          simpa [isDue] using hdue
        show (s.queue.push e).queued.length < (n + 1) * (s.queue.push e).batchSize
        rw [Nat.succ_mul]
        omega
  | requesting =>
    cases hr : s.queue.flushRequested with
    | false =>
      refine of_isPromised (.inl ?_)
      show Stage.demanding ∈ s.callers.set i (if !s.queue.flushRequested then _ else _)
      rw [hr]
      exact mem_set_self hi _
    | true =>
      -- somebody else has asked, and what was promised then still is
      obtain hpromised | ⟨t, hworker⟩ := h.requested hr
      · exact of_isPromised (hpromised.imp_left fun hd => mem_set_of_ne hi hd nofun)
      · refine ⟨fun _ => .inr ⟨t, hworker⟩, .inr (.inr fun n hn => ?_)⟩
        change s.queue.worker.left? = some n at hn
        rw [hworker] at hn
        cases hn
  | demanding =>
    exact of_isPromised (.inr ⟨none, List.mem_append_right _ (List.mem_singleton_self _)⟩)
  | sending =>
    exact of_isPromised
      (.inr ⟨some s.queue.nextTicket, List.mem_append_right _ (List.mem_singleton_self _)⟩)
  | stopping =>
    have hset := h.set (q := s.queue.sendShutdown.2) hi rfl rfl rfl rfl rfl
      (List.subset_append_left _ _)
    exact hset _

/-- After a step of the worker that leaves the request and the commands alone, it remains to look
how much is queued. -/
theorem of_left (h : s.Heeded) (hw : ∀ t, s.queue.worker ≠ .received (.flush t))
    (hflag : q'.flushRequested = s.queue.flushRequested)
    (hcommands : q'.commands = s.queue.commands)
    (hleft : (∀ n, s.queue.worker.left? = some n →
        s.queue.queued.length < (n + 1) * s.queue.batchSize) →
      ∀ n, q'.worker.left? = some n → q'.queued.length < (n + 1) * q'.batchSize) :
    Heeded { s with queue := q' } := by
  have hpromised : s.IsPromised → IsPromised { s with queue := q' } :=
    Or.imp_right fun ⟨t, ht⟩ => ⟨t, hcommands.symm ▸ ht⟩
  refine ⟨fun hr => ?_, h.covered.imp_right (Or.imp hpromised hleft)⟩
  have hr' : s.queue.flushRequested = true := hflag.symm.trans hr
  exact .inl (hpromised ((h.requested hr').resolve_right fun ⟨t, ht⟩ => hw t ht))

theorem advance (h : s.Heeded) (ha : s.queue.advance? = some q') :
    Heeded { s with queue := q' } := by
  have hflag := flushRequested_advance? ha
  obtain ⟨c, rest, hw, hcommands, rfl⟩ | ⟨c, flag, hw, rfl⟩ | ⟨cause, hw, rfl⟩ |
    ⟨n, cause, hw, hend, rfl⟩ | ⟨n, cause, hw, hne, rfl⟩ := advance?_cases ha
  · -- a command is received: if it is the one that was promised, the worker has it
    refine ⟨fun hr => ?_, .inr (.inr nofun)⟩
    obtain (hd | ⟨t, ht⟩) | ⟨t, ht⟩ := h.requested hr
    · exact .inl (.inl hd)
    · rw [hcommands] at ht
      rcases List.mem_cons.1 ht with rfl | ht
      · exact .inr ⟨t, rfl⟩
      · exact .inl (.inr ⟨t, ht⟩)
    · cases hw.symm.trans ht
  · rw [hw] at hflag
    cases c with
    | flush t =>
      refine ⟨fun hr => ?_, .inr (.inr nofun)⟩
      cases hflag.symm.trans hr
    | shutdown t => exact h.of_left (fun t ht => nomatch hw.symm.trans ht) hflag rfl fun _ => nofun
  · -- the flush begins: its rounds are counted so that less than one batch is left over
    refine h.of_left (fun t ht => nomatch hw.symm.trans ht) rfl rfl fun _ n hn => ?_
    obtain rfl := Option.some.inj hn
    have hrounds := s.queue.queued_le_rounds
    have hpos := s.queue.batchSize_pos
    show s.queue.queued.length < (s.queue.rounds + 1) * s.queue.batchSize
    rw [Nat.succ_mul]
    omega
  · rw [hw] at hflag
    obtain ⟨hcommands, -, hqueued, -⟩ := finish_eq s.queue cause
    have hbatch : (s.queue.finish cause).batchSize = s.queue.batchSize :=
      congrArg Books.batchSize (books_finish hw)
    -- the flush ends, with no round left or with nothing queued
    refine h.of_left (fun t ht => nomatch hw.symm.trans ht) hflag hcommands fun hleft n' hn' => ?_
    obtain rfl := left?_finish s.queue cause hn'
    have hpos := s.queue.batchSize_pos
    rw [hqueued, hbatch]
    rcases hend with rfl | hnil
    · exact hleft 0 (by rw [hw]; rfl)
    · rw [hnil, List.length_nil, Nat.zero_add, Nat.one_mul]
      exact hpos
  · refine h.of_left (fun t ht => nomatch hw.symm.trans ht) rfl rfl fun hleft n' hn' => ?_
    obtain rfl := Option.some.inj hn'
    have hmore := hleft (n + 1) (by rw [hw]; rfl)
    have hpos : 0 < (n + 1) * s.queue.batchSize :=
      Nat.mul_pos (Nat.succ_pos n) s.queue.batchSize_pos
    rw [Nat.succ_mul] at hmore
    show (s.queue.queued.drop s.queue.batchSize).length < (n + 1) * s.queue.batchSize
    rw [List.length_drop]
    omega

theorem perform (h : s.Heeded) (m : Move α) : (s.perform m).Heeded := by
  cases m with
  | enqueue | flush | shutdown =>
    exact h.mono rfl rfl rfl rfl (List.mem_append_left _) (List.mem_append_left _)
      (List.Subset.refl _)
  | resume i =>
    show (s.resume i).Heeded
    cases hi : s.callers[i]? with
    | none => exact (resume_of_none hi).symm ▸ h
    | some stage => exact h.resume hi
  | tick =>
    show Heeded { s with queue := s.queue.tick?.getD s.queue }
    cases ht : s.queue.tick? with
    | none => exact h
    | some q' =>
      unfold tick? at ht
      split at ht
      · next hw =>
        cases ht
        exact h.of_left (fun t ht => nomatch hw.symm.trans ht) rfl rfl fun _ => nofun
      · cases ht
  | work =>
    show Heeded { s with queue := s.queue.advance?.getD s.queue }
    cases ha : s.queue.advance? with
    | none => exact h
    | some q' => exact h.advance ha
  | answer a =>
    show Heeded { s with queue := s.queue.complete?.getD s.queue }
    cases hc : s.queue.complete? with
    | none => exact h
    | some q' =>
      unfold complete? at hc
      split at hc
      · next hw =>
        cases hc
        exact h.of_left (fun t ht => nomatch hw.symm.trans ht) rfl rfl fun hleft n hn =>
          hleft n (by rw [hw]; exact hn)
      · cases hc

theorem run (h : s.Heeded) (moves : List (Move α)) : (s.run moves).Heeded :=
  List.foldlRecOn moves Scene.perform h fun _ h m _ => h.perform m

end Heeded

/-! ### Before the end -/

/-- Whatever brings the work to its end comes after the queue has been closed. -/
structure EndsClosed (s : Scene α) : Prop where
  stopping : .stopping ∈ s.callers → s.queue.isClosed = true
  waiting : ∀ t, .shutdown t ∈ s.queue.commands → s.queue.isClosed = true
  current : ∀ t, s.queue.worker.command? = some (.shutdown t) → s.queue.isClosed = true
  finished : s.queue.worker = .finished → s.queue.isClosed = true

namespace EndsClosed

theorem of_isClosed (h : s.queue.isClosed = true) : s.EndsClosed :=
  ⟨fun _ => h, fun _ _ => h, fun _ _ => h, fun _ => h⟩

theorem resume (h : s.EndsClosed) (hi : s.callers[i]? = some stage) :
    (s.resume i).EndsClosed := by
  rw [resume_of_some hi]
  have hcallers : ∀ {stage' : Stage α}, stage' ≠ .stopping →
      Stage.stopping ∈ s.callers.set i stage' → s.queue.isClosed = true := by
    intro stage' hne hmem
    rcases List.mem_or_eq_of_mem_set hmem with hmem | rfl
    · exact h.stopping hmem
    · exact absurd rfl hne
  have hsend : ∀ (c t), .shutdown t ∈ s.queue.commands ++ [FlushCommand.flush c] →
      s.queue.isClosed = true := by
    intro c t ht
    rcases List.mem_append.1 ht with ht | ht
    · exact h.waiting t ht
    · cases List.mem_singleton.1 ht
  cases stage with
  | entering e | asking =>
    refine ⟨hcallers ?_, h.waiting, h.current, h.finished⟩
    dsimp only [Stage.resume]
    split <;> exact nofun
  | pushing e =>
    obtain ⟨-, hcommands, hworker, hclosed⟩ := push_eq s.queue e
    refine ⟨fun hmem => hclosed.trans (hcallers ?_ hmem), fun t ht => ?_, fun t ht => ?_,
      fun hw => hclosed.trans (h.finished (hworker.symm.trans hw))⟩
    · dsimp only [Stage.resume]
      split <;> exact nofun
    · exact hclosed.trans (h.waiting t (hcommands ▸ ht))
    · exact hclosed.trans (h.current t (hworker ▸ ht))
  | requesting =>
    refine ⟨hcallers ?_, h.waiting, h.current, h.finished⟩
    dsimp only [Stage.resume]
    split <;> exact nofun
  | demanding => exact ⟨hcallers nofun, hsend none, h.current, h.finished⟩
  | sending => exact ⟨hcallers nofun, hsend (some s.queue.nextTicket), h.current, h.finished⟩
  | closing | stopping => exact of_isClosed rfl
  | waiting | returned => exact ⟨hcallers nofun, h.waiting, h.current, h.finished⟩

theorem advance (h : s.EndsClosed) (ha : s.queue.advance? = some q') :
    EndsClosed { s with queue := q' } := by
  have hclosed := isClosed_advance? ha
  obtain ⟨c, rest, hw, hcommands, rfl⟩ | ⟨c, flag, hw, rfl⟩ | ⟨cause, hw, rfl⟩ |
    ⟨n, cause, hw, -, rfl⟩ | ⟨n, cause, hw, -, rfl⟩ := advance?_cases ha
  · refine ⟨h.stopping, fun t ht => h.waiting t (hcommands ▸ List.mem_cons_of_mem _ ht),
      fun t ht => ?_, nofun⟩
    obtain rfl := Option.some.inj ht
    exact h.waiting t (hcommands ▸ List.mem_cons_self)
  · exact ⟨h.stopping, h.waiting, fun t ht => h.current t (by rw [hw]; exact ht), nofun⟩
  · exact ⟨h.stopping, h.waiting, fun t ht => h.current t (by rw [hw]; exact ht), nofun⟩
  · obtain ⟨hcommands, -⟩ := finish_eq s.queue cause
    refine ⟨fun hmem => hclosed.trans (h.stopping hmem),
      fun t ht => hclosed.trans (h.waiting t (hcommands ▸ ht)), fun t ht => ?_, fun hf => ?_⟩
    · obtain hidle | hfinished := worker_finish s.queue cause
      · cases (congrArg FlushWorker.command? hidle).symm.trans ht
      · cases (congrArg FlushWorker.command? hfinished).symm.trans ht
    · obtain ⟨t, rfl⟩ := exists_shutdown_of_finished hf
      exact hclosed.trans (h.current t (by rw [hw]; rfl))
  · exact ⟨h.stopping, h.waiting, fun t ht => h.current t (by rw [hw]; exact ht), nofun⟩

theorem perform (h : s.EndsClosed) (m : Move α) : (s.perform m).EndsClosed := by
  have hcome : ∀ {stage : Stage α}, stage ≠ .stopping →
      EndsClosed { s with callers := s.callers ++ [stage] } := by
    intro stage hne
    refine ⟨fun hmem => ?_, h.waiting, h.current, h.finished⟩
    rcases List.mem_append.1 hmem with hmem | hmem
    · exact h.stopping hmem
    · exact absurd (List.mem_singleton.1 hmem).symm hne
  cases m with
  | enqueue | flush | shutdown => exact hcome nofun
  | resume i =>
    show (s.resume i).EndsClosed
    cases hi : s.callers[i]? with
    | none => exact (resume_of_none hi).symm ▸ h
    | some stage => exact h.resume hi
  | tick =>
    show EndsClosed { s with queue := s.queue.tick?.getD s.queue }
    unfold tick?
    split
    · exact ⟨h.stopping, h.waiting, nofun, nofun⟩
    · exact h
  | work =>
    show EndsClosed { s with queue := s.queue.advance?.getD s.queue }
    cases ha : s.queue.advance? with
    | none => exact h
    | some q' => exact h.advance ha
  | answer a =>
    show EndsClosed { s with queue := s.queue.complete?.getD s.queue }
    unfold complete?
    split
    · next hw =>
      exact ⟨h.stopping, h.waiting, fun t ht => h.current t (by rw [hw]; exact ht), nofun⟩
    · exact h

theorem run (h : s.EndsClosed) (moves : List (Move α)) : (s.run moves).EndsClosed :=
  List.foldlRecOn moves Scene.perform h fun _ h m _ => h.perform m

end EndsClosed

/-! ### Full batches -/

theorem heeded_make (maxQueueSize batchSize : Nat) :
    Heeded { queue := (make maxQueueSize batchSize : EventQueue α) } := by
  refine ⟨nofun, .inr (.inr fun n _ => ?_)⟩
  exact Nat.mul_pos (Nat.succ_pos n) (make maxQueueSize batchSize : EventQueue α).batchSize_pos

theorem endsClosed_make (maxQueueSize batchSize : Nat) :
    EndsClosed { queue := (make maxQueueSize batchSize : EventQueue α) } :=
  ⟨nofun, nofun, nofun, nofun⟩

/-- However the steps of callers, worker, timer and destination are interleaved: as long as the
queue has not been closed, whenever a full batch is queued and no caller is between pushing an event
and sending the command that this calls for, a flush is being carried out or a command to flush
waits for the worker. -/
theorem flush_follows_full_batch (maxQueueSize batchSize : Nat) (moves : List (Move α))
    (hopen : (run { queue := make maxQueueSize batchSize } moves).queue.isClosed = false)
    (hfull : (run { queue := make maxQueueSize batchSize } moves).queue.batchSize ≤
      (run { queue := make maxQueueSize batchSize } moves).queue.queued.length)
    (hquiet : ∀ stage ∈ (run { queue := make maxQueueSize batchSize } moves).callers,
      stage.isSignalling = false) :
    (run { queue := make maxQueueSize batchSize } moves).queue.worker.isFlushing = true ∨
      ∃ t, .flush t ∈ (run { queue := make maxQueueSize batchSize } moves).queue.commands := by
  have hheeded := (heeded_make maxQueueSize batchSize).run moves
  have hends := (endsClosed_make maxQueueSize batchSize).run moves
  generalize run { queue := make maxQueueSize batchSize } moves = s at *
  obtain hr | (hd | hcommand) | hleft := hheeded.covered
  · cases hquiet _ hr
  · cases hquiet _ hd
  · exact .inr hcommand
  · left
    cases hw : s.queue.worker with
    | received | starting | flushing | delivering => rfl
    | idle =>
      have hless := hleft 0 (by rw [hw]; rfl)
      omega
    | finished => cases hopen.symm.trans (hends.finished hw)

/-- A caller has noted that a flush is asked for. Before it sends the command, a flush that somebody
else has asked for takes the note back and hands the event over. Another event comes meanwhile. -/
def crossedFlush : List (Move Nat) :=
  [.enqueue 1, .resume 0, .resume 0, .resume 0, .flush, .resume 1, .resume 1, .work, .work, .work,
    .work, .enqueue 2, .resume 2, .resume 2, .resume 2, .resume 2, .answer .panics, .resume 0,
    .work]

theorem flush_follows_full_batch_crossedFlush :
    let s := run { queue := (make 2 1 : EventQueue Nat) } crossedFlush
    s.queue.delivered = [[1]] ∧ s.queue.queued = [2] ∧
    (s.queue.isClosed = false ∧ s.queue.batchSize ≤ s.queue.queued.length ∧
      ∀ stage ∈ s.callers, stage.isSignalling = false) ∧
    (s.queue.worker.isFlushing = true ∨ ∃ t, .flush t ∈ s.queue.commands) := by
  have hopen : (run { queue := (make 2 1 : EventQueue Nat) } crossedFlush).queue.isClosed = false :=
    rfl
  have hfull : (run { queue := (make 2 1 : EventQueue Nat) } crossedFlush).queue.batchSize ≤
      (run { queue := (make 2 1 : EventQueue Nat) } crossedFlush).queue.queued.length := by decide
  have hquiet : ∀ stage ∈ (run { queue := (make 2 1 : EventQueue Nat) } crossedFlush).callers,
      stage.isSignalling = false := by decide
  exact ⟨rfl, rfl, ⟨hopen, hfull, hquiet⟩,
    flush_follows_full_batch 2 1 crossedFlush hopen hfull hquiet⟩

end Scene

end EventQueue

end Rollout
