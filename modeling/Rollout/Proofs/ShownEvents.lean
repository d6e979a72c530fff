import Rollout.EventLog

/-!
# What events show of users

A user is shown to others without private attributes (`User.shown`), and that is all that the texts
of events say of one. The event log does not look into events: putting other events in their places
changes nothing of what it does (`EventQueue.map_settle`), so two logs that show the same users go
on to show the same (`EventLog.shown_log`, `EventLog.shown_flush`). Exposures are told apart by keys
that are made of what is shown (`Exposure.shown_make`).
-/

namespace Rollout

/-! ### Users and events -/

/-- What is shown of a user: everything but private attributes. -/
def User.shown (u : User) : User := { u with privateAttributes := ∅ }

/-- Users that show the same differ at most in private attributes. -/
theorem User.shown_eq_iff {u u' : User} :
    u'.shown = u.shown ↔ ∃ attributes, u' = { u with privateAttributes := attributes } := by
  constructor
  · intro h
    refine ⟨u'.privateAttributes, ?_⟩
    calc u' = { u'.shown with privateAttributes := u'.privateAttributes } := rfl
      _ = { u.shown with privateAttributes := u'.privateAttributes } := by rw [h]
      _ = { u with privateAttributes := u'.privateAttributes } := rfl
  · rintro ⟨attributes, rfl⟩
    rfl

theorem User.toJson_shown (u : User) : u.shown.toJson = u.toJson := rfl

/-- What is shown of an event. -/
def Event.shown (e : Event) : Event := { e with user := e.user.shown }

theorem Event.toJson_shown (e : Event) : e.shown.toJson = e.toJson := by
  unfold shown toJson
  rw [User.toJson_shown]

theorem EventBatch.toJson_shown (events : List Event) (reporter : Reporter) :
    ({ events := events.map Event.shown, reporter } : EventBatch).toJson =
      ({ events, reporter } : EventBatch).toJson := by
  unfold toJson
  rw [List.map_map, List.map_congr_left fun e _ => e.toJson_shown]

/-- What is shown of an exposure. -/
def Exposure.shown (x : Exposure) : Exposure := { x with event := x.event.shown }

/-- The key of an exposure is made of what is shown of the user. -/
theorem Exposure.shown_make (eventName : String) (u : User) (name : String) (o : Outcome)
    (now : Nat) (keyParts : List String) (metadata : List (String × String))
    (exposures : List SecondaryExposure) :
    (make eventName u name o now keyParts metadata exposures).shown =
      make eventName u.shown name o now keyParts metadata exposures := rfl

/-! ### A queue of other events -/

/-- The worker, with other events in its hands. -/
def FlushWorker.map {α β : Type} (f : α → β) : FlushWorker α → FlushWorker β
  | .idle => .idle
  | .received command => .received command
  | .starting cause => .starting cause
  | .flushing rounds cause => .flushing rounds cause
  | .delivering batch rounds cause => .delivering (batch.map f) rounds cause
  | .finished => .finished

namespace EventQueue

variable {α β : Type} {f : α → β}

/-- The queue, with other events in the places of its events. -/
def map (f : α → β) (q : EventQueue α) : EventQueue β where
  capacity := q.capacity
  batchSize := q.batchSize
  capacity_pos := q.capacity_pos
  batchSize_pos := q.batchSize_pos
  batchSize_le := q.batchSize_le
  queued := q.queued.map f
  dropped := q.dropped
  flushRequested := q.flushRequested
  commands := q.commands
  worker := q.worker.map f
  delivered := q.delivered.map (List.map f)
  nextTicket := q.nextTicket
  acknowledged := q.acknowledged
  isClosed := q.isClosed

theorem length_queued_map (q : EventQueue α) : (q.map f).queued.length = q.queued.length :=
  List.length_map f

theorem map_push (q : EventQueue α) (e : α) : (q.push e).map f = (q.map f).push (f e) := by
  unfold push
  rw [length_queued_map]
  by_cases hfull : q.capacity ≤ q.queued.length
  · rw [if_pos hfull, if_pos (show (q.map f).capacity ≤ q.queued.length from hfull)]
    simp only [map, List.map_append, List.map_drop, List.map_cons, List.map_nil]
  · rw [if_neg hfull, if_neg (show ¬ (q.map f).capacity ≤ q.queued.length from hfull)]
    simp only [map, List.map_append, List.map_cons, List.map_nil]

theorem isDue_map (q : EventQueue α) : (q.map f).isDue = q.isDue := by
  unfold isDue
  rw [length_queued_map]
  rfl

theorem map_enqueue (q : EventQueue α) (e : α) :
    (q.enqueue e).map f = (q.map f).enqueue (f e) := by
  unfold enqueue
  dsimp only
  rw [← map_push, isDue_map]
  rw [show (q.map f).isClosed = q.isClosed from rfl]
  cases q.isClosed with
  | true => rfl
  | false =>
    cases (q.push e).isDue with
    | false => rfl
    | true =>
      show (if !(q.push e).flushRequested then _ else _ : EventQueue α).map f =
        if !(q.push e).flushRequested then _ else _
      cases (q.push e).flushRequested <;> rfl

theorem map_finish (q : EventQueue α) (cause : Option FlushCommand) :
    (q.finish cause).map f = (q.map f).finish cause := by
  rcases cause with _ | ⟨_ | t⟩ | t <;> rfl

/-- The worker does with other events what it does with these. -/
theorem advance?_map (q : EventQueue α) : (q.map f).advance? = q.advance?.map (map f) := by
  obtain ⟨capacity, batchSize, hc, hb, hle, queued, dropped, flushRequested, commands, worker,
    delivered, nextTicket, acknowledged, isClosed⟩ := q
  cases worker with
  | idle => cases commands <;> rfl
  | received command => cases command <;> rfl
  | starting cause => simp [advance?, map, FlushWorker.map, rounds]
  | flushing rounds cause =>
    cases rounds with
    | zero => exact congrArg some (map_finish _ cause).symm
    | succ n =>
      cases queued with
      | nil => exact congrArg some (map_finish _ cause).symm
      | cons e queued =>
        simp [advance?, map, FlushWorker.map, List.map_take, List.map_drop, List.map_cons]
  | delivering batch rounds cause => rfl
  | finished => rfl

theorem complete?_map (q : EventQueue α) : (q.map f).complete? = q.complete?.map (map f) := by
  obtain ⟨capacity, batchSize, hc, hb, hle, queued, dropped, flushRequested, commands, worker,
    delivered, nextTicket, acknowledged, isClosed⟩ := q
  cases worker with
  | delivering batch rounds cause =>
    simp [complete?, map, FlushWorker.map, List.map_append]
  | _ => rfl

theorem tick?_map (q : EventQueue α) : (q.map f).tick? = q.tick?.map (map f) := by
  obtain ⟨capacity, batchSize, hc, hb, hle, queued, dropped, flushRequested, commands, worker,
    delivered, nextTicket, acknowledged, isClosed⟩ := q
  cases worker <;> rfl

theorem step?_map (isBlocked : Bool) (q : EventQueue α) :
    (q.map f).step? isBlocked = (q.step? isBlocked).map (map f) := by
  unfold step?
  rw [advance?_map, complete?_map]
  cases q.advance? with
  | some q' => rfl
  | none => cases isBlocked <;> rfl

/-- Coming to rest does not depend on what the events are. -/
theorem map_settle (isBlocked : Bool) (q : EventQueue α) :
    (q.settle isBlocked).map f = (q.map f).settle isBlocked := by
  induction q using settle.induct isBlocked with
  | case1 q hrest =>
    rw [settle, settle, step?_map, hrest]
    rfl
  | case2 q q' hstep ih =>
    rw [settle, hstep, settle, step?_map, hstep]
    exact ih

end EventQueue

/-! ### The log -/

namespace EventLog

/-- What is shown of the events of a log. -/
def shown (l : EventLog) : EventLog := { l with queue := l.queue.map Event.shown }

theorem shown_settle (l : EventLog) : l.settle.shown = l.shown.settle := by
  unfold settle shown
  rw [EventQueue.map_settle]

theorem shown_log (l : EventLog) (e : Event) : (l.log e).shown = l.shown.log e.shown := by
  unfold log
  rw [shown_settle]
  unfold shown
  rw [EventQueue.map_enqueue]

theorem shown_logExposure (l : EventLog) (x : Exposure) :
    (l.logExposure x).shown = l.shown.logExposure x.shown := by
  unfold logExposure
  show (if (l.seen.offer x.key x.event.time).1 then _ else _ : EventLog).shown =
    if (l.seen.offer x.key x.event.time).1 then _ else _
  cases (l.seen.offer x.key x.event.time).1 with
  | true => exact shown_log _ _
  | false => rfl

theorem shown_await (l : EventLog) (ticket : Nat) (late : Failure) :
    l.shown.await ticket late = ((l.await ticket late).1, (l.await ticket late).2.shown) := by
  unfold await
  dsimp only
  rw [← shown_settle]
  rfl

theorem shown_flush (l : EventLog) (timeout : Nat) :
    l.shown.flush timeout = ((l.flush timeout).1, (l.flush timeout).2.shown) := by
  unfold flush
  show (if l.queue.isClosed then _ else _) = _
  cases l.queue.isClosed with
  | true => rfl
  | false => exact shown_await { l with queue := l.queue.sendFlush.2 } _ _

theorem shown_shutdown (l : EventLog) (timeout : Nat) :
    l.shown.shutdown timeout = ((l.shutdown timeout).1, (l.shutdown timeout).2.shown) := by
  unfold shutdown
  show (if l.queue.isClosed then _ else _) = _
  cases l.queue.isClosed with
  | true => rfl
  | false => exact shown_await { l with queue := l.queue.sendShutdown.2 } _ _

theorem shown_tick (l : EventLog) : l.tick.shown = l.shown.tick := by
  unfold tick
  rw [show l.shown.queue.tick? = l.queue.tick?.map (EventQueue.map Event.shown) from
    EventQueue.tick?_map _]
  cases l.queue.tick? with
  | none => rfl
  | some q => exact shown_settle _

theorem delivered_shown (l : EventLog) :
    l.shown.delivered = l.delivered.map (List.map Event.shown) := rfl

end EventLog

end Rollout
