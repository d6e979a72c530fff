/-!
# The event queue

Events wait in a bounded queue until a worker hands them over in batches. The queue is due when it
holds a full batch; then the worker is sent a command to flush. It also flushes on request, from
time to time, and at the end.

What happens at one time is a step of its own, so that any interleaving of the callers with the
worker is a sequence of steps: callers `push`, `request` a flush and `send` commands; the worker
makes the steps of `advance?` and `complete?`. `settle` lets the worker work until it can do nothing
more by itself.
-/

namespace Rollout

/-- A command to the worker. A ticket is acknowledged when the command has been carried out. -/
inductive FlushCommand where
  | flush (ticket : Option Nat)
  | shutdown (ticket : Nat)
  deriving Repr, DecidableEq

/-- What the worker is doing. The cause of a flush is a command, or `none` for the timer. -/
inductive FlushWorker (α : Type) where
  | idle
  /-- A command was received. -/
  | received (command : FlushCommand)
  /-- The next step looks how much is queued. -/
  | starting (cause : Option FlushCommand)
  /-- This many batches may still be taken. -/
  | flushing (rounds : Nat) (cause : Option FlushCommand)
  /-- A batch is being handed over. -/
  | delivering (batch : List α) (rounds : Nat) (cause : Option FlushCommand)
  | finished
  deriving Repr, DecidableEq

/-- A bounded queue of events with its worker. -/
structure EventQueue (α : Type) where
  capacity : Nat
  batchSize : Nat
  capacity_pos : 0 < capacity := by omega
  batchSize_pos : 0 < batchSize := by omega
  batchSize_le : batchSize ≤ capacity := by omega
  queued : List α := []
  /-- How many events were dropped because the queue was full. -/
  dropped : Nat := 0
  /-- Whether a flush was asked for because the queue was due. -/
  flushRequested : Bool := false
  /-- The commands that the worker has not received yet. -/
  commands : List FlushCommand := []
  worker : FlushWorker α := .idle
  /-- The batches that were handed over, in order. -/
  delivered : List (List α) := []
  nextTicket : Nat := 0
  acknowledged : List Nat := []
  /-- Whether shutdown has begun; then no event is accepted. -/
  isClosed : Bool := false
  deriving Repr

namespace EventQueue

variable {α : Type}

/-- An empty queue. A batch is never larger than the queue. -/
def make (maxQueueSize batchSize : Nat) : EventQueue α :=
  { capacity := max maxQueueSize 1, batchSize := max 1 (min batchSize (max maxQueueSize 1)) }

/-! ### Callers -/

/-- Put an event at the end of the queue; a full queue loses its oldest event. -/
def push (q : EventQueue α) (e : α) : EventQueue α :=
  if q.capacity ≤ q.queued.length then
    { q with queued := q.queued.drop 1 ++ [e], dropped := q.dropped + 1 }
  else { q with queued := q.queued ++ [e] }

/-- Whether a full batch is queued. -/
def isDue (q : EventQueue α) : Bool := q.batchSize ≤ q.queued.length

/-- Ask for a flush; also whether nobody had asked before. -/
def request (q : EventQueue α) : Bool × EventQueue α :=
  (!q.flushRequested, { q with flushRequested := true })

/-- Send a command to the worker. -/
def send (q : EventQueue α) (c : FlushCommand) : EventQueue α :=
  { q with commands := q.commands ++ [c] }

/-- Accept an event, and have the queue flushed when it is due. A closed queue accepts nothing. -/
def enqueue (q : EventQueue α) (e : α) : EventQueue α :=
  if q.isClosed then q
  else
    let q := q.push e
    if q.isDue then
      let (isFirst, q) := q.request
      if isFirst then q.send (.flush none) else q
    else q

/-- Ask for a flush that is acknowledged under the returned ticket. -/
def sendFlush (q : EventQueue α) : Nat × EventQueue α :=
  (q.nextTicket, { q with nextTicket := q.nextTicket + 1 }.send (.flush (some q.nextTicket)))

/-- Close the queue and ask for a last flush. -/
def sendShutdown (q : EventQueue α) : Nat × EventQueue α :=
  (q.nextTicket,
    { q with nextTicket := q.nextTicket + 1, isClosed := true }.send (.shutdown q.nextTicket))

/-! ### The worker -/

/-- The end of a flush. -/
def finish (q : EventQueue α) : Option FlushCommand → EventQueue α
  | none | some (.flush none) => { q with worker := .idle }
  | some (.flush (some ticket)) =>
    { q with worker := .idle, acknowledged := ticket :: q.acknowledged }
  | some (.shutdown ticket) =>
    { q with worker := .finished, acknowledged := ticket :: q.acknowledged }

/-- How many batches a flush takes at most: as many as hold what is queued when it starts. -/
def rounds (q : EventQueue α) : Nat := (q.queued.length + q.batchSize - 1) / q.batchSize

/-- The next step of the worker, apart from handing over. A flush ends when it has taken its batches
or finds the queue empty. -/
def advance? (q : EventQueue α) : Option (EventQueue α) :=
  match q.worker with
  | .idle => match q.commands with
    | [] => none
    | c :: rest => some { q with commands := rest, worker := .received c }
  | .received (.flush t) =>
    some { q with flushRequested := false, worker := .starting (some (.flush t)) }
  | .received (.shutdown t) => some { q with worker := .starting (some (.shutdown t)) }
  | .starting cause => some { q with worker := .flushing q.rounds cause }
  | .flushing 0 cause => some (q.finish cause)
  | .flushing (n + 1) cause =>
    if q.queued.isEmpty then some (q.finish cause)
    else some { q with
      queued := q.queued.drop q.batchSize
      worker := .delivering (q.queued.take q.batchSize) n cause }
  | .delivering .. | .finished => none

/-- A batch has been handed over, with whatever success: a batch that fails is not tried again. -/
def complete? (q : EventQueue α) : Option (EventQueue α) :=
  match q.worker with
  | .delivering batch n cause =>
    some { q with delivered := q.delivered ++ [batch], worker := .flushing n cause }
  | _ => none

/-- The timer of an idle worker has run out. -/
def tick? (q : EventQueue α) : Option (EventQueue α) :=
  match q.worker with
  | .idle => some { q with worker := .starting none }
  | _ => none

/-- The steps that the worker can make by itself. Handing over may be blocked. -/
def step? (isBlocked : Bool) (q : EventQueue α) : Option (EventQueue α) :=
  q.advance?.or (if isBlocked then none else q.complete?)

/-! ### Coming to rest -/

/-- How far the worker is from the end of a flush, apart from the batches to take. -/
def stage : FlushWorker α → Nat
  | .idle | .finished => 0
  | .flushing .. | .delivering .. => 1
  | .starting _ => 2
  | .received _ => 3

/-- Twice the batches to take, and one more while a batch is handed over. -/
def turns : FlushWorker α → Nat
  | .flushing n _ => 2 * n
  | .delivering _ n _ => 2 * n + 1
  | _ => 0

/-- What the worker still has to do: commands, the stage of the current one, and turns within it. -/
def backlog (q : EventQueue α) : Nat × Nat × Nat :=
  (q.commands.length, stage q.worker, turns q.worker)

/-- Smaller in the first place where two backlogs differ. -/
abbrev Shorter : Nat × Nat × Nat → Nat × Nat × Nat → Prop :=
  Prod.Lex (· < ·) (Prod.Lex (· < ·) (· < ·))

theorem shorter_finish {q : EventQueue α} {cause : Option FlushCommand} {n : Nat}
    (h : q.worker = .flushing n cause) : Shorter (q.finish cause).backlog q.backlog := by
  rcases cause with _ | ⟨_ | t⟩ | t <;>
    simp only [finish, backlog, h, stage] <;>
    exact .right _ (.left _ _ Nat.zero_lt_one)

theorem shorter_advance? {q q' : EventQueue α} (h : q.advance? = some q') :
    Shorter q'.backlog q.backlog := by
  simp only [advance?] at h
  split at h
  · split at h
    · cases h
    · next hw c rest hc =>
      cases h
      simp only [backlog, hc, List.length_cons]
      exact .left _ _ (Nat.lt_succ_self _)
  · next hw =>
    cases h
    simp only [backlog, hw, stage]
    exact .right _ (.left _ _ (by omega))
  · next hw =>
    cases h
    simp only [backlog, hw, stage]
    exact .right _ (.left _ _ (by omega))
  · next hw =>
    cases h
    simp only [backlog, hw, stage]
    exact .right _ (.left _ _ (by omega))
  · next hw =>
    cases h
    exact shorter_finish hw
  · next hw =>
    split at h
    · cases h
      exact shorter_finish hw
    · cases h
      simp only [backlog, hw, stage, turns]
      exact .right _ (.right _ (by omega))
  · cases h
  · cases h

theorem shorter_complete? {q q' : EventQueue α} (h : q.complete? = some q') :
    Shorter q'.backlog q.backlog := by
  simp only [complete?] at h
  split at h
  · next hw =>
    cases h
    simp only [backlog, hw, stage, turns]
    exact .right _ (.right _ (by omega))
  · cases h

theorem shorter_step? {q q' : EventQueue α} {isBlocked : Bool}
    (h : q.step? isBlocked = some q') : Shorter q'.backlog q.backlog := by
  simp only [step?] at h
  cases ha : q.advance? with
  | some r =>
    simp only [ha, Option.some_or, Option.some.injEq] at h
    exact h ▸ shorter_advance? ha
  | none =>
    simp only [ha, Option.none_or] at h
    split at h
    · cases h
    · exact shorter_complete? h

/-- Let the worker work until it can do nothing more by itself. -/
def settle (isBlocked : Bool) (q : EventQueue α) : EventQueue α :=
  match _h : q.step? isBlocked with
  | none => q
  | some q' => settle isBlocked q'
termination_by q.backlog
decreasing_by exact shorter_step? _h

end EventQueue

end Rollout
