import Rollout.Event
import Rollout.EventQueue
import Rollout.Failure
import Rollout.RecentKeys

/-!
# The event log

The event queue of an engine. An exposure is not logged again while its key is recent
(`EventLog.logExposure`). Each operation lets the worker come to rest before it answers.
-/

namespace Rollout

/-- The events of an engine on their way to their destination. -/
structure EventLog where
  queue : EventQueue Event
  /-- The keys of the exposures logged of late. -/
  seen : RecentKeys := {}
  /-- Whether the destination keeps batches waiting. -/
  isBlocked : Bool := false
  deriving Repr

namespace EventLog

/-- An empty log. -/
def make (maxQueueSize batchSize : Nat) : EventLog := { queue := .make maxQueueSize batchSize }

/-- Let the worker come to rest. -/
def settle (l : EventLog) : EventLog := { l with queue := l.queue.settle l.isBlocked }

/-- Log an event. -/
def log (l : EventLog) (e : Event) : EventLog := { l with queue := l.queue.enqueue e }.settle

/-- Log an exposure, at the time of its event, unless one with its key was logged of late. -/
def logExposure (l : EventLog) (x : Exposure) : EventLog :=
  let (isNew, seen) := l.seen.offer x.key x.event.time
  if isNew then { l with seen }.log x.event else { l with seen }

/-- The answer to a command, which is in time if the worker comes round to it. -/
def await (l : EventLog) (ticket : Nat) (late : Failure) : Except Failure Unit × EventLog :=
  let l := l.settle
  (if l.queue.acknowledged.contains ticket then .ok () else .error late, l)

/-- Hand over what is queued, waiting for so many milliseconds. -/
def flush (l : EventLog) (timeout : Nat) : Except Failure Unit × EventLog :=
  if l.queue.isClosed then (.ok (), l)
  else
    let (ticket, queue) := l.queue.sendFlush
    { l with queue }.await ticket (.timeout .flush timeout)

/-- Hand over what is queued and accept no more, waiting for so many milliseconds. -/
def shutdown (l : EventLog) (timeout : Nat) : Except Failure Unit × EventLog :=
  if l.queue.isClosed then (.ok (), l)
  else
    let (ticket, queue) := l.queue.sendShutdown
    { l with queue }.await ticket (.timeout .loggerShutdown timeout)

/-- From now on the destination keeps batches waiting. -/
def block (l : EventLog) : EventLog := { l with isBlocked := true }

/-- The destination accepts batches again. -/
def release (l : EventLog) : EventLog := { l with isBlocked := false }.settle

/-- Let the timer of the worker run out. -/
def tick (l : EventLog) : EventLog :=
  match l.queue.tick? with
  | some queue => { l with queue }.settle
  | none => l

/-- The batches handed over so far. -/
def delivered (l : EventLog) : List (List Event) := l.queue.delivered

/-- How many events are queued. -/
def pending (l : EventLog) : Nat := l.queue.queued.length

/-- How many events were dropped. -/
def dropped (l : EventLog) : Nat := l.queue.dropped

end EventLog

end Rollout
