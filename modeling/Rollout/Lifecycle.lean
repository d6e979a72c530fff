import Rollout.Failure

/-!
# The life of an engine

An engine is started once and shut down once. The caller that starts it makes the steps `enter`,
`spawn` and `becomeReady`; the thread that it spawns starts the feed (`feedStarted`), has it
scheduled unless the engine is closing (`feedScheduled`), and publishes the result. The caller that
shuts the engine down makes the steps `close` and `closed`. Each step is atomic and other callers
may come between any two of them.
-/

namespace Rollout

/-- How far the thread is that starts the feed. -/
inductive StartThread where
  | absent
  | starting
  | scheduling (started : Except Failure Unit)
  | finished
  deriving Repr

/-- The life of an engine so far. -/
structure Lifecycle where
  phase : Phase := .uninitialized
  thread : StartThread := .absent
  /-- What those are told who wait for the first payload. -/
  result : Option (Except Failure Unit) := none
  deriving Repr

namespace Lifecycle

/-! ### Starting -/

/-- Enter the start of the engine. Only one caller may go on, which is the one that is told `true`;
a closing engine cannot be started. -/
def enter (l : Lifecycle) : Except Failure Bool × Lifecycle :=
  match l.phase with
  | .uninitialized => (.ok true, { l with phase := .initializing })
  | .initializing | .ready => (.ok false, l)
  | phase => (.error (.invalidPhase phase), l)

/-- Spawn the thread that starts the feed. -/
def spawn (l : Lifecycle) : Lifecycle := { l with thread := .starting }

/-- The start of the engine is complete, whether or not payloads have arrived. -/
def becomeReady (l : Lifecycle) : Lifecycle := { l with phase := .ready }

/-! ### The thread -/

/-- Whether the feed is being started. -/
def isStarting (l : Lifecycle) : Bool :=
  match l.thread with
  | .starting => true
  | _ => false

/-- The start of the feed has ended. -/
def feedStarted (l : Lifecycle) (result : Except Failure Unit) : Lifecycle :=
  { l with thread := .scheduling result }

/-- Whether the feed may be scheduled: a closing engine has no use for it. -/
def maySchedule (l : Lifecycle) : Bool := !l.phase.isClosing

/-- The first failure of starting and scheduling the feed. -/
def firstResult (started scheduled : Except Failure Unit) : Except Failure Unit :=
  started.bind fun () => scheduled

/-- The feed has been scheduled, or needed not be. -/
def feedScheduled (l : Lifecycle) (scheduled : Except Failure Unit) : Lifecycle :=
  match l.thread with
  | .scheduling started =>
    { l with thread := .finished, result := some (firstResult started scheduled) }
  | _ => l

/-- What a caller is told that has waited for the first payload, for so many milliseconds. -/
def await (l : Lifecycle) (timeout : Nat) : Except Failure Unit :=
  l.result.getD (.error (.timeout .initialization timeout))

/-! ### Shutting down -/

/-- Begin to shut down; `false` if that has been begun before. -/
def close (l : Lifecycle) : Bool × Lifecycle :=
  if l.phase.isClosing then (false, l) else (true, { l with phase := .shuttingDown })

/-- Everything has been shut down. -/
def closed (l : Lifecycle) : Lifecycle := { l with phase := .shutDown }

end Lifecycle

end Rollout
