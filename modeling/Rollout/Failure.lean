/-!
# Failures

Everything that can go wrong outside of a decision, by cause. `Failure.message` is the only place
that words it.
-/

namespace Rollout

/-- The life of an engine. -/
inductive Phase where
  | uninitialized
  | initializing
  | ready
  | shuttingDown
  | shutDown
  deriving Repr, DecidableEq, Inhabited

namespace Phase

/-- The phase in words. -/
def label : Phase → String
  | .uninitialized => "uninitialized"
  | .initializing => "initializing"
  | .ready => "ready"
  | .shuttingDown => "shutting down"
  | .shutDown => "shut down"

/-- The phases in their order. -/
def all : List Phase := [.uninitialized, .initializing, .ready, .shuttingDown, .shutDown]

/-- Whether shutdown has begun. -/
def isClosing : Phase → Bool
  | .shuttingDown | .shutDown => true
  | _ => false

end Phase

/-- A call into code of the host. -/
inductive HostCall where
  | feedStart
  | feedSchedule
  | feedShutdown
  | deliveryStart
  | deliver
  | deliveryShutdown
  deriving Repr, DecidableEq

namespace HostCall

/-- The call in words. -/
def label : HostCall → String
  | .feedStart => "specs adapter start"
  | .feedSchedule => "specs adapter schedule_background_sync"
  | .feedShutdown => "specs adapter shutdown"
  | .deliveryStart => "event logging adapter start"
  | .deliver => "event logging adapter log_events"
  | .deliveryShutdown => "event logging adapter shutdown"

end HostCall

/-- A call that may run out of time. -/
inductive Operation where
  | initialization
  | flush
  | loggerShutdown
  | pollerShutdown
  deriving Repr, DecidableEq

namespace Operation

/-- The operation in words. -/
def label : Operation → String
  | .initialization => "initialize"
  | .flush => "event flush"
  | .loggerShutdown => "event logger shutdown"
  | .pollerShutdown => "poller shutdown"

end Operation

/-- What is wrong with a payload. -/
inductive PayloadFault where
  | unreadable
  | missingTime
  deriving Repr, DecidableEq

/-- How a callback of the host failed. -/
inductive CallbackFault where
  | returned (call : HostCall) (message : String)
  | panicked (call : HostCall)
  /-- The data store holds nothing. -/
  | noSpecs
  deriving Repr, DecidableEq

/-- What is wrong with settings. -/
inductive SettingsFault where
  | unreadable
  | notPositive (setting : String)
  | noFallback
  deriving Repr, DecidableEq

/-- Why an override does not fit its entity. -/
inductive OverrideFault where
  /-- A gate was given something else than a boolean. -/
  | gateNeedsBool (gate : String)
  | boolForOther (kind name : String)
  /-- Only experiments have groups. -/
  | groupForOther (kind name : String)
  deriving Repr, DecidableEq

/-- A failure. -/
inductive Failure where
  | stale (current incoming : Nat)
  | malformedPayload (fault : PayloadFault)
  | network
  | unexpectedStatus (status : Nat)
  | unauthorized
  | io
  | callback (fault : CallbackFault)
  | invalidSdkKey
  | invalidSettings (fault : SettingsFault)
  | invalidUrl
  | invalidOverride (fault : OverrideFault)
  | timeout (operation : Operation) (milliseconds : Nat)
  | threadPanicked
  | invalidPhase (phase : Phase)
  deriving Repr, DecidableEq

/-- A span of time: seconds with a fraction from one second on, else milliseconds. -/
def durationText (milliseconds : Nat) : String :=
  if milliseconds = 0 then "0ns"
  else if milliseconds < 1000 then toString milliseconds ++ "ms"
  else
    let rest := (toString (1000 + milliseconds % 1000)).toList.drop 1
    let fraction := (rest.reverse.dropWhile (· == '0')).reverse
    toString (milliseconds / 1000) ++
      (if fraction.isEmpty then "" else "." ++ String.ofList fraction) ++ "s"

namespace CallbackFault

/-- The fault in words. -/
def message : CallbackFault → String
  | .returned call text => call.label ++ ": " ++ text
  | .panicked call => call.label ++ " panicked"
  | .noSpecs => "data store has no specs"

end CallbackFault

namespace SettingsFault

/-- The fault in words. -/
def message : SettingsFault → String
  | .unreadable => "unreadable"
  | .notPositive setting => setting ++ " must be positive"
  | .noFallback => "no network fallback configured"

end SettingsFault

namespace OverrideFault

/-- The fault in words. -/
def message : OverrideFault → String
  | .gateNeedsBool gate => "gate `" ++ gate ++ "` can only be overridden with a boolean"
  | .boolForOther kind name => kind ++ " `" ++ name ++ "` cannot be overridden with a boolean"
  | .groupForOther kind name =>
    "only experiments can be overridden by group name, `" ++ name ++ "` is a " ++ kind

end OverrideFault

namespace Failure

/-- The failure in words. -/
def message : Failure → String
  | .stale current incoming =>
    "stale specs update: current lcut " ++ toString current ++ ", incoming lcut " ++
      toString incoming
  | .malformedPayload .missingTime => "malformed specs payload: missing `time`"
  | .malformedPayload .unreadable => "malformed specs payload"
  | .network => "request failed"
  | .unexpectedStatus status => "unexpected response status " ++ toString status
  | .unauthorized => "unauthorized, sdk_key is likely invalid"
  | .io => "file error"
  | .callback fault => "adapter callback failed: " ++ fault.message
  | .invalidSdkKey => "invalid sdk key"
  | .invalidSettings fault => "invalid options: " ++ fault.message
  | .invalidUrl => "invalid url configuration"
  | .invalidOverride fault => "invalid override: " ++ fault.message
  | .timeout operation ms => operation.label ++ " timed out after " ++ durationText ms
  | .threadPanicked => "background thread panicked"
  | .invalidPhase phase => "operation not allowed while engine is " ++ phase.label

end Failure

/-- Two steps that succeed in sequence succeed one after the other. -/
theorem bind_eq_ok {ε α β : Type} {x : Except ε α} {f : α → Except ε β} {b : β}
    (h : x >>= f = .ok b) : ∃ a, x = .ok a ∧ f a = .ok b := by
  cases x with
  | error e => cases h
  | ok a => exact ⟨a, rfl, h⟩

/-- Two steps in sequence run one after the other. -/
theorem bind_apply {σ α β : Type} (x : StateM σ α) (f : α → StateM σ β) (s : σ) :
    (x >>= f) s = f (x s).1 (x s).2 := rfl

theorem get_bind_apply {σ α : Type} (f : σ → StateM σ α) (s : σ) :
    ((get : StateM σ σ) >>= f) s = f s s := rfl

end Rollout
