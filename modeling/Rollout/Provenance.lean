import Rollout.Json

/-!
# Where decisions come from

Every decision carries the reason for its value and the specs that it was made from.
-/

namespace Rollout

/-- Where specs came from. -/
inductive Source where
  | uninitialized
  /-- The payload given at start. -/
  | bootstrap
  /-- A file. -/
  | cache
  | network
  /-- A data store or an adapter of the host. -/
  | adapter (name : String)
  | error
  deriving Repr, DecidableEq, Inhabited

namespace Source

/-- The source in words. -/
def label : Source → String
  | .uninitialized => "Uninitialized"
  | .bootstrap => "Bootstrap"
  | .cache => "Cache"
  | .network => "Network"
  | .adapter name => "Adapter(" ++ name ++ ")"
  | .error => "Error"

/-- The source in the given words. Adapters have names of their own. -/
def ofLabel? (s : String) : Option Source :=
  [uninitialized, bootstrap, cache, network, error].find? (·.label == s)

end Source

/-- Why a decision has its value. -/
inductive Reason where
  /-- There are no specs yet. -/
  | uninitialized
  | localOverride
  | recognized (source : Source)
  /-- The specs do not have the entity. -/
  | unrecognized (source : Source)
  /-- The entity uses what this version does not know. -/
  | unsupported (source : Source)
  /-- The value was stored earlier. -/
  | persisted
  /-- Gates are nested too deep. -/
  | error
  deriving Repr, DecidableEq, Inhabited

namespace Reason

/-- The reason in words. -/
def label : Reason → String
  | .uninitialized => "Uninitialized"
  | .localOverride => "LocalOverride"
  | .recognized source => source.label ++ ":Recognized"
  | .unrecognized source => source.label ++ ":Unrecognized"
  | .unsupported source => source.label ++ ":Unsupported"
  | .persisted => "Persisted"
  | .error => "Error"

end Reason

/-- The provenance of a decision. -/
structure Details where
  /-- The time of the specs. -/
  lcut : Option Nat := none
  /-- When the specs arrived, in milliseconds. -/
  receivedAt : Option Nat := none
  reason : Reason
  deriving Repr, DecidableEq, Inhabited

namespace Details

/-- The provenance of decisions made without specs. -/
def uninitialized : Details := { reason := .uninitialized }

/-- The provenance as JSON. -/
def toJson (d : Details) : Json := .obj
  [("lcut", .ofOption (fun n => .int n) d.lcut),
   ("receivedAt", .ofOption (fun n => .int n) d.receivedAt), ("reason", .text d.reason.label)]

end Details

end Rollout
