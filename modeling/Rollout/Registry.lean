import Rollout.Engine

/-!
# Registries of engines

A host that cannot hold engines itself refers to them by handles. A handle is never given to two
engines. An engine that is released lives on for those who hold it; the last one lets it go.
-/

namespace Rollout

/-- An engine by the handle that it was given. -/
structure RegisteredEngine where
  handle : Nat
  engine : Engine
  /-- Whether the registry knows it still. -/
  isListed : Bool := true

/-- A registry of engines. -/
structure EngineRegistry where
  lastHandle : Nat := 0
  engines : List RegisteredEngine := []

namespace EngineRegistry

/-- The handle that no engine has. -/
def invalidHandle : Nat := 0

/-- Take in an engine and give it a handle. -/
def insert (r : EngineRegistry) (engine : Engine) : Nat × EngineRegistry :=
  let handle := r.lastHandle + 1
  (handle, { lastHandle := handle, engines := r.engines ++ [{ handle, engine }] })

/-- The engine that was given a handle, listed or not. -/
def engine? (r : EngineRegistry) (handle : Nat) : Option Engine :=
  (r.engines.find? (·.handle = handle)).map (·.engine)

/-- The engine with a handle. -/
def get? (r : EngineRegistry) (handle : Nat) : Option Engine :=
  (r.engines.find? fun e => e.handle = handle && e.isListed).map (·.engine)

/-- Remove a handle; the engine that had it. -/
def release (r : EngineRegistry) (handle : Nat) : Option Engine × EngineRegistry :=
  (r.get? handle, { r with
    engines := r.engines.map fun e =>
      if e.handle = handle then { e with isListed := false } else e })

/-- How many engines have handles. -/
def size (r : EngineRegistry) : Nat := (r.engines.filter (·.isListed)).length

/-- Whether no engine has a handle. -/
def isEmpty (r : EngineRegistry) : Bool := r.size = 0

/-- Let the engine work that was given a handle, listed or not. -/
def run {α : Type} (r : EngineRegistry) (handle : Nat) (x : StateM Engine α) :
    Option α × EngineRegistry :=
  match r.engine? handle with
  | none => (none, r)
  | some engine =>
    let (a, engine) := x engine
    (some a, { r with
      engines := r.engines.map fun e => if e.handle = handle then { e with engine } else e })

end EngineRegistry

end Rollout
