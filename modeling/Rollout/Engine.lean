import Rollout.ClientPayload
import Rollout.EventLog
import Rollout.EventPoster
import Rollout.Feed
import Rollout.IdList.Sync
import Rollout.Lifecycle

/-!
# Engines

An engine ties a feed, evaluation and the event log together. Evaluations never fail: without specs
they answer with zero values. They are made for the user with the environment of the engine
(`Engine.placed`), against the specs of the moment, and log an exposure unless they are asked not to
or the engine is closing.

An engine can be started once (`Engine.start`) and shut down once (`Engine.shutdown`); what these do
is the sequence of the steps in `Lifecycle`.
-/

namespace Rollout

/-- What the host gives to an engine. Without a feed, payloads come from the data store, or else
from the network; batches of events that the host does not take go to the network. -/
structure HostParts where
  feed : Option FeedSource := none
  takesEvents : Bool := false
  storage : Option StickyStorage := none
  dataStore : Option DataStore := none
  network : Network := {}
  /-- The current time in milliseconds. -/
  now : Nat

/-- What is special about an evaluation. -/
structure EvaluationOptions where
  logsExposure : Bool := true
  /-- Keep assignments of active experiments as they are stored. -/
  isSticky : Bool := false
  deriving Repr, DecidableEq

/-- A parameter store as it is bound to a user. -/
structure BoundParameterStore where
  name : String
  details : Details
  user : User
  options : EvaluationOptions
  deriving Repr

/-- An engine. -/
structure Engine where
  settings : Settings
  intake : Intake
  overrides : Overrides := {}
  storage : Option StickyStorage := none
  /-- The events to be reported, unless logging is disabled. -/
  log : Option EventLog := none
  /-- Where the host does not take batches of events, who posts them. -/
  poster : Option EventPoster := none
  /-- How many batches have been posted. -/
  posted : Nat := 0
  idLists : Option IdListSync := none
  idListPoller : Poller := .absent
  lifecycle : Lifecycle := {}
  /-- Whether nobody holds the engine any more. Things that it has handed out may outlive it. -/
  isGone : Bool := false

namespace Engine

/-! ### Making -/

/-- Choose the feed. -/
def chooseFeed (sdkKey : String) (s : Settings) (h : HostParts) : Except Failure FeedSource :=
  match h.feed, h.dataStore with
  | some feed, _ => .ok feed
  | none, some _ => .ok .dataStore
  | none, none =>
    if s.disableNetwork then .ok .nothing
    else (Fetcher.ofSettings sdkKey s).map .remote

/-- Choose who posts batches of events. -/
def choosePoster (sdkKey : String) (s : Settings) (h : HostParts) :
    Except Failure (Option EventPoster) :=
  if h.takesEvents || s.disableLogging || s.disableNetwork then .ok none
  else (EventPoster.ofSettings sdkKey s).map some

/-- Choose who keeps id lists in sync. -/
def chooseIdLists (sdkKey : String) (s : Settings) : Except Failure (Option IdListSync) :=
  if s.enableIdLists && !s.disableNetwork then (IdListSync.ofSettings sdkKey s).map some
  else .ok none

/-- An engine that has not been started. -/
def make (sdkKey : String) (s : Settings) (h : HostParts) : Except Failure Engine := do
  Settings.checkSdkKey sdkKey
  s.check
  let source ← chooseFeed sdkKey s h
  let poster ← choosePoster sdkKey s h
  let idLists ← chooseIdLists sdkKey s
  return {
    settings := s, poster, idLists, storage := h.storage
    intake :=
      { feed := .ofSource source, network := h.network, now := h.now,
        catalog := { archive := h.dataStore } }
    log := if s.disableLogging then none else some (.make s.maxQueueSize s.batchSize) }

/-! ### Parts -/

/-- Let the intake work. -/
def onIntake {α : Type} (x : StateM Intake α) : StateM Engine α := fun e =>
  let (a, intake) := x e.intake
  (a, { e with intake })

/-- Make a step in the life of the engine. -/
def onLifecycle (f : Lifecycle → Lifecycle) : StateM Engine Unit :=
  modify fun e => { e with lifecycle := f e.lifecycle }

/-- The life of the engine so far. -/
def phase (e : Engine) : Phase := e.lifecycle.phase

/-- The specs of the moment. -/
def snapshot (e : Engine) : Option Snapshot := e.intake.catalog.snapshot

/-- The version of the specs. -/
def info (e : Engine) : SpecsInfo := e.intake.catalog.info

/-! ### The event log -/

/-- Post the batches that were handed over since. -/
def postBatches : StateM Engine Unit := do
  let e ← get
  match e.poster, e.log with
  | some poster, some log =>
    let batches := log.delivered.drop e.posted
    modify fun e => { e with posted := log.delivered.length }
    for events in batches do
      let _ ← onIntake (Intake.online (poster.post { events, reporter := .this }))
  | _, _ => pure ()

/-- Let the event log work, if there is one. -/
def onLog (f : EventLog → EventLog) : StateM Engine Unit := do
  modify fun e => { e with log := e.log.map f }
  postBatches

/-- Ask the event log, if there is one. -/
def askLog (f : EventLog → Except Failure Unit × EventLog) :
    StateM Engine (Except Failure Unit) := do
  match (← get).log with
  | none => return .ok ()
  | some log =>
    let (result, log) := f log
    modify fun e => { e with log := some log }
    postBatches
    return result

/-- Whether events are logged still. -/
def isLogging (e : Engine) : Bool := e.log.isSome && !e.phase.isClosing

/-- Hand over the events that are queued, waiting for so many milliseconds. -/
def flush (timeout : Nat) : StateM Engine (Except Failure Unit) := askLog (·.flush timeout)

/-- The batches that were handed over so far. -/
def delivered (e : Engine) : List (List Event) := (e.log.map EventLog.delivered).getD []

/-- How many events are queued. -/
def pending (e : Engine) : Nat := (e.log.map EventLog.pending).getD 0

/-- How many events were dropped. -/
def dropped (e : Engine) : Nat := (e.log.map EventLog.dropped).getD 0

/-! ### Starting -/

/-- Take in the payload that the settings hold, if it is of use. -/
def applyBootstrap : StateM Engine Unit := do
  match (← get).settings.bootstrap with
  | some text => let _ ← onIntake (Intake.push text .bootstrap)
  | none => pure ()

/-- Begin to keep id lists in sync. -/
def scheduleIdLists : StateM Engine Unit := modify fun e =>
  if e.idLists.isSome then { e with idListPoller := .running } else e

/-- Have the feed scheduled, unless the engine is closing. -/
def scheduleFeed : StateM Engine (Except Failure Unit) := do
  if (← get).lifecycle.maySchedule then onIntake Intake.schedule else return .ok ()

/-- What the start thread does once the start of the feed goes on. -/
def finishStart : StateM Engine Unit := do
  let started ← onIntake Intake.supply
  onLifecycle (·.feedStarted started)
  let scheduled ← scheduleFeed
  onLifecycle (·.feedScheduled scheduled)

/-- What the start thread does, as far as the host lets it. -/
def runStart : StateM Engine Unit := do
  onIntake Intake.listen
  if (← get).intake.feed.isHeld then pure () else finishStart

/-- Start the engine: take in the payload at hand and begin to supply payloads in the background.
Starting it again has no effect. -/
def start : StateM Engine (Except Failure Unit) := do
  let (entered, lifecycle) := (← get).lifecycle.enter
  modify fun e => { e with lifecycle }
  match entered with
  | .error failure => return .error failure
  | .ok false => return .ok ()
  | .ok true =>
    applyBootstrap
    scheduleIdLists
    onLifecycle Lifecycle.spawn
    runStart
    onLifecycle Lifecycle.becomeReady
    return .ok ()

/-- Start the engine and wait until the feed has been started and scheduled. -/
def startAndWait : StateM Engine (Except Failure Unit) := do
  match ← start with
  | .error failure => return .error failure
  | .ok () =>
    let e ← get
    return e.lifecycle.await e.settings.initTimeout

/-- The host lets the start of its feed go on. -/
def releaseFeed : StateM Engine Unit := do
  onIntake (Intake.onFeed fun f => { f with isHeld := false })
  if (← get).lifecycle.isStarting then finishStart

/-! ### In the background -/

/-- Let the feed supply a payload in the background. -/
def pollFeed : StateM Engine Unit := onIntake Intake.poll

/-- Bring the id lists up to date in the background. A refused key is the end of it. -/
def pollIdLists : StateM Engine Unit := do
  let e ← get
  match e.idListPoller, e.idLists with
  | .running, some sync =>
    match ← onIntake (Intake.online (sync.sync e.intake.catalog.synced)) with
    | .ok lists => onIntake (modify fun i => { i with catalog := i.catalog.setIdLists lists })
    | .error .unauthorized => modify fun e => { e with idListPoller := .ended }
    | .error _ => pure ()
  | _, _ => pure ()

/-- The host pushes an update through what the start of its feed has given to it, if it was given
something. A feed made of functions pushes payloads under its own name, and no longer than there is
an engine. -/
def pushUpdate (u : Update) : StateM Engine (Option (Except Failure Unit)) := do
  let e ← get
  if !e.intake.feed.isListening then return none
  else match e.intake.feed.source with
    | .host _ => return some (← onIntake (Intake.receive u))
    | .hooks h =>
      if e.isGone then return some (.error (.invalidPhase .shutDown))
      else return some (← onIntake (Intake.push u.text (.adapter h.name)))
    | _ => return none

/-- What a feed made of functions sees of the specs, once it is started and while there is an
engine. -/
def infoForHooks (e : Engine) : Option SpecsInfo :=
  match e.intake.feed.source with
  | .hooks _ => if e.intake.feed.isListening && !e.isGone then some e.info else none
  | _ => none

/-! ### Shutting down -/

/-- The first failure of several parts. -/
def firstFailure (results : List (Except Failure Unit)) : Except Failure Unit :=
  results.foldl Lifecycle.firstResult (.ok ())

/-- Shut the engine down: stop the background work and hand over what is queued, waiting for so many
milliseconds. It goes on in spite of failures. Shutting down again has no effect. -/
def shutdown (timeout : Nat) : StateM Engine (Except Failure Unit) := do
  let (isFirst, lifecycle) := (← get).lifecycle.close
  modify fun e => { e with lifecycle }
  if isFirst then
    let feed ← onIntake (Intake.shutdown timeout)
    let idLists := (← get).idListPoller.shutdown timeout
    modify fun e => { e with idListPoller := .absent }
    let log ← askLog (·.shutdown timeout)
    onLifecycle Lifecycle.closed
    return firstFailure [feed, idLists, log]
  else return .ok ()

/-- How long an engine is waited for that is let go without having been shut down. -/
def partingTimeout : Nat := 1000

/-- Let go of the engine. -/
def letGo : StateM Engine Unit := do
  if (← get).phase ≠ .shutDown then let _ ← shutdown partingTimeout
  modify fun e => { e with isGone := true }

/-! ### Evaluating -/

/-- A user with the environment of the engine, if it has none. -/
def placed (e : Engine) (u : User) : User := u.withTier e.settings.environment

/-- Evaluate an entity against given specs. -/
def evaluateAgainst (snapshot : Option Snapshot) (user : User) (kind : EntityKind) (name : String)
    (isSticky : Bool) : StateM Engine Outcome := fun e =>
  let c : Context := { user, snapshot, overrides := e.overrides, now := e.intake.now }
  let (outcome, storage) := c.evaluateWith e.storage isSticky kind name
  (outcome, { e with storage })

/-- Evaluate an entity against the specs of the moment. -/
def evaluate (user : User) (kind : EntityKind) (name : String) (o : EvaluationOptions) :
    StateM Engine Outcome := do
  evaluateAgainst (← get).snapshot user kind name o.isSticky

/-- Log an exposure, if events are logged still. -/
def expose (x : Nat → Exposure) : StateM Engine Unit := do
  let e ← get
  if e.isLogging then onLog (·.logExposure (x e.intake.now))

/-- Decide about a gate. -/
def gate (user : User) (name : String) (o : EvaluationOptions) : StateM Engine GateDecision := do
  let user := (← get).placed user
  let outcome ← evaluate user .gate name o
  if o.logsExposure then expose (Exposure.ofGate user name outcome)
  return outcome.toGate name

/-- Decide about a dynamic config. -/
def dynamicConfig (user : User) (name : String) (o : EvaluationOptions) :
    StateM Engine ConfigDecision := do
  let user := (← get).placed user
  let outcome ← evaluate user .dynamicConfig name o
  if o.logsExposure then expose (Exposure.ofConfig user name outcome)
  return outcome.toConfig name

/-- Decide about an experiment. -/
def experiment (user : User) (name : String) (o : EvaluationOptions) :
    StateM Engine ExperimentDecision := do
  let user := (← get).placed user
  let outcome ← evaluate user .experiment name o
  if o.logsExposure then expose (Exposure.ofConfig user name outcome)
  return outcome.toExperiment name

/-- Decide about a layer. Exposures are logged when its parameters are read. -/
def layer (user : User) (name : String) (o : EvaluationOptions) : StateM Engine LayerDecision := do
  let user := (← get).placed user
  let outcome ← evaluate user .layer name o
  return outcome.toLayer name (if o.logsExposure && (← get).isLogging then some user else none)

/-- Read a parameter of a layer. -/
def readLayer (d : LayerDecision) (parameter : String) : StateM Engine (Option Json) := do
  let (value, exposure) := d.read parameter (← get).intake.now
  match exposure with
  | some x => onLog (·.logExposure x)
  | none => pure ()
  return value

/-! ### Parameter stores -/

/-- Bind a parameter store to a user. -/
def parameterStore (e : Engine) (user : User) (name : String) (o : EvaluationOptions) :
    BoundParameterStore :=
  let isKnown := e.snapshot.any (·.payload.parameterStores.contains name)
  { name, user := e.placed user, options := o,
    details := Catalog.detailsFor e.snapshot (if isKnown then .recognized else .unrecognized) }

/-- Evaluate the entity that a parameter refers to, with its exposure. -/
def consult (snapshot : Snapshot) (s : BoundParameterStore) (kind : EntityKind) (name : String)
    (exposure : Outcome → Nat → Exposure) : StateM Engine Outcome := do
  let outcome ← evaluateAgainst (some snapshot) s.user kind name s.options.isSticky
  if s.options.logsExposure then expose (exposure outcome)
  return outcome

/-- The value of a parameter. -/
def resolve (snapshot : Snapshot) (s : BoundParameterStore) :
    Parameter → StateM Engine (Option Json)
  | .static value => return some value
  | .gate name passValue failValue => do
    let o ← consult snapshot s .gate name (Exposure.ofGate s.user name)
    return some (if o.value then passValue else failValue)
  | .dynamicConfig name parameter => do
    let o ← consult snapshot s .dynamicConfig name (Exposure.ofConfig s.user name)
    return o.members.get? parameter
  | .experiment name parameter => do
    let o ← consult snapshot s .experiment name (Exposure.ofConfig s.user name)
    return o.members.get? parameter
  | .layer name parameter => do
    let o ← consult snapshot s .layer name (Exposure.ofLayer s.user name parameter)
    return o.members.get? parameter

/-- Read a parameter of a parameter store, against the specs of the moment. Nothing can be read when
the engine is gone. -/
def readParameter (s : BoundParameterStore) (parameter : String) : StateM Engine (Option Json) := do
  let e ← get
  let found := e.snapshot.bind fun snapshot =>
    ((snapshot.payload.parameterStores.get? s.name).bind (·.parameters.get? parameter)).bind
      fun entry => entry.get?.map fun p => (snapshot, p)
  match found with
  | some (snapshot, p) => if e.isGone then return none else resolve snapshot s p
  | none => return none

/-! ### Clients and events -/

/-- The payload for a client. It exposes nothing. -/
def clientPayload (user : User) (o : ClientPayloadOptions) : StateM Engine ClientPayload := do
  let e ← get
  let user := e.placed user
  ClientPayload.make e.snapshot user o fun kind name =>
    evaluateAgainst e.snapshot user kind name false

/-- Log an event of the host. -/
def logEvent (user : User) (name : String) (value : Option Json)
    (metadata : Option (Dict String)) : StateM Engine Unit := do
  let e ← get
  if e.isLogging then
    onLog (·.log { name, user := e.placed user, value, metadata, time := e.intake.now })

/-! ### Overrides -/

/-- Force an entity to a value. -/
def override (k : OverrideKey) (v : OverrideValue) : StateM Engine (Except Failure Unit) := fun e =>
  match e.overrides.set k v with
  | .ok overrides => (.ok (), { e with overrides })
  | .error failure => (.error failure, e)

/-- Remove an override; whether there was one. -/
def removeOverride (k : OverrideKey) : StateM Engine Bool := fun e =>
  let (removed, overrides) := e.overrides.remove k
  (removed, { e with overrides })

/-- Remove all overrides. -/
def removeAllOverrides : StateM Engine Unit := modify fun e => { e with overrides := {} }

end Engine

end Rollout
