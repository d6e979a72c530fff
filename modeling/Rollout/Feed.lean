import Rollout.Catalog
import Rollout.Fetcher

/-!
# Feeds

A feed supplies a catalog with payloads: once when it starts, and then from time to time if it is
scheduled. An `Intake` is a feed at work, together with the catalog that it fills and the network
that it uses. Starting takes two steps, since a feed may be slow: `Intake.listen`, after which
payloads can arrive, and `Intake.supply`.
-/

namespace Rollout

/-! ### Feeds of the host -/

/-- How a call into code of the host ends. -/
inductive HostAnswer where
  | returns
  | fails (failure : Failure)
  /-- It fails and says why. -/
  | complains (message : String)
  | panics
  deriving Repr, DecidableEq

namespace HostAnswer

/-- The result of a call that ends so. -/
def result (call : HostCall) : HostAnswer → Except Failure Unit
  | .returns => .ok ()
  | .fails failure => .error failure
  | .complains message => .error (.callback (.returned call message))
  | .panics => .error (.callback (.panicked call))

end HostAnswer

/-- A feed that the host implements as a whole. -/
structure HostFeed where
  /-- Whether its start does not go on before the host lets it. -/
  isSlow : Bool := false
  /-- What it supplies when it starts well. -/
  update : Option Update := none
  onStart : HostAnswer := .returns
  onSchedule : HostAnswer := .returns
  onShutdown : HostAnswer := .returns
  deriving Repr

/-- A feed that the host makes of functions. Only the one that starts it has to be there. -/
structure HookFeed where
  /-- The name under which payloads are known to come from it. -/
  name : String
  /-- What it pushes when it starts well. -/
  text : Option String := none
  onStart : HostAnswer := .returns
  onSchedule : Option HostAnswer := none
  onShutdown : Option HostAnswer := none
  /-- How the host words that a push failed. -/
  wording : Failure → String := Failure.message

/-! ### Files -/

/-- A feed that reads a file. -/
structure FileFeed where
  /-- The text of the file, if there is one. -/
  text : Option String := none
  /-- How long ago the file was written, in milliseconds. -/
  ageMs : Nat := 0
  /-- Whether the file is read again from time to time. -/
  isReread : Bool := false
  /-- Where payloads come from when the file is missing or too old. -/
  fetcher : Option Fetcher := none
  maxAgeMs : Option Nat := none
  deriving Repr

namespace FileFeed

/-- Whether the file is missing or too old. -/
def needsRefresh (f : FileFeed) : Bool :=
  f.text.isNone || f.maxAgeMs.any (· < f.ageMs)

/-- Write the file. -/
def write (f : FileFeed) (text : String) : FileFeed := { f with text := some text, ageMs := 0 }

end FileFeed

/-! ### Feeds -/

/-- Where payloads are taken from. -/
inductive FeedSource where
  /-- Payloads come by no other way than being pushed. -/
  | nothing
  | host (h : HostFeed)
  | hooks (h : HookFeed)
  | file (f : FileFeed)
  /-- The data store of the catalog. -/
  | dataStore
  | remote (f : Fetcher)

/-- A worker that supplies payloads in the background. -/
inductive Poller where
  | absent
  | running
  /-- It waits for an answer that does not come. -/
  | stuck
  /-- It has come to an end by itself. -/
  | ended
  deriving Repr, DecidableEq

/-- A feed. -/
structure Feed where
  source : FeedSource := .nothing
  /-- Whether it has been started, successfully or not. -/
  isListening : Bool := false
  /-- Whether the host keeps the start of the feed from going on. -/
  isHeld : Bool := false
  poller : Poller := .absent
  /-- How many pollers were told to stop while they were stuck. -/
  strays : Nat := 0
  /-- The calls of functions of the host so far. -/
  calls : List HostCall := []

namespace Poller

/-- Stop a poller and wait for it, for so many milliseconds. -/
def shutdown (p : Poller) (timeout : Nat) : Except Failure Unit :=
  if p = .stuck then .error (.timeout .pollerShutdown timeout) else .ok ()

end Poller

namespace Feed

/-- A feed that has not been started. -/
def ofSource (source : FeedSource) : Feed :=
  { source, isHeld := match source with
      | .host h => h.isSlow
      | _ => false }

/-- The name of the kind of feed. -/
def typeName (f : Feed) : String :=
  match f.source with
  | .nothing => "NoopSpecsAdapter"
  | .host _ => "HostSpecsAdapter"
  | .hooks h => "FunctionSpecsAdapter(" ++ h.name ++ ")"
  | .file _ => "LocalFileSpecsAdapter"
  | .dataStore => "DataStoreSpecsAdapter"
  | .remote _ => "HttpSpecsAdapter"

/-- Take note of a call. -/
def record (f : Feed) (call : HostCall) : Feed := { f with calls := f.calls ++ [call] }

/-- Take the poller away; one that is stuck goes astray. -/
def dismiss (f : Feed) : Feed :=
  { f with poller := .absent, strays := if f.poller = .stuck then f.strays + 1 else f.strays }

/-- Put a new poller in the place of the one there is. -/
def appoint (f : Feed) : Feed := { f.dismiss with poller := .running }

end Feed

/-- A feed at work. -/
structure Intake where
  feed : Feed := {}
  catalog : Catalog := {}
  network : Network := {}
  /-- The current time in milliseconds. -/
  now : Nat

namespace Intake

/-! ### Supplying -/

/-- Use the network. -/
def online {α : Type} (x : StateM Network α) : StateM Intake α := fun i =>
  let (a, network) := x i.network
  (a, { i with network })

theorem online_apply {α : Type} (x : StateM Network α) (i : Intake) :
    online x i = ((x i.network).1, { i with network := (x i.network).2 }) := rfl

/-- Change the feed. -/
def onFeed (f : Feed → Feed) : StateM Intake Unit := modify fun i => { i with feed := f i.feed }

/-- Change where the feed takes payloads from. -/
def setSource (source : FeedSource) : StateM Intake Unit := onFeed fun f => { f with source }

/-- Bring an update to the catalog. -/
def receive (u : Update) : StateM Intake (Except Failure Unit) := fun i =>
  let (result, catalog) := i.catalog.receive u
  (result, { i with catalog })

/-- Bring a payload that has just arrived to the catalog. -/
def push (text : String) (source : Source) : StateM Intake (Except Failure Unit) := do
  receive { text, source, receivedAt := (← get).now }

/-- Supply the payload in a file. -/
def readFile (f : FileFeed) : StateM Intake (Except Failure Unit) :=
  match f.text with
  | some text => push text .cache
  | none => return .error .io

/-- Download a payload and write it to the file. -/
def fetchToFile (f : FileFeed) : StateM Intake (Except Failure String) := do
  match f.fetcher with
  | none => return .error (.invalidSettings .noFallback)
  | some fetcher =>
    let (result, fetcher) ← online (fetcher.fetch none)
    let f := { f with fetcher := some fetcher }
    setSource <| .file <| match result with
      | .ok text => f.write text
      | .error _ => f
    return result

/-- Supply the payload in a file; if the file is missing or too old, a new one if it can be had. -/
def supplyFile (f : FileFeed) : StateM Intake (Except Failure Unit) := do
  if f.fetcher.isSome && f.needsRefresh then
    match ← fetchToFile f with
    | .ok text => push text .network
    | .error _ => readFile f
  else readFile f

/-- Supply the payload in the data store. -/
def pull : StateM Intake (Except Failure Unit) := fun i =>
  match i.catalog.archive with
  | none => (.error (.callback .noSpecs), i)
  | some store =>
    let (result, store) := store.read
    let i := { i with catalog := { i.catalog with archive := some store } }
    match result with
    | .error failure => (.error failure, i)
    | .ok none => (.error (.callback .noSpecs), i)
    | .ok (some text) => push text (.adapter "DataStore") i

/-- Download a payload and supply it. It does not matter whether the catalog accepts it. -/
def download (f : Fetcher) : StateM Intake (Except Failure Unit) := do
  let (result, f) ← online (f.fetch (← get).catalog.info.lcut)
  setSource (.remote f)
  match result with
  | .error failure => return .error failure
  | .ok text =>
    let _ ← push text .network
    return .ok ()

/-- Push what functions of the host supply. -/
def supplyHooks (h : HookFeed) : StateM Intake (Except Failure Unit) := do
  match h.onStart.result .feedStart, h.text with
  | .error failure, _ => return .error failure
  | .ok (), none => return .ok ()
  | .ok (), some text =>
    match ← push text (.adapter h.name) with
    | .ok () => return .ok ()
    | .error failure => return .error (.callback (.returned .feedStart (h.wording failure)))

/-- Push what the host supplies. -/
def supplyHost (h : HostFeed) : StateM Intake (Except Failure Unit) := do
  match h.onStart.result .feedStart, h.update with
  | .error failure, _ => return .error failure
  | .ok (), none => return .ok ()
  | .ok (), some u => receive u

/-! ### The life of a feed -/

/-- Begin to start the feed: from now on payloads can arrive. -/
def listen : StateM Intake Unit := onFeed fun f =>
  let f := { f with isListening := true }
  match f.source with
  | .host _ => f.record .feedStart
  | _ => f

/-- Go on to start the feed: it supplies its first payload. -/
def supply : StateM Intake (Except Failure Unit) := do
  match (← get).feed.source with
  | .nothing => return .ok ()
  | .host h => supplyHost h
  | .hooks h => supplyHooks h
  | .file f => supplyFile f
  | .dataStore => pull
  | .remote f => download f

/-- Start the feed. -/
def start : StateM Intake (Except Failure Unit) := do
  listen
  supply

/-- Have a poller supply payloads in the background, which needs a feed that has been started. -/
def appoint : StateM Intake (Except Failure Unit) := do
  if (← get).feed.isListening then
    onFeed Feed.appoint
    return .ok ()
  else return .error (.invalidPhase .uninitialized)

/-- Call a function of the host, if there is one. -/
def call (call : HostCall) (answer : Option HostAnswer) : StateM Intake (Except Failure Unit) := do
  match answer with
  | none => return .ok ()
  | some answer =>
    onFeed (·.record call)
    return answer.result call

/-- Have the feed supply payloads from time to time, if it is of a kind that does. -/
def schedule : StateM Intake (Except Failure Unit) := do
  let i ← get
  match i.feed.source with
  | .nothing => return .ok ()
  | .host h => call .feedSchedule h.onSchedule
  | .hooks h => call .feedSchedule h.onSchedule
  | .file f => if f.isReread then appoint else return .ok ()
  | .dataStore => if i.catalog.archive.any (·.polling) then appoint else return .ok ()
  | .remote _ => appoint

/-- Stop the feed, waiting for so many milliseconds. -/
def shutdown (timeout : Nat) : StateM Intake (Except Failure Unit) := do
  let f := (← get).feed
  match f.source with
  | .host h => call .feedShutdown h.onShutdown
  | .hooks h => call .feedShutdown h.onShutdown
  | _ =>
    onFeed Feed.dismiss
    return f.poller.shutdown timeout

/-! ### In the background -/

/-- Let the poller end, or go on, after it has supplied a payload. Only a refused key ends it. -/
def afterPoll (result : Except Failure Unit) : StateM Intake Unit :=
  match result with
  | .error .unauthorized => onFeed fun f => { f with poller := .ended }
  | _ => pure ()

/-- Read the data store in the background, for the poller or for one that went astray. -/
def pollStore (manner : DataStore.Manner) : StateM Intake Unit := do
  match manner with
  | .prompt => let _ ← pull
  | .waiting => onFeed fun f => { f with poller := .stuck }
  | .panicking => onFeed fun f => { f with poller := .ended }

/-- Let the poller supply a payload, if it is running. -/
def poll : StateM Intake Unit := do
  let i ← get
  if i.feed.poller = .running then
    match i.feed.source with
    | .file f => let _ ← readFile f
    | .dataStore => (i.catalog.archive.map (·.manner)).forM pollStore
    | .remote f => afterPoll (← download f)
    | .nothing | .host _ | .hooks _ => pure ()

/-- Read the data store so many times. -/
def pullEach : Nat → StateM Intake Unit
  | 0 => pure ()
  | n + 1 => do
    let _ ← pull
    pullEach n

/-- Let reads of the data store go on that have been waiting, unless they have to wait still. -/
def resume : StateM Intake Unit := do
  let i ← get
  let isStuck := i.feed.poller = .stuck
  let goOn (poller : Poller) : StateM Intake Unit := onFeed fun f =>
    { f with strays := 0, poller := if isStuck then poller else f.poller }
  match i.catalog.archive.map DataStore.manner with
  | none | some .waiting => pure ()
  | some .panicking => goOn .ended
  | some .prompt =>
    goOn .running
    pullEach (i.feed.strays + if isStuck then 1 else 0)

/-- Change the data store. -/
def changeStore (f : DataStore → DataStore) : StateM Intake Unit := do
  modify fun i => { i with catalog := { i.catalog with archive := i.catalog.archive.map f } }
  resume

/-- Change the file, if the feed reads one. -/
def changeFile (text : Option String) : StateM Intake Unit := onFeed fun f =>
  match f.source with
  | .file file => { f with source := .file { file with text, ageMs := 0 } }
  | _ => f

end Intake

end Rollout
