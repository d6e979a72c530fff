import Rollout.Failure
import Rollout.IdList
import Rollout.Payload
import Rollout.Provenance

/-!
# The catalog of specs

A catalog publishes one snapshot of specs at a time and replaces it as a whole. Payloads are ordered
by their time: only a newer one is published (`Catalog.publish`). Id lists that are kept in sync
apart from payloads lie under the ones a payload carries itself.

`Catalog.apply` and `Catalog.setIdLists` are each composed of the steps that other threads may come
between: `publish` and `writeThrough`, `storeSynced` and `republish`.
-/

namespace Rollout

/-! ### Data stores -/

/-- A value written to a data store. -/
structure DataStore.Write where
  key : String
  value : String
  time : Option Nat
  deriving Repr, DecidableEq

/-- How reads of a data store end, apart from what they answer. -/
inductive DataStore.Manner where
  | prompt
  /-- They wait until the manner changes. -/
  | waiting
  | panicking
  deriving Repr, DecidableEq

/-- A key-value store of the host that holds payloads for other engines. It has one slot, and keeps
account of what is asked of it. -/
structure DataStore where
  /-- The key under which the payload is kept. -/
  key : String
  slot : Option String := none
  manner : DataStore.Manner := .prompt
  getFails : Bool := false
  setFails : Bool := false
  /-- Whether the slot is worth polling. -/
  polling : Bool := false
  keysRead : List String := []
  writes : List DataStore.Write := []
  deriving Repr

namespace DataStore

/-- The key of the payload for an SDK key. -/
def keyOf (sdkKey : String) : String :=
  "statsig|/v2/download_config_specs|plain_text|" ++ Digest.sha256Text sdkKey

/-- The failure of a store that fails. -/
def failure : Failure := .unexpectedStatus 503

/-- Read the slot. -/
def read (d : DataStore) : Except Failure (Option String) × DataStore :=
  let d := if d.keysRead.contains d.key then d else { d with keysRead := d.keysRead ++ [d.key] }
  (if d.getFails then .error failure else .ok d.slot, d)

/-- Write the slot; a failing store loses the value. -/
def write (d : DataStore) (value : String) (time : Option Nat) : DataStore :=
  if d.setFails then d
  else { d with slot := some value, writes := d.writes ++ [⟨d.key, value, time⟩] }

end DataStore

/-! ### Snapshots -/

/-- Specs as they are published. -/
structure Snapshot where
  payload : Payload
  idLists : Dict IdList
  source : Source
  lcut : Nat
  receivedAt : Nat
  deriving Repr

namespace Snapshot

/-- The provenance of a decision made from the snapshot. -/
def details (s : Snapshot) (reason : Reason) : Details :=
  { lcut := some s.lcut, receivedAt := some s.receivedAt, reason }

end Snapshot

/-- The id lists that a payload carries itself. -/
def Payload.inlineIdLists (p : Payload) : Dict IdList :=
  .ofList <| p.idLists.toList.filterMap fun
    | (name, .inline hashes) => some (name, IdList.ofHashes name hashes)
    | (_, .declared _) => none

/-- The id list of a given name that an entry of a payload holds, if it holds one. -/
def IdListRef.list? (name : String) : IdListRef → Option IdList
  | .inline hashes => some (IdList.ofHashes name hashes)
  | .declared _ => none

theorem Payload.get?_inlineIdLists (p : Payload) (name : String) :
    p.inlineIdLists.get? name = (p.idLists.get? name).bind (·.list? name) := by
  have h : p.inlineIdLists =
      .ofList (p.idLists.toList.filterMap fun e => (e.2.list? e.1).map (e.1, ·)) := by
    unfold inlineIdLists
    congr 2
    funext e
    rcases e with ⟨k, _ | _⟩ <;> rfl
  rw [h]
  exact Dict.get?_ofList_filterMap p.idLists (fun name r => r.list? name) name

/-- The version of the published specs. -/
structure SpecsInfo where
  lcut : Option Nat
  source : Source
  deriving Repr, DecidableEq

/-- The version as JSON. -/
def SpecsInfo.toJson (i : SpecsInfo) : Json :=
  .obj [("lcut", .ofOption (fun n => .int n) i.lcut), ("source", .text i.source.label)]

/-- A payload on its way into the catalog. -/
structure Update where
  text : String
  source : Source
  receivedAt : Nat
  deriving Repr, DecidableEq

/-- The published specs, the id lists in sync, and the data store that payloads from the network
are written to. -/
structure Catalog where
  snapshot : Option Snapshot := none
  synced : Dict IdList := ∅
  archive : Option DataStore := none
  deriving Repr

namespace Catalog

/-- The version of the published specs. -/
def info (c : Catalog) : SpecsInfo :=
  match c.snapshot with
  | some s => ⟨some s.lcut, s.source⟩
  | none => ⟨none, .uninitialized⟩

/-- The provenance of a decision made from the published specs, if there are any. -/
def detailsFor (c : Option Snapshot) (reason : Source → Reason) : Details :=
  match c with
  | some s => s.details (reason s.source)
  | none => .uninitialized

/-- The provenance of a decision that the specs did not bring about. -/
def detailsBeside (c : Option Snapshot) (reason : Reason) : Details :=
  { lcut := c.map (·.lcut), receivedAt := c.map (·.receivedAt), reason }

/-- Publish a payload of the given time, unless the published one is as new. -/
def publish (c : Catalog) (payload : Payload) (lcut : Nat) (source : Source) (receivedAt : Nat) :
    Except Failure Snapshot × Catalog :=
  let snapshot : Snapshot :=
    { payload, idLists := c.synced.overlay payload.inlineIdLists, source, lcut, receivedAt }
  match c.snapshot with
  | some current =>
    if lcut ≤ current.lcut then (.error (.stale current.lcut lcut), c)
    else (.ok snapshot, { c with snapshot := some snapshot })
  | none => (.ok snapshot, { c with snapshot := some snapshot })

/-- Write a payload that came from the network to the data store. -/
def writeThrough (c : Catalog) (text : String) (source : Source) (receivedAt : Nat) : Catalog :=
  if source = .network then
    { c with archive := c.archive.map fun d => d.write text (some receivedAt) }
  else c

/-- Take in the text of a payload. A payload without updates changes nothing. -/
def apply (c : Catalog) (text : String) (source : Source) (receivedAt : Nat) :
    Except Failure Details × Catalog :=
  match Payload.ofText? text with
  | none => (.error (.malformedPayload .unreadable), c)
  | some payload =>
    if !payload.hasUpdates then (.ok (detailsFor c.snapshot .recognized), c)
    else match payload.time with
      | none => (.error (.malformedPayload .missingTime), c)
      | some lcut =>
        match c.publish payload lcut source receivedAt with
        | (.error f, c) => (.error f, c)
        | (.ok s, c) =>
          (.ok (s.details (.recognized s.source)), c.writeThrough text source receivedAt)

/-- Take in an update, answering only whether it was accepted. -/
def receive (c : Catalog) (u : Update) : Except Failure Unit × Catalog :=
  let (result, c) := c.apply u.text u.source u.receivedAt
  (result.map fun _ => (), c)

/-- Remember the id lists in sync. -/
def storeSynced (c : Catalog) (lists : Dict IdList) : Catalog := { c with synced := lists }

/-- Publish the current specs again, with the given id lists under their own. -/
def republish (c : Catalog) (lists : Dict IdList) : Catalog :=
  { c with
    snapshot := c.snapshot.map fun s =>
      { s with idLists := lists.overlay s.payload.inlineIdLists } }

/-- Replace the id lists in sync. -/
def setIdLists (c : Catalog) (lists : Dict IdList) : Catalog :=
  (c.storeSynced lists).republish lists

end Catalog

end Rollout
