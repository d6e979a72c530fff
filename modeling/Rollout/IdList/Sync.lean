import Rollout.Fetcher
import Rollout.IdList

/-!
# Id lists in sync

A manifest says which lists there are and how large their files are. A list whose file has grown is
continued from where it was left, and a new file is played from its start (`IdListSync.next`). A
list whose download fails stays as it was.
-/

namespace Rollout

/-- A client of the server that keeps id lists. -/
structure IdListSync where
  client : HttpClient
  manifestUrl : Url
  headers : List (String × String)
  deriving Repr, DecidableEq

namespace IdListSync

/-- The client that settings ask for. -/
def ofSettings (sdkKey : String) (s : Settings) : Except Failure IdListSync := do
  let manifestUrl ← Settings.url s.idListsUrl Settings.defaultIdListsUrl
  let client ← HttpClient.ofSettings s
  return { client, manifestUrl, headers := Reporter.this.headers sdkKey }

/-- Read a manifest: the metadata of the file of each list. An empty name is the one under which
the file is listed. -/
def manifest? (text : String) : Option (List (String × IdListMetadata)) :=
  ((Json.Document.ofText? text).bind (Json.Document.dict? IdListMetadata.ofDocument?)).map
    fun d => d.toList.map fun (name, m) =>
      (name, if m.name.isEmpty then { m with name } else m)

/-- What a response to a request for the manifest means. -/
def manifestOf (r : HttpResponse) : Except Failure (List (String × IdListMetadata)) :=
  if r.status = 401 || r.status = 403 then .error .unauthorized
  else if !r.isSuccess then .error (.unexpectedStatus r.status)
  else match manifest? r.body with
    | some entries => .ok entries
    | none => .error (.malformedPayload .unreadable)

/-- Ask for the manifest. -/
def fetchManifest (s : IdListSync) :
    StateM Network (Except Failure (List (String × IdListMetadata))) := do
  let request : HttpRequest :=
    { method := "POST", url := s.manifestUrl, headers := s.headers, body := "\x7b\x7d" }
  return (← s.client.exchange request).bind manifestOf

/-- What a response to a request for a piece of a file means. -/
def changesOf (r : HttpResponse) : Except Failure String :=
  if r.isSuccess then .ok r.body else .error (.unexpectedStatus r.status)

/-- Ask for a file from a byte on. -/
def fetchChanges (s : IdListSync) (url : String) (start : Nat) :
    StateM Network (Except Failure String) := do
  match Url.ofText? url with
  | none => return .error .invalidUrl
  | some url =>
    let headers := s.headers ++ [("range", "bytes=" ++ toString start ++ "-")]
    return (← s.client.exchange { url, headers }).bind changesOf

/-- What is to be done about a list in the manifest. -/
inductive Next where
  | keep (list : IdList)
  /-- Play what the file holds beyond what was read of the list. -/
  | extend (list : IdList)
  deriving Repr, DecidableEq

/-- Whether metadata are of the file that a list was read from, or of an older one. -/
def isSameFile (list : IdList) (m : IdListMetadata) : Bool :=
  list.metadata.fileId == m.fileId && m.creationTime ≤ list.metadata.creationTime

/-- What is to be done about a list. -/
def next (existing : Option IdList) (m : IdListMetadata) : Next :=
  match existing with
  | none => .extend { metadata := m }
  | some list =>
    if !isSameFile list m then .extend { metadata := m }
    else if m.size ≤ list.readBytes then .keep list
    else .extend list

/-- Bring one list up to date. A list that cannot be downloaded stays as it was, if it was. -/
def update (s : IdListSync) (existing : Option IdList) (m : IdListMetadata) :
    StateM Network (Option IdList) := do
  match next existing m with
  | .keep list => return some list
  | .extend list =>
    match ← s.fetchChanges m.url list.readBytes with
    | .ok changes => return some { list.applyChanges changes with metadata := m }
    | .error _ => return existing

/-- Bring all lists up to date. Lists that the manifest does not have any more are dropped. -/
def sync (s : IdListSync) (current : Dict IdList) :
    StateM Network (Except Failure (Dict IdList)) := do
  match ← s.fetchManifest with
  | .error f => return .error f
  | .ok entries =>
    let lists ← entries.mapM fun (name, m) => do
      return (← s.update (current.get? name) m).map fun list => (name, list)
    return .ok (.ofList (lists.filterMap id))

end IdListSync

end Rollout
