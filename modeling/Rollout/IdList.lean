import Rollout.Digest
import Rollout.Json.Reading
import Rollout.Text.Blank

/-!
# Id lists

An id list is a set of hashed ids. Its file is a sequence of lines that add an id (`+`) or take it
away (`-`); `IdList.applyChanges` plays one piece of the file after another.
-/

namespace Rollout

/-- What is known of the file of an id list. -/
structure IdListMetadata where
  name : String := ""
  url : String := ""
  fileId : Option String := none
  /-- The size of the file in bytes. -/
  size : Nat := 0
  creationTime : Int := 0
  deriving Repr, DecidableEq, Inhabited

/-- A named set of hashed ids. -/
structure IdList where
  metadata : IdListMetadata := {}
  /-- The ids; only the keys matter. -/
  ids : Dict Unit := ∅
  /-- How many bytes of the file have been played. -/
  readBytes : Nat := 0
  deriving Repr, DecidableEq, Inhabited

namespace IdListMetadata

open Json Document

/-- The metadata as JSON. -/
def toJson (m : IdListMetadata) : Json := .obj
  [("name", .text m.name), ("url", .text m.url), ("fileID", .ofOption .text m.fileId),
   ("size", .int m.size), ("creationTime", .int m.creationTime)]

/-- The members of metadata in their declared order. -/
def declared : List Member :=
  [⟨"name", []⟩, ⟨"url", []⟩, ⟨"fileID", []⟩, ⟨"size", []⟩, ⟨"creationTime", []⟩]

/-- Read metadata. -/
def ofDocument? (d : Document) : Option IdListMetadata := do
  let r ← record? declared d
  return {
    name := ← r.withDefault? "name" "" text?
    url := ← r.withDefault? "url" "" text?
    fileId := ← r.optional? "fileID" text?
    size := ← r.withDefault? "size" 0 nat64?
    creationTime := ← r.withDefault? "creationTime" 0 int64? }

end IdListMetadata

namespace IdList

/-- The list of the given hashes. -/
def ofHashes (name : String) (hashes : List String) : IdList :=
  let ids := Dict.ofList (hashes.map fun h => (h, ()))
  { metadata := { name, size := ids.size }, ids }

/-- Whether a hashed id is in the list. -/
def containsHash (l : IdList) (hash : String) : Bool := l.ids.contains hash

/-- The effect of one line on a set of ids. A line without a sign has none. -/
def applyLine (ids : Dict Unit) (line : String) : Dict Unit :=
  match (Text.trim line).toList with
  | '+' :: id => ids.insert (String.ofList id) ()
  | '-' :: id => ids.erase (String.ofList id)
  | _ => ids

/-- Play a piece of the file. -/
def applyChanges (l : IdList) (changes : String) : IdList :=
  { l with
    ids := (Text.lines changes).foldl applyLine l.ids
    readBytes := l.readBytes + changes.utf8ByteSize }

end IdList

end Rollout
