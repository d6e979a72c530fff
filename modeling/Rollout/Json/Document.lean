import Rollout.Json.Token

/-!
# JSON documents

A document is a JSON text as written: the members of an object stand in the order of the text and
may repeat. Parts that are well written but cannot be read as a value (`Document.unreadable`) do no
harm until a reader wants them: numbers out of range, unpaired surrogates, and containers nested
more than 127 deep.

`Document.ofText?` reads a text, `Document.toJson?` gives the value of a document.
-/

namespace Rollout.Json

/-- A JSON text as written. -/
inductive Document where
  | unreadable
  | null
  | bool (b : Bool)
  | number (n : Number)
  | text (s : String)
  | array (items : List Document)
  | object (members : List (String × Document))
  deriving Repr, Inhabited

namespace Document

/-! ### From tokens -/

/-- A container that is being read; what it holds so far stands in reverse. -/
inductive Frame where
  | array (level : Nat) (items : List Document)
  | object (level : Nat) (members : List (Option String × Document)) (key : Option String)
  deriving Repr

/-- The deepest level of containers that can be read; the outermost one is at level 1. -/
def maxLevel : Nat := 127

/-- Where the reader stands, and the containers around it, innermost first. -/
inductive Position where
  /-- Before a value; the innermost array may also end here if `canEnd`. -/
  | value (canEnd : Bool) (stack : List Frame)
  /-- Before the name of a member; the innermost object may also end here if `canEnd`. -/
  | key (canEnd : Bool) (stack : List Frame)
  | colon (stack : List Frame)
  /-- After a value. -/
  | after (stack : List Frame)
  | finished (d : Document)
  deriving Repr

/-- The names of members, if all can be read. -/
def readableMembers : List (Option String × Document) → Option (List (String × Document))
  | [] => some []
  | (none, _) :: _ => none
  | (some k, d) :: rest => (readableMembers rest).map ((k, d) :: ·)

/-- The document of a container that has ended. -/
def Frame.finish : Frame → Document
  | .array level items => if maxLevel < level then .unreadable else .array items.reverse
  | .object level members _ =>
    if maxLevel < level then .unreadable
    else match readableMembers members.reverse with
      | some ms => .object ms
      | none => .unreadable

/-- Hand a finished value to the innermost container. -/
def deliver (d : Document) : List Frame → Position
  | [] => .finished d
  | .array level items :: stack => .after (.array level (d :: items) :: stack)
  | .object level members key :: stack => .after (.object level ((key, d) :: members) none :: stack)

/-- The position after one more token. -/
def step : Position → Token → Option Position
  | .value canEnd stack, t =>
    match t with
    | .null => some (deliver .null stack)
    | .bool b => some (deliver (.bool b) stack)
    | .number n => some (deliver ((n.map Document.number).getD .unreadable) stack)
    | .text s => some (deliver ((s.map Document.text).getD .unreadable) stack)
    | .beginArray => some (.value true (.array (stack.length + 1) [] :: stack))
    | .beginObject => some (.key true (.object (stack.length + 1) [] none :: stack))
    | .endArray =>
      match canEnd, stack with
      | true, frame :: outer => some (deliver frame.finish outer)
      | _, _ => none
    | _ => none
  | .key canEnd stack, t =>
    match t, stack with
    | .text s, .object level members _ :: outer => some (.colon (.object level members s :: outer))
    | .endObject, frame :: outer => if canEnd then some (deliver frame.finish outer) else none
    | _, _ => none
  | .colon stack, t =>
    match t with
    | .colon => some (.value false stack)
    | _ => none
  | .after stack, t =>
    match t, stack with
    | .comma, .array _ _ :: _ => some (.value false stack)
    | .comma, .object _ _ _ :: _ => some (.key false stack)
    | .endArray, .array level items :: outer =>
      some (deliver (Frame.array level items).finish outer)
    | .endObject, .object level members key :: outer =>
      some (deliver (Frame.object level members key).finish outer)
    | _, _ => none
  | .finished _, _ => none

/-- The document of a list of tokens. -/
def ofTokens? (ts : List Token) : Option Document :=
  match ts.foldlM step (.value false []) with
  | some (.finished d) => some d
  | _ => none

/-- The document of a text. -/
def ofText? (s : String) : Option Document := (Token.scan s).bind ofTokens?

/-! ### To values -/

mutual

/-- The value of a document; of repeated members the last one counts. -/
def toJson? : Document → Option Json
  | .unreadable => none
  | .null => some .null
  | .bool b => some (.bool b)
  | .number n => some (.number n)
  | .text s => some (.text s)
  | .array items => (itemsToJson? items).map .array
  | .object members => (membersToJson? members).map fun ms => .ofDict (.ofList ms)

def itemsToJson? : List Document → Option (List Json)
  | [] => some []
  | d :: rest => (toJson? d).bind fun j => (itemsToJson? rest).map (j :: ·)

def membersToJson? : List (String × Document) → Option (List (String × Json))
  | [] => some []
  | (k, d) :: rest => (toJson? d).bind fun j => (membersToJson? rest).map ((k, j) :: ·)

end

mutual

/-- A value as a document. -/
def ofJson : Json → Document
  | .null => .null
  | .bool b => .bool b
  | .number n => .number n
  | .text s => .text s
  | .array items => .array (itemsOfJson items)
  | .object members => .object (membersOfJson members)

def itemsOfJson : List Json → List Document
  | [] => []
  | j :: rest => ofJson j :: itemsOfJson rest

def membersOfJson : List (String × Json) → List (String × Document)
  | [] => []
  | (k, j) :: rest => (k, ofJson j) :: membersOfJson rest

end

end Document

/-- The value of a JSON text. -/
def ofText? (s : String) : Option Json := (Document.ofText? s).bind Document.toJson?

end Rollout.Json
