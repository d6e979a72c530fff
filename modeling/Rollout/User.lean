import Rollout.Attribute
import Rollout.Text.Casing

/-!
# Users

The description of the user that a decision is made for. Private attributes take part in decisions
but are left out of `User.toJson`.
-/

namespace Rollout

/-- A user. -/
structure User where
  userId : Option String := none
  /-- Further ids by id type. -/
  customIds : Dict String := ∅
  email : Option String := none
  ip : Option String := none
  userAgent : Option String := none
  country : Option String := none
  locale : Option String := none
  appVersion : Option String := none
  custom : Dict Attribute := ∅
  privateAttributes : Dict Attribute := ∅
  /-- Fields of the environment, such as `tier`. -/
  environment : Dict String := ∅
  deriving Repr, Inhabited

namespace User

/-- The user with a given user id. -/
def withUserId (id : String) : User := { userId := some id }

/-- The user known only by an id of the given type. -/
def withCustomId (idType id : String) : User := { customIds := .ofList [(idType, id)] }

/-- Set a custom attribute. -/
def setCustom (u : User) (key : String) (value : Attribute) : User :=
  { u with custom := u.custom.insert key value }

/-- Set a private attribute. -/
def setPrivate (u : User) (key : String) (value : Attribute) : User :=
  { u with privateAttributes := u.privateAttributes.insert key value }

/-- The entry of a key, else that of the key in lower case. -/
def lookUp {α : Type} (d : Dict α) (key : String) : Option α :=
  (d.get? key).or (d.get? (Text.lowercase key))

/-- The id of a type: `userID`, in any case, is the user id, other types are looked up among the
custom ids. -/
def unitId? (u : User) (idType : String) : Option String :=
  if Text.equalIgnoringAsciiCase idType "userid" then u.userId else lookUp u.customIds idType

/-- The field of the user that has a name of its own, by its name in lower case. -/
def namedField? (u : User) : String → Option String
  | "userid" | "user_id" => u.userId
  | "email" => u.email
  | "ip" => u.ip
  | "useragent" | "user_agent" => u.userAgent
  | "country" => u.country
  | "locale" => u.locale
  | "appversion" | "app_version" => u.appVersion
  | _ => none

/-- A field by name: one of the named fields, else a custom attribute, else a private one. -/
def field? (u : User) (name : String) : Option Attribute :=
  match u.namedField? (Text.lowercase name) with
  | some s => some (.text s)
  | none => (lookUp u.custom name).or (lookUp u.privateAttributes name)

/-- A field of the environment by name. -/
def environmentField? (u : User) (name : String) : Option Attribute :=
  (lookUp u.environment name).map .text

/-- The key under which assignments of the user by an id type are stored. -/
def storageKey? (u : User) (idType : String) : Option String :=
  (u.unitId? idType).map fun id => id ++ ":" ++ idType

/-- The user with an environment tier, unless there is one already. -/
def withTier (u : User) (tier : Option String) : User :=
  match tier with
  | some t =>
    if u.environment.contains "tier" then u
    else { u with environment := u.environment.insert "tier" t }
  | none => u

/-- The members of a map, or none if it is empty. -/
def mapMember {α : Type} (name : String) (d : Dict α) (f : α → Json) : List (String × Json) :=
  if d.isEmpty then [] else [(name, .ofDict (d.map f))]

/-- A member that is left out if there is no text. -/
def textMember (name : String) (s : Option String) : List (String × Json) :=
  s.toList.map fun t => (name, .text t)

/-- The user as JSON, without private attributes. -/
def toJson (u : User) : Json := .obj <|
  textMember "userID" u.userId ++ mapMember "customIDs" u.customIds .text ++
  textMember "email" u.email ++ textMember "ip" u.ip ++ textMember "userAgent" u.userAgent ++
  textMember "country" u.country ++ textMember "locale" u.locale ++
  textMember "appVersion" u.appVersion ++ mapMember "custom" u.custom Attribute.toJson ++
  mapMember "statsigEnvironment" u.environment .text

/-- The members of a user in their declared order. -/
def declared : List Json.Document.Member :=
  [⟨"userID", []⟩, ⟨"customIDs", []⟩, ⟨"email", []⟩, ⟨"ip", []⟩, ⟨"userAgent", []⟩, ⟨"country", []⟩,
   ⟨"locale", []⟩, ⟨"appVersion", []⟩, ⟨"custom", []⟩, ⟨"privateAttributes", []⟩,
   ⟨"statsigEnvironment", []⟩]

open Json Document in
/-- Read a user. -/
def ofDocument? (d : Document) : Option User := do
  let r ← record? declared d
  return {
    userId := ← r.optional? "userID" text?
    customIds := ← r.withDefault? "customIDs" ∅ (dict? text?)
    email := ← r.optional? "email" text?
    ip := ← r.optional? "ip" text?
    userAgent := ← r.optional? "userAgent" text?
    country := ← r.optional? "country" text?
    locale := ← r.optional? "locale" text?
    appVersion := ← r.optional? "appVersion" text?
    custom := ← r.withDefault? "custom" ∅ (dict? Attribute.ofDocument?)
    privateAttributes := ← r.withDefault? "privateAttributes" ∅ (dict? Attribute.ofDocument?)
    environment := ← r.withDefault? "statsigEnvironment" ∅ (dict? text?) }

/-- Read a user from JSON text. -/
def ofText? (s : String) : Option User := (Json.Document.ofText? s).bind ofDocument?

end User

end Rollout
