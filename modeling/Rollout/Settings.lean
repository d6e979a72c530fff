import Rollout.Failure
import Rollout.Json.Reading
import Rollout.Url

/-!
# Settings

The settings of an engine as they are read from JSON, with their defaults (`Settings.initTimeout`
and so on) and the checks that an engine makes of them (`Settings.check`).
-/

namespace Rollout

/-- A proxy for requests. -/
structure ProxySettings where
  host : Option String := none
  port : Option Nat := none
  /-- Name and password with a colon between them. -/
  auth : Option String := none
  /-- The scheme of the proxy, `http` if there is none. -/
  protocol : Option String := none
  deriving Repr, DecidableEq

/-- Settings of an engine. Times are in milliseconds. -/
structure Settings where
  specsUrl : Option String := none
  eventsUrl : Option String := none
  specsIntervalMs : Option Nat := none
  flushIntervalMs : Option Nat := none
  maxQueueSizeSetting : Option Nat := none
  batchSizeSetting : Option Nat := none
  /-- The environment tier of users that have none. -/
  environment : Option String := none
  disableNetwork : Bool := false
  /-- Log no events at all. -/
  disableLogging : Bool := false
  enableIdLists : Bool := false
  idListsUrl : Option String := none
  idListsIntervalMs : Option Nat := none
  initTimeoutMs : Option Nat := none
  requestTimeoutMs : Option Nat := none
  proxy : Option ProxySettings := none
  /-- Ask the default server when another one fails. -/
  fallBack : Bool := false
  waitForCountryLookup : Bool := false
  waitForUserAgent : Bool := false
  /-- The text of a payload to start with. -/
  bootstrap : Option String := none
  deriving Repr, DecidableEq

open Json Document

namespace ProxySettings

/-- The URL of the proxy, if it has a host. -/
def urlText? (p : ProxySettings) : Option String :=
  p.host.map fun host =>
    p.protocol.getD "http" ++ "://" ++ host ++ ((p.port.map fun n => ":" ++ toString n).getD "")

/-- The proxy as JSON. -/
def toJson (p : ProxySettings) : Json := .obj
  [("proxyHost", .ofOption .text p.host), ("proxyPort", .ofOption (fun n => .int n) p.port),
   ("proxyAuth", .ofOption .text p.auth), ("proxyProtocol", .ofOption .text p.protocol)]

/-- The members of a proxy in their declared order. -/
def declared : List Member :=
  [⟨"proxyHost", ["proxy_host"]⟩, ⟨"proxyPort", ["proxy_port"]⟩, ⟨"proxyAuth", ["proxy_auth"]⟩,
   ⟨"proxyProtocol", ["proxy_protocol"]⟩]

/-- Read a proxy. -/
def ofDocument? (d : Document) : Option ProxySettings := do
  let r ← record? declared d
  return {
    host := ← r.optional? "proxyHost" text?
    port := ← r.optional? "proxyPort" nat16?
    auth := ← r.optional? "proxyAuth" text?
    protocol := ← r.optional? "proxyProtocol" text? }

end ProxySettings

namespace Settings

/-! ### Reading and writing -/

/-- The settings as JSON. -/
def toJson (s : Settings) : Json :=
  let nat : Option Nat → Json := .ofOption fun n => .int n
  let text : Option String → Json := .ofOption .text
  .obj
    [("specsUrl", text s.specsUrl), ("logEventUrl", text s.eventsUrl),
     ("specsSyncIntervalMs", nat s.specsIntervalMs),
     ("eventLoggingFlushIntervalMs", nat s.flushIntervalMs),
     ("eventLoggingMaxQueueSize", nat s.maxQueueSizeSetting),
     ("eventLoggingBatchSize", nat s.batchSizeSetting), ("environment", text s.environment),
     ("disableNetwork", .bool s.disableNetwork), ("disableAllLogging", .bool s.disableLogging),
     ("enableIdLists", .bool s.enableIdLists), ("idListsUrl", text s.idListsUrl),
     ("idListsSyncIntervalMs", nat s.idListsIntervalMs), ("initTimeoutMs", nat s.initTimeoutMs),
     ("requestTimeoutMs", nat s.requestTimeoutMs),
     ("proxyConfig", .ofOption ProxySettings.toJson s.proxy),
     ("fallbackToStatsigApi", .bool s.fallBack),
     ("waitForCountryLookupInit", .bool s.waitForCountryLookup),
     ("waitForUserAgentInit", .bool s.waitForUserAgent), ("bootstrapSpecs", text s.bootstrap)]

/-- The members of settings in their declared order. -/
def declared : List Member :=
  [⟨"specsUrl", ["specs_url"]⟩, ⟨"logEventUrl", ["log_event_url"]⟩,
   ⟨"specsSyncIntervalMs", ["specs_sync_interval_ms"]⟩,
   ⟨"eventLoggingFlushIntervalMs", ["event_logging_flush_interval_ms"]⟩,
   ⟨"eventLoggingMaxQueueSize", ["event_logging_max_queue_size"]⟩,
   ⟨"eventLoggingBatchSize", ["event_logging_batch_size"]⟩, ⟨"environment", []⟩,
   ⟨"disableNetwork", ["disable_network"]⟩, ⟨"disableAllLogging", ["disable_all_logging"]⟩,
   ⟨"enableIdLists", ["enable_id_lists"]⟩, ⟨"idListsUrl", ["id_lists_url"]⟩,
   ⟨"idListsSyncIntervalMs", ["id_lists_sync_interval_ms"]⟩,
   ⟨"initTimeoutMs", ["init_timeout_ms"]⟩, ⟨"requestTimeoutMs", ["request_timeout_ms"]⟩,
   ⟨"proxyConfig", ["proxy_config"]⟩, ⟨"fallbackToStatsigApi", ["fallback_to_statsig_api"]⟩,
   ⟨"waitForCountryLookupInit", ["wait_for_country_lookup_init"]⟩,
   ⟨"waitForUserAgentInit", ["wait_for_user_agent_init"]⟩,
   ⟨"bootstrapSpecs", ["bootstrap_specs"]⟩]

/-- Read settings. -/
def ofDocument? (d : Document) : Option Settings := do
  let r ← record? declared d
  let nat (name : String) := r.optional? name nat64?
  let text (name : String) := r.optional? name text?
  let bool (name : String) := r.withDefault? name false bool?
  return {
    specsUrl := ← text "specsUrl"
    eventsUrl := ← text "logEventUrl"
    specsIntervalMs := ← nat "specsSyncIntervalMs"
    flushIntervalMs := ← nat "eventLoggingFlushIntervalMs"
    maxQueueSizeSetting := ← nat "eventLoggingMaxQueueSize"
    batchSizeSetting := ← nat "eventLoggingBatchSize"
    environment := ← text "environment"
    disableNetwork := ← bool "disableNetwork"
    disableLogging := ← bool "disableAllLogging"
    enableIdLists := ← bool "enableIdLists"
    idListsUrl := ← text "idListsUrl"
    idListsIntervalMs := ← nat "idListsSyncIntervalMs"
    initTimeoutMs := ← nat "initTimeoutMs"
    requestTimeoutMs := ← nat "requestTimeoutMs"
    proxy := ← r.optional? "proxyConfig" ProxySettings.ofDocument?
    fallBack := ← bool "fallbackToStatsigApi"
    waitForCountryLookup := ← bool "waitForCountryLookupInit"
    waitForUserAgent := ← bool "waitForUserAgentInit"
    bootstrap := ← text "bootstrapSpecs" }

/-- Read settings from JSON text. -/
def ofText (s : String) : Except Failure Settings :=
  match (Document.ofText? s).bind ofDocument? with
  | some settings => .ok settings
  | none => .error (.invalidSettings .unreadable)

/-! ### Defaults -/

/-- The server that payloads come from. -/
def defaultSpecsUrl : String := "https://api.statsigcdn.com/v2/download_config_specs"

/-- The server that events go to. -/
def defaultEventsUrl : String := "https://prodregistryv2.org/v1/log_event"

/-- The server that lists the id lists. -/
def defaultIdListsUrl : String := "https://statsigapi.net/v1/get_id_lists"

/-- The time between two payloads. -/
def specsInterval (s : Settings) : Nat := s.specsIntervalMs.getD 10000

/-- The time between two flushes of events. -/
def flushInterval (s : Settings) : Nat := s.flushIntervalMs.getD 60000

/-- How many events are kept. -/
def maxQueueSize (s : Settings) : Nat := s.maxQueueSizeSetting.getD 2000

/-- How many events are handed over together. -/
def batchSize (s : Settings) : Nat := s.batchSizeSetting.getD 500

/-- The time between two looks at the id lists. -/
def idListsInterval (s : Settings) : Nat := s.idListsIntervalMs.getD 60000

/-- How long to wait for the first payload. -/
def initTimeout (s : Settings) : Nat := s.initTimeoutMs.getD 3000

/-- How long a request may take. -/
def requestTimeout (s : Settings) : Nat := s.requestTimeoutMs.getD 10000

/-- The URL of a text in the settings, or else of its default. -/
def url (text : Option String) (default : String) : Except Failure Url :=
  match Url.ofText? (text.getD default) with
  | some url => .ok url
  | none => .error .invalidUrl

/-! ### Checks -/

/-- Refuse a text that is no URL. -/
def checkUrl (text : Option String) : Except Failure Unit :=
  match text with
  | none => .ok ()
  | some t => if (Url.ofText? t).isSome then .ok () else .error .invalidUrl

/-- Refuse zero. -/
def checkPositive (name : String) (value : Option Nat) : Except Failure Unit :=
  if value = some 0 then .error (.invalidSettings (.notPositive name)) else .ok ()

/-- Check the settings. URLs come first, then numbers, then the proxy. -/
def check (s : Settings) : Except Failure Unit := do
  checkUrl s.specsUrl
  checkUrl s.eventsUrl
  checkUrl s.idListsUrl
  checkPositive "specs_sync_interval_ms" s.specsIntervalMs
  checkPositive "event_logging_flush_interval_ms" s.flushIntervalMs
  checkPositive "id_lists_sync_interval_ms" s.idListsIntervalMs
  checkPositive "request_timeout_ms" s.requestTimeoutMs
  checkPositive "event_logging_max_queue_size" s.maxQueueSizeSetting
  checkPositive "event_logging_batch_size" s.batchSizeSetting
  checkUrl (s.proxy.bind (·.urlText?))

/-- Whether a text can be sent in a header: no control characters but tabs. -/
def isHeaderText (s : String) : Bool :=
  s.toList.all fun c => (' ' ≤ c || c == '\t') && c.toNat != 127

/-- Refuse a key that is blank or cannot be sent in a header. -/
def checkSdkKey (key : String) : Except Failure Unit :=
  if (Text.trim key).isEmpty || !isHeaderText key then .error .invalidSdkKey else .ok ()

end Settings

end Rollout
