import Rollout.Event
import Rollout.Http

/-!
# Delivery of events over a network
-/

namespace Rollout

/-- A client of the server that batches of events are posted to. -/
structure EventPoster where
  client : HttpClient
  sdkKey : String
  url : Url
  deriving Repr, DecidableEq

namespace EventPoster

/-- The client that settings ask for. -/
def ofSettings (sdkKey : String) (s : Settings) : Except Failure EventPoster := do
  let url ← Settings.url s.eventsUrl Settings.defaultEventsUrl
  let client ← HttpClient.ofSettings s
  return { client, sdkKey, url }

/-- The request that posts a batch. -/
def request (p : EventPoster) (b : EventBatch) : HttpRequest :=
  { method := "POST", url := p.url, body := b.toJson.render,
    headers := b.reporter.headers p.sdkKey ++
      [("statsig-event-count", toString b.events.length)] }

/-- What the response to a batch means. -/
def outcomeOf (r : HttpResponse) : Except Failure Unit :=
  if r.status = 401 || r.status = 403 then .error .unauthorized
  else if !r.isSuccess then .error (.unexpectedStatus r.status)
  else .ok ()

/-- Post a batch. -/
def post (p : EventPoster) (b : EventBatch) : StateM Network (Except Failure Unit) := do
  return (← p.client.exchange (p.request b)).bind outcomeOf

end EventPoster

end Rollout
