-- SUMMARY: The relay: messages in, events to the feed and to every relevant webhook.
import WebhookRelay.Delivery.Outcome
import WebhookRelay.Feed
import WebhookRelay.Registry.Basic

/-!
# The relay

A message that is no valid event is dropped. Any other is published to the feed
and posted to every webhook of the registry that it is relevant to, once each.

Posting has two steps. `Relay.capture` fixes the targets and the body, `settle`
takes up one delivery after it came to an end. Between the two the registry may
be refreshed; a delivery in flight keeps the subscription it was captured with
and counts on the statistics it was captured with.
-/

namespace WebhookRelay

/-- What is needed to talk to the webhooks. -/
structure Outlet where
  network : Network
  maxRedirects : Nat

/-- The relay between two steps. -/
structure Relay where
  policy : HealthPolicy
  repository : Repository
  ledger : Ledger
  registry : Registry
  feed : Feed

/-- A delivery that has begun. -/
structure InFlight where
  entry : Entry
  body : String
  deriving DecidableEq

/-- What a step of posting produced. -/
structure Posted where
  outcomes : List Outcome
  requests : List HttpRequest
  log : List LogRecord

/-- The record of a settled delivery. -/
def Outcome.logRecord (o : Outcome) (body : String) : LogRecord :=
  let target := [("webhook_id", o.webhookId.text), ("url", o.url)]
  match o.result with
  | .ok response =>
    ⟨.info, "Success sending event",
      target ++ [("status", toString response.status), ("data", response.body)]⟩
  | .error failure =>
    let data := match failure with
      | .errorResponse _ text => some text
      | _ => none
    ⟨.warn, "Error sending event",
      target ++ [("event", body), ("status", Text.optional (o.status?.map toString)),
        ("data", Text.optional (data.map Text.quoted)), ("error", failure.message)]⟩

namespace Relay

/-- A relay over a repository, with an empty registry. -/
def ofRepository (policy : HealthPolicy) (streamCapacity : Nat) (repository : Repository) : Relay :=
  ⟨policy, repository, .empty, .empty, .ofCapacity streamCapacity⟩

/-- The deliveries of an event that the current registry asks for. -/
def capture (r : Relay) (e : Event) : List InFlight :=
  (r.registry.entries.filter (·.subscription.isRelevant e)).map (⟨·, e.body⟩)

/-- Takes up the end of a delivery: its outcome is counted where it was captured. -/
def settle (r : Relay) (d : InFlight) (o : Outcome) : Relay :=
  { r with ledger := r.ledger.modify d.entry.stats (·.record o.isSuccess) }

/-- Carries deliveries out, in order. -/
def settleAll (outlet : Outlet) (r : Relay) : List InFlight → Relay × Posted
  | [] => (r, ⟨[], [], []⟩)
  | d :: rest =>
    let (o, sent) :=
      Delivery.deliver outlet.network outlet.maxRedirects d.entry.subscription d.body
    let (r, posted) := settleAll outlet (r.settle d o) rest
    (r, ⟨o :: posted.outcomes, sent ++ posted.requests, o.logRecord d.body :: posted.log⟩)

/-- Posts an event to every relevant webhook. -/
def post (outlet : Outlet) (r : Relay) (e : Event) : Relay × Posted :=
  settleAll outlet r (r.capture e)

/-- What became of a message. -/
inductive Processed where
  | dropped (reason : EventError)
  | dispatched (outcomes : List Outcome)

/-- The record of a dropped message, which stands under the message's own text. -/
def dropRecord (payload : ByteArray) (e : EventError) : LogRecord :=
  ⟨.warn, Text.lossy payload, [("error", e.message)]⟩

/-- The record of an accepted event. -/
def acceptRecord (e : Event) : LogRecord :=
  ⟨.debug, "Processing event",
    [("chain_id", e.chainId), ("event_type", e.type), ("address", e.address)]⟩

/-- Processes a message: drops it, or publishes and posts the event it holds. -/
def process (outlet : Outlet) (r : Relay) (payload : ByteArray) :
    Relay × Processed × List HttpRequest × List LogRecord :=
  match Event.ofPayload payload with
  | .error e => (r, .dropped e, [], [dropRecord payload e])
  | .ok e =>
    let (r, posted) := post outlet { r with feed := r.feed.publish e } e
    (r, .dispatched posted.outcomes, posted.requests, acceptRecord e :: posted.log)

/-- Refreshes the registry; the clock is read for the health check and after reading the store. -/
def tryRefresh (checked loaded : Time) (r : Relay) :
    Relay × Except DispatchError RefreshReport × List LogRecord :=
  let done := r.registry.tryRefresh r.policy checked loaded r.repository r.ledger
  ({ r with repository := done.repository, ledger := done.ledger, registry := done.registry },
    done.result, done.log)

/-- Refreshes the registry; an error is logged. -/
def refresh (checked loaded : Time) (r : Relay) :
    Relay × Option RefreshReport × List LogRecord :=
  let (r, result, log) := tryRefresh checked loaded r
  match result with
  | .ok report => (r, some report, log)
  | .error e => (r, none, log ++ [Registry.failureRecord e])

end Relay
end WebhookRelay
