-- SUMMARY: What the relay asks of the message broker, and connecting to it.
import WebhookRelay.Settings.Basic

/-!
# The message broker

The relay declares a durable fanout exchange and a durable queue, binds the one to
the other, limits the number of unacknowledged messages and starts to consume. The
first request that the broker refuses ends the attempt.
-/

namespace WebhookRelay

/-- A request to the broker. -/
inductive BrokerRequest where
  | openChannel
  /-- A durable exchange that passes every message to all queues bound to it. -/
  | declareExchange (name : String)
  /-- A durable queue. -/
  | declareQueue (name : String)
  | bindQueue (queue exchange : String)
  | limitUnacknowledged (count : UInt16)
  /-- Consumes from a queue, acknowledging messages. -/
  | consume (queue consumerTag : String)
  | acknowledge (tag : Nat)
  | closeChannel (code : Nat) (text : String)
  | closeConnection (code : Nat) (text : String)
  deriving DecidableEq, Repr

namespace Broker

/-- The name that the relay consumes under. -/
def consumerTag : String := "safe-events-relay"

/-- The requests that set consuming up, in order. -/
def setup (b : BrokerSettings) : List BrokerRequest :=
  [.openChannel, .declareExchange b.exchange, .declareQueue b.queue,
    .bindQueue b.queue b.exchange, .limitUnacknowledged b.prefetch, .consume b.queue consumerTag]

/-- Sends requests up to the first that is refused. Gives those that were sent, and
whether all were granted. -/
def sendAll (grants : BrokerRequest → Bool) : List BrokerRequest → List BrokerRequest × Bool
  | [] => ([], true)
  | r :: rest =>
    if grants r then
      let (sent, granted) := sendAll grants rest
      (r :: sent, granted)
    else ([r], false)

/-- Closing the channel. -/
def closeChannel : BrokerRequest :=
  .closeChannel 200 "shutdown"

/-- Closing the connection. -/
def closeConnection : BrokerRequest :=
  .closeConnection 200 "shutdown"

end Broker
end WebhookRelay
