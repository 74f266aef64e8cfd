-- SUMMARY: Brokers that follow a script, and what a consumer does with one.
import WebhookRelay.Broker.Consumer

/-!
# Scripted brokers

A script says which request of the set-up the broker refuses, which messages it
delivers and how the consuming ends. `events` is the course of events that it
stands for; every one of its events can happen when it comes.
-/

namespace WebhookRelay

/-- How consuming ends. -/
inductive ScriptEnding where
  /-- The broker ends the stream. -/
  | streamEnds
  /-- The broker closes the channel. -/
  | channelCloses
  /-- The connection is lost. -/
  | connectionDrops
  /-- The consumer is cancelled, when every message is done with. -/
  | cancelledAtRest
  /-- The consumer is cancelled while every handler is at work. -/
  | cancelledAtWork
  /-- The connection is lost while every handler is at work. -/
  | lostAtWork
  deriving DecidableEq, Repr

/-- A broker's script. -/
structure BrokerScript where
  refuses : BrokerRequest → Bool
  messages : List ByteArray
  ending : ScriptEnding

namespace BrokerScript

/-- What happens to the task of a message once it has called the handler. -/
def taskEvents (breaks : ByteArray → Bool) (reachable : Bool) (tag : Nat) (payload : ByteArray) :
    List ConsumerEvent :=
  if breaks payload then [.handlerBroke tag, .taskJoined tag]
  else [.handlerReturned tag, .acknowledged tag reachable, .taskJoined tag]

/-- The course of events, for a handler that breaks off on some messages. -/
def events (s : BrokerScript) (breaks : ByteArray → Bool) : List ConsumerEvent :=
  let deliveries := s.messages.map ConsumerEvent.delivered
  let calls := (s.messages.zipIdx 1).map fun (_, tag) => ConsumerEvent.handlerCalled tag
  let work := fun reachable =>
    (s.messages.zipIdx 1).flatMap fun (payload, tag) => taskEvents breaks reachable tag payload
  let rest := match s.ending with
    | .streamEnds =>
      work true ++ [.left .streamEnded, .channelClosed true, .connectionClosed true]
    | .channelCloses =>
      work true ++ [.linkChanged .channelClosed, .left .streamFailed, .channelClosed false,
        .connectionClosed true]
    | .connectionDrops =>
      work true ++ [.linkChanged .lost, .left .streamFailed, .channelClosed false,
        .connectionClosed false]
    | .cancelledAtRest =>
      work true ++ [.left .cancelled, .channelClosed true, .connectionClosed true]
    | .cancelledAtWork =>
      [.left .cancelled] ++ work true ++ [.channelClosed true, .connectionClosed true]
    | .lostAtWork =>
      [.linkChanged .lost, .left .streamFailed] ++ work false
        ++ [.channelClosed false, .connectionClosed false]
  deliveries ++ calls ++ rest

/-- Connects to the broker: what was sent, and whether everything was granted. -/
def connect (s : BrokerScript) (b : BrokerSettings) : List BrokerRequest × Bool :=
  Broker.sendAll (!s.refuses ·) (Broker.setup b)

/-- Connects a consumer and runs it to its end. Gives the payloads that were handled,
what the broker saw, and the result, with an error of connecting apart. -/
def consume (s : BrokerScript) (b : BrokerSettings) (breaks : ByteArray → Bool) :
    List ByteArray × List BrokerRequest × Except InfraError (Except InfraError Unit) :=
  let (sent, granted) := s.connect b
  if granted then
    match Consumer.start.run? (s.events breaks) with
    | some c =>
      let result := c.result?.getD (.error (.messaging "the consumer did not end"))
      (c.handled, sent ++ c.sent, .ok result)
    | none => ([], sent, .ok (.error (.messaging "the script cannot be followed")))
  else ([], sent, .error (.messaging "the broker refused a request"))

end BrokerScript
end WebhookRelay
