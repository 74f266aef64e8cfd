-- SUMMARY: What a running server does with a scripted broker.
import WebhookRelay.Broker.Script
import WebhookRelay.Server.Run

/-!
# A server with a scripted broker

The course of events of a server whose broker follows a script. A script that ends
with a cancellation means that the server gets a signal.
-/

namespace WebhookRelay.ServerRun

/-- The events of setting consuming up. -/
def setupEvents (sent : List BrokerRequest) (granted : Bool) : List ServerEvent :=
  if granted then sent.map fun _ => .granted
  else (sent.drop 1).map (fun _ => .granted) ++ [.refused]

/-- What an event of the consumer means for the server: a cancellation comes with a signal. -/
def consumerEvents : ConsumerEvent → List ServerEvent
  | .left .cancelled => [.signalled, .consumer (.left .cancelled)]
  | e => [.consumer e]

/-- The events from the start of the consumer to the return of the server. -/
def servingEvents (r : ServerRun) (script : BrokerScript) : List ServerEvent :=
  (script.events fun _ => false).flatMap consumerEvents ++ [.consumerEnded]
    ++ (if r.refreshTask = .running then [.refreshTaskEnded] else []) ++ [.finished]

/-- The course of events with a broker that follows a script, or with none. -/
def eventsWith (r : ServerRun) (b : BrokerSettings) : Option BrokerScript → List ServerEvent
  | none => [.unreachable]
  | some script =>
    let (sent, granted) := script.connect b
    setupEvents sent granted ++ if granted then r.servingEvents script else []

end WebhookRelay.ServerRun
