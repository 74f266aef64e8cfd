-- SUMMARY: A running server as a transition system: consumer, refresh task and shutdown.
import WebhookRelay.Broker.Consumer
import WebhookRelay.Schedule
import WebhookRelay.Server.Basic

/-!
# The running server

A server loads the registry, starts the task that refreshes it, sets consuming up
and serves until a signal arrives or the consumer is through. It then cancels what
still runs, waits for the consumer and for the refresh task, and returns.

`ServerRun.step?` says which events can happen in a state and what they do. When
the broker refuses a request of the set-up the server returns at once; nobody
cancels the refresh task then.
-/

namespace WebhookRelay

/-- How the task that refreshes the registry is doing. -/
inductive RefreshTask where
  | running
  | ended
  /-- It broke off, because the clock cannot tell the time of its first tick. -/
  | broken
  deriving DecidableEq, Repr

/-- How far the server has come. -/
inductive ServerPhase where
  /-- Consuming is being set up; the requests that are still to be sent. -/
  | connecting (remaining : List BrokerRequest)
  | serving (consumer : Consumer)
  /-- The consumer is through, and the refresh task is waited for. -/
  | closing (consumed : Except InfraError Unit)
  | returned (result : Except ServerError Unit)

/-- A running server between two events. -/
structure ServerRun where
  relay : Relay
  outlet : Outlet
  refreshTask : RefreshTask
  /-- Whether the consumer and the refresh task were told to stop. -/
  cancelled : Bool
  phase : ServerPhase
  /-- What the broker got to see, but for the requests of a consumer at work. -/
  sent : List BrokerRequest
  /-- The requests that were sent to webhooks. -/
  requests : List HttpRequest

/-- What can happen to a running server. -/
inductive ServerEvent where
  /-- The broker grants the next request of the set-up. -/
  | granted
  /-- The broker refuses the next request of the set-up. -/
  | refused
  /-- The broker cannot be reached. -/
  | unreachable
  | consumer (event : ConsumerEvent)
  /-- The process is asked to stop. -/
  | signalled
  /-- The server takes notice of the end of the consumer. -/
  | consumerEnded
  /-- The refresh task refreshes the registry; the clock is read twice. -/
  | ticked (checked loaded : Time)
  | refreshTaskEnded
  /-- The server takes notice of the end of the refresh task. -/
  | finished

/-- Starts a server, with the time and with what the clock of the schedule shows:
loads the registry, then starts the refresh task. -/
def Server.launch (s : Server) (now : Time) (clock : Nat) : Except ServerError ServerRun :=
  let (relay, result, _) := s.relay.tryRefresh now now
  match result with
  | .error e => .error (.loading e)
  | .ok _ =>
    let fits := Schedule.fits clock s.settings.webhooks.refreshPeriod
    .ok ⟨relay, s.outlet, if fits then .running else .broken, false,
      .connecting (Broker.setup s.settings.broker), [], []⟩

namespace ServerRun

/-- Whether an event can come to the consumer: the relay never breaks off, and the
consumer leaves its loop for a cancellation only when there was one. -/
def admits (r : ServerRun) : ConsumerEvent → Bool
  | .handlerBroke _ => false
  | .left .cancelled => r.cancelled
  | _ => true

/-- Does what belongs to an event of the consumer: when a handler returns, the relay
has processed the message. -/
def handle (r : ServerRun) (c : Consumer) : ConsumerEvent → ServerRun
  | .handlerReturned tag =>
    match c.find? tag with
    | some m =>
      let (relay, _, requests, _) := r.relay.process r.outlet m.payload
      { r with relay, requests := r.requests ++ requests }
    | none => r
  | _ => r

/-- The result of the server, by the end of the refresh task and the result of the consumer. -/
def resultOf (t : RefreshTask) (consumed : Except InfraError Unit) : Except ServerError Unit :=
  if t = .broken then .error .refreshing else consumed.mapError .consumer

/-- Returns with an error of connecting to the broker. -/
def abandon (r : ServerRun) (sent : List BrokerRequest) (text : String) : ServerRun :=
  { r with sent, phase := .returned (.error (.broker (.messaging text))) }

/-- Carries an event out; `none` when it cannot happen. -/
def step? (r : ServerRun) : ServerEvent → Option ServerRun
  | .granted =>
    match r.phase with
    | .connecting (q :: remaining) =>
      let phase := if remaining.isEmpty then .serving .start else .connecting remaining
      some { r with sent := r.sent ++ [q], phase }
    | _ => none
  | .refused =>
    match r.phase with
    | .connecting (q :: _) => some (r.abandon (r.sent ++ [q]) "the broker refused a request")
    | _ => none
  | .unreachable =>
    match r.phase with
    | .connecting _ => some (r.abandon r.sent "there is no broker at the URL")
    | _ => none
  | .consumer e =>
    match r.phase with
    | .serving c =>
      if r.admits e then (c.step? e).map fun next => { r.handle c e with phase := .serving next }
      else none
    | _ => none
  | .signalled =>
    match r.phase with
    | .serving _ => some { r with cancelled := true }
    | _ => none
  | .consumerEnded =>
    match r.phase with
    | .serving c =>
      c.result?.map fun consumed =>
        { r with cancelled := true, sent := r.sent ++ c.sent, phase := .closing consumed }
    | _ => none
  | .ticked checked loaded =>
    if r.refreshTask = .running then some { r with relay := (r.relay.refresh checked loaded).1 }
    else none
  | .refreshTaskEnded =>
    if r.refreshTask = .running ∧ r.cancelled then some { r with refreshTask := .ended } else none
  | .finished =>
    match r.phase with
    | .closing consumed =>
      if r.refreshTask = .running then none
      else some { r with phase := .returned (resultOf r.refreshTask consumed) }
    | _ => none

/-- Carries events out, one after the other. -/
def run? (r : ServerRun) (events : List ServerEvent) : Option ServerRun :=
  events.foldlM step? r

/-- The result of a server that has returned. -/
def result? (r : ServerRun) : Option (Except ServerError Unit) :=
  match r.phase with
  | .returned result => some result
  | _ => none

end ServerRun
end WebhookRelay
