-- SUMMARY: The queue consumer as a transition system: taking, handling, acknowledging and closing.
import WebhookRelay.Broker.Basic
import WebhookRelay.Error

/-!
# The queue consumer

The consumer takes messages as the broker delivers them and starts a task for each,
which calls the handler. A message is acknowledged after its handler returned; one whose
handler broke off is not. The consumer stops taking messages when it is cancelled, when
the broker ends the stream or when the stream fails. It then waits for its tasks, closes
the channel and the connection, and fails only if the stream did.

`Consumer.step?` says which events can happen in a state and what they do. What the
broker gets to see is kept in `sent`: nothing arrives over a lost connection, and
over a closed channel only the end of the connection.
-/

namespace WebhookRelay

/-- How far the task of a message has come. -/
inductive TaskPhase where
  /-- The task was started and has not called the handler yet. -/
  | waiting
  /-- The handler is at work. -/
  | handling
  /-- The handler returned; the message is about to be acknowledged. -/
  | acknowledging
  /-- The task is over: acknowledging succeeded or failed, or, with `none`, the handler
  broke off. -/
  | ended (acknowledged : Option Bool)
  /-- The consumer has taken notice of the end of the task. -/
  | joined (acknowledged : Option Bool)
  deriving DecidableEq, Repr

/-- A message that was taken from the stream. -/
structure TakenMessage where
  /-- The number under which the broker delivered it. -/
  tag : Nat
  payload : ByteArray
  phase : TaskPhase

/-- Why no more messages are taken. -/
inductive ConsumerExit where
  | cancelled
  | streamEnded
  | streamFailed
  deriving DecidableEq, Repr

/-- What is left of the way to the broker. -/
inductive BrokerLink where
  | up
  | channelClosed
  | lost
  deriving DecidableEq, Repr

/-- Whether a request gets through. -/
def BrokerLink.carries : BrokerLink → BrokerRequest → Bool
  | .up, _ => true
  | .channelClosed, .closeConnection _ _ => true
  | .channelClosed, _ => false
  | .lost, _ => false

/-- How far the consumer has closed up. -/
inductive Closing where
  | none
  | channel
  | connection
  deriving DecidableEq, Repr

/-- A queue consumer between two events. -/
structure Consumer where
  /-- The messages taken so far, in order. -/
  taken : List TakenMessage
  /-- The payloads that the handler was called with, in the order of the calls. -/
  handled : List ByteArray
  exit : Option ConsumerExit
  closing : Closing
  link : BrokerLink
  /-- What the broker got to see. -/
  sent : List BrokerRequest

/-- What can happen to a consumer. -/
inductive ConsumerEvent where
  /-- The stream gives the next message. -/
  | delivered (payload : ByteArray)
  | handlerCalled (tag : Nat)
  | handlerReturned (tag : Nat)
  | handlerBroke (tag : Nat)
  | acknowledged (tag : Nat) (succeeded : Bool)
  | taskJoined (tag : Nat)
  /-- The loop over the stream is left. -/
  | left (exit : ConsumerExit)
  /-- The way to the broker changes, from outside. -/
  | linkChanged (link : BrokerLink)
  /-- Closing the channel succeeded or failed. -/
  | channelClosed (succeeded : Bool)
  /-- Closing the connection succeeded or failed. -/
  | connectionClosed (succeeded : Bool)

/-- The phase that an event of the task leads to. -/
def TaskPhase.next? : TaskPhase → ConsumerEvent → Option TaskPhase
  | .waiting, .handlerCalled _ => some .handling
  | .handling, .handlerReturned _ => some .acknowledging
  | .handling, .handlerBroke _ => some (.ended none)
  | .acknowledging, .acknowledged _ succeeded => some (.ended (some succeeded))
  | .ended acknowledged, .taskJoined _ => some (.joined acknowledged)
  | _, _ => none

namespace Consumer

/-- A consumer that has just begun. -/
def start : Consumer :=
  ⟨[], [], none, .none, .up, []⟩

/-- The message with a tag. -/
def find? (c : Consumer) (tag : Nat) : Option TakenMessage :=
  c.taken.find? (·.tag = tag)

/-- Sends a request, which arrives if the link carries it. -/
def send (c : Consumer) (r : BrokerRequest) : Consumer :=
  { c with sent := if c.link.carries r then c.sent ++ [r] else c.sent }

/-- Moves the task of a message on. -/
def advance? (c : Consumer) (tag : Nat) (e : ConsumerEvent) : Option Consumer := do
  let m ← c.find? tag
  let phase ← m.phase.next? e
  return { c with taken := c.taken.map fun m => if m.tag = tag then { m with phase } else m }

/-- Whether every task is over and joined. -/
def isIdle (c : Consumer) : Bool :=
  c.taken.all fun m => match m.phase with
    | .joined _ => true
    | _ => false

/-- Notes that the handler was called with the payload of a message. -/
def call (c : Consumer) (tag : Nat) : Consumer :=
  { c with handled := c.handled ++ ((c.find? tag).map (·.payload)).toList }

/-- Carries an event out; `none` when it cannot happen. The consumer goes on in the same
way when an acknowledgement or closing fails. -/
def step? (c : Consumer) (e : ConsumerEvent) : Option Consumer :=
  match e with
  | .delivered payload =>
    if c.exit.isNone then
      some { c with taken := c.taken ++ [⟨c.taken.length + 1, payload, .waiting⟩] }
    else none
  | .handlerCalled tag => (c.advance? tag e).map (·.call tag)
  | .handlerReturned tag => c.advance? tag e
  | .handlerBroke tag => c.advance? tag e
  | .acknowledged tag succeeded =>
    (c.advance? tag e).map fun c => if succeeded then c.send (.acknowledge tag) else c
  | .taskJoined tag => c.advance? tag e
  | .left exit => if c.exit.isNone then some { c with exit } else none
  | .linkChanged link => some { c with link }
  | .channelClosed _ =>
    if c.exit.isSome && c.isIdle && c.closing == .none then
      some ({ c with closing := .channel }.send Broker.closeChannel)
    else none
  | .connectionClosed _ =>
    if c.closing == .channel then
      some ({ c with closing := .connection }.send Broker.closeConnection)
    else none

/-- Carries events out, one after the other. -/
def run? (c : Consumer) (events : List ConsumerEvent) : Option Consumer :=
  events.foldlM step? c

/-- The result of a consumer that has closed up. -/
def result? (c : Consumer) : Option (Except InfraError Unit) :=
  match c.closing, c.exit with
  | .connection, some .streamFailed => some (.error (.messaging "the stream of messages failed"))
  | .connection, some _ => some (.ok ())
  | _, _ => none

end Consumer
end WebhookRelay
