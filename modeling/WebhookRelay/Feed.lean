-- SUMMARY: The in-process feed of accepted events: a bounded broadcast to subscribers.
import WebhookRelay.Event.Basic
import WebhookRelay.Log

/-!
# The event feed

Every accepted event is broadcast to local subscribers. The feed holds the last
`capacity` events; a subscriber keeps a cursor into the numbered sequence of
published events. One that falls behind goes on at the oldest event still held.
A subscriber may follow a single address only.
-/

namespace WebhookRelay

/-- The least power of two that is at least `n` and at least one. -/
def nextPowerOfTwo (n : Nat) : Nat :=
  if n ≤ 1 then 1 else 1 <<< (Nat.log2 (n - 1) + 1)

/-- A reader of the feed. -/
structure Subscriber where
  /-- The number of the next event to look at. -/
  cursor : Nat
  /-- The only address to follow. -/
  address : Option String
  deriving DecidableEq, Repr

/-- Whether an event is one the subscriber follows. -/
def Subscriber.accepts (s : Subscriber) (e : Event) : Bool :=
  s.address.elim true (e.address == ·)

/-- A broadcast of events. -/
structure Feed where
  capacity : Nat
  /-- How many events were published. -/
  published : Nat
  /-- The last events published, the oldest first. -/
  held : List Event
  /-- How many handles can still publish. -/
  handles : Nat
  /-- The readers by name. -/
  subscribers : List (String × Subscriber)

namespace Feed

/-- The capacity of a feed that is made without choosing one. -/
def defaultCapacity : Nat := 1024

/-- The most events that a feed can be asked for. The ring of a feed is allocated at once, and
there is no memory for one of this size by far; allocation is not modelled. -/
def maxCapacity : Nat := 9223372036854775807

/-- A feed with one handle and without readers. -/
def ofCapacity (capacity : Nat) : Feed :=
  ⟨nextPowerOfTwo capacity, 0, [], 1, []⟩

/-- Publishes an event. -/
def publish (f : Feed) (e : Event) : Feed :=
  let held := f.held ++ [e]
  { f with published := f.published + 1, held := held.drop (held.length - f.capacity) }

/-- The number of the oldest event still held. -/
def oldest (f : Feed) : Nat :=
  f.published - f.held.length

/-- Adds a reader of what is published from now on. -/
def subscribe (f : Feed) (name : String) (address : Option String) : Feed :=
  { f with subscribers := (name, ⟨f.published, address⟩) :: f.subscribers.filter (·.1 != name) }

/-- Removes a reader. -/
def unsubscribe (f : Feed) (name : String) : Feed :=
  { f with subscribers := f.subscribers.filter (·.1 != name) }

/-- One more handle. -/
def clone (f : Feed) : Feed :=
  { f with handles := f.handles + 1 }

/-- One handle fewer. -/
def close (f : Feed) : Feed :=
  { f with handles := f.handles - 1 }

/-- What a reader gets. -/
inductive Received where
  | event (e : Event)
  /-- Nothing yet. -/
  | waiting
  /-- Nothing any more. -/
  | closed

/-- The first accepted event from a number on, and the number behind it. -/
def next? (s : Subscriber) : Nat → List Event → Option (Event × Nat)
  | _, [] => none
  | n, e :: rest => if s.accepts e then some (e, n + 1) else next? s (n + 1) rest

/-- The record of a reader that lost events. -/
def lagRecord (skipped : Nat) : LogRecord :=
  ⟨.warn, "Event stream subscriber lagged behind", [("skipped", toString skipped)]⟩

/-- What a reader gets from the events held, and the reader afterwards. -/
def read (f : Feed) (s : Subscriber) : Received × Subscriber × List LogRecord :=
  let start := max s.cursor f.oldest
  let log := if s.cursor < start then [lagRecord (start - s.cursor)] else []
  match next? s start (f.held.drop (start - f.oldest)) with
  | some (e, cursor) => (.event e, { s with cursor }, log)
  | none => (if f.handles = 0 then .closed else .waiting, { s with cursor := f.published }, log)

/-- Lets a reader take its next event; `none` for a reader that is not there. -/
def receive? (f : Feed) (name : String) : Option (Received × Feed × List LogRecord) :=
  (f.subscribers.lookup name).map fun s =>
    let (received, s, log) := f.read s
    (received, { f with subscribers := f.subscribers.map fun (n, r) =>
      (n, if n = name then s else r) }, log)

end Feed
end WebhookRelay
