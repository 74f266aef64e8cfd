-- SUMMARY: The schedule of registry refreshes: a grid of ticks that is never made up for.
import WebhookRelay.Log

/-!
# The refresh schedule

Ticks are due at the start plus multiples of the period, which is at least one
second. A tick that is served late is served once; the ticks that passed
meanwhile are skipped, and the next one is due at the next point of the grid.
-/

namespace WebhookRelay

/-- The least period, in milliseconds. -/
def minRefreshPeriod : Nat := 1000

/-- A periodic schedule, in milliseconds of a clock that only moves on. -/
structure Schedule where
  period : Nat
  /-- When the next tick is due. -/
  due : Nat
  cancelled : Bool
  deriving DecidableEq, Repr

namespace Schedule

/-- A schedule that starts at a time; the first tick is due one period later. -/
def startingAt (start requested : Nat) : Schedule :=
  let period := max requested minRefreshPeriod
  ⟨period, start + period, false⟩

/-- The last millisecond that the clock can tell, which counts seconds in 63 bits. -/
def lastInstant : Nat := 9223372036854775808 * 1000 - 1

/-- Whether the clock can tell the time of the first tick. -/
def fits (start requested : Nat) : Bool :=
  (startingAt start requested).due ≤ lastInstant

/-- The record of a period that had to be raised. -/
def raisedRecord? (requested : Nat) : Option LogRecord :=
  if requested < minRefreshPeriod then
    some ⟨.warn, "Refresh period too short, using minimum",
      [("requested_ms", toString requested), ("period_ms", toString minRefreshPeriod)]⟩
  else none

/-- Looks at the schedule at a time. When a tick is due it is served: gives the time
it was due at, and the schedule with the next point of the grid after `now`. -/
def poll? (s : Schedule) (now : Nat) : Option (Nat × Schedule) :=
  if s.cancelled ∨ now < s.due then none
  else some (s.due, { s with due := s.due + ((now - s.due) / s.period + 1) * s.period })

/-- Stops the schedule. -/
def cancel (s : Schedule) : Schedule :=
  { s with cancelled := true }

/-- Serves every tick on time until a time is reached; fuel bounds their number. -/
def serveFrom (s : Schedule) (limit : Nat) : Nat → List Nat × Schedule
  | 0 => ([], s)
  | fuel + 1 =>
    if limit < s.due then ([], s)
    else
      match s.poll? s.due with
      | none => ([], s)
      | some (tick, s) =>
        let (ticks, s) := serveFrom s limit fuel
        (tick :: ticks, s)

/-- Lets time pass smoothly up to a time: the ticks served, each when it is due. -/
def passUntil (s : Schedule) (time : Nat) : List Nat × Schedule :=
  s.serveFrom time (time - s.due + 1)

/-- Lets the clock leap to a time: at most one tick is served, late. -/
def leapTo (s : Schedule) (time : Nat) : List Nat × Schedule :=
  match s.poll? time with
  | some (tick, s) => ([tick], s)
  | none => ([], s)

end Schedule
end WebhookRelay
