-- SUMMARY: Delivery statistics and the ledger that keeps them apart from the entries that use them.

/-!
# Delivery statistics

Successes and failures of one webhook since its health window opened. The
records live in a `Ledger` under keys. A registry entry only holds a key, and so
does a delivery in flight: both speak of the same record however often the
registry is rebuilt around it, and a key is never used twice.
-/

namespace WebhookRelay

/-- Milliseconds since the epoch. -/
abbrev Time := Int

/-- What was delivered to a webhook in its current window. The counters of the process have 64 bits
and would wrap around after 2^64 deliveries in one window; such windows are left out here, as
`Watch.Countable` leaves them out where the size of a count matters. -/
structure Stats where
  successes : Nat
  failures : Nat
  windowStart : Time
  deriving DecidableEq, Repr

namespace Stats

/-- Nothing delivered, a window opening at a time. -/
def startingAt (time : Time) : Stats :=
  ⟨0, 0, time⟩

/-- Counts deliveries that succeeded. -/
def addSuccesses (s : Stats) (n : Nat) : Stats :=
  { s with successes := s.successes + n }

/-- Counts deliveries that failed. -/
def addFailures (s : Stats) (n : Nat) : Stats :=
  { s with failures := s.failures + n }

/-- Counts one delivery. -/
def record (s : Stats) (success : Bool) : Stats :=
  if success then s.addSuccesses 1 else s.addFailures 1

/-- Zeroes the counters and opens a new window. -/
def resetAt (_ : Stats) (time : Time) : Stats :=
  startingAt time

/-- The share of failures in percent: the rounded quotient times one hundred,
rounded again; zero when nothing was delivered. -/
def failureRate (s : Stats) : Float :=
  let total := s.successes + s.failures
  if total = 0 then 0.0
  else s.failures.toUInt64.toFloat / total.toUInt64.toFloat * 100.0

end Stats

/-- Names a record of a ledger. -/
abbrev StatsKey := Nat

/-- All statistics ever opened, each under its key. -/
structure Ledger where
  records : List Stats
  deriving DecidableEq, Repr

namespace Ledger

/-- A ledger without records. -/
def empty : Ledger :=
  ⟨[]⟩

/-- The record under a key. Keys come from `add`, so a record is always there. -/
def get (l : Ledger) (key : StatsKey) : Stats :=
  (l.records[key]?).getD (.startingAt 0)

/-- Changes the record under a key. -/
def modify (l : Ledger) (key : StatsKey) (f : Stats → Stats) : Ledger :=
  ⟨l.records.modify key f⟩

/-- Opens a record under a new key. -/
def add (l : Ledger) (s : Stats) : StatsKey × Ledger :=
  (l.records.length, ⟨l.records ++ [s]⟩)

@[simp] theorem get_add (l : Ledger) (s : Stats) : (l.add s).2.get (l.add s).1 = s := by
  simp [add, get]

theorem get_add_of_lt (l : Ledger) (s : Stats) {key : StatsKey} (h : key < l.records.length) :
    (l.add s).2.get key = l.get key := by
  simp [add, get, List.getElem?_append_left h]

@[simp] theorem length_records_modify (l : Ledger) (key : StatsKey) (f : Stats → Stats) :
    (l.modify key f).records.length = l.records.length := by
  simp [modify]

theorem get_modify (l : Ledger) (f : Stats → Stats) {key other : StatsKey}
    (h : key < l.records.length) :
    (l.modify key f).get other = if other = key then f (l.get key) else l.get other := by
  by_cases e : other = key
  · subst e
    simp [modify, get, List.getElem?_eq_getElem h]
  · simp [modify, get, e, Ne.symm e]

end Ledger
end WebhookRelay
